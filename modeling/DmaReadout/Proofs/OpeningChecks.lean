import DmaReadout.Proofs.AccessHistory
import DmaReadout.Proofs.Requirements
import Mathlib.Data.List.Dedup

/-!
# What opening a channel checks

The parameters of a channel go through six checks, and the first that they do not pass decides the
error. The links are asked for as a list, of which neither the order nor a repetition counts.
-/

namespace DmaReadout

open Requirement (ite_eq_enforce)

variable {κ : Type}

namespace LinkId

variable {links links' : List LinkId}

lemma nodup_of_ascending (h : links.Pairwise (· < ·)) : links.Nodup := by
  apply h.imp
  rintro id id' hlt rfl
  exact UInt32.lt_irrefl id.val hlt

/-- Ascending lists of the same links are the same. -/
lemma eq_of_ascending (h : links.Pairwise (· < ·)) (h' : links'.Pairwise (· < ·))
    (hmem : ∀ id, id ∈ links ↔ id ∈ links') : links = links' := by
  apply List.Perm.eq_of_pairwise _ h h'
  · exact (List.perm_ext_iff_of_nodup (nodup_of_ascending h) (nodup_of_ascending h')).2 hmem
  · intro id id' _ _ hlt hgt
    exact absurd hgt (UInt32.lt_asymm hlt)

end LinkId

lemma LinkMask.eq_of_ids {mask mask' : LinkMask} (h : mask.ids = mask'.ids) : mask = mask' := by
  cases mask
  cases mask'
  cases h
  rfl

/-- The order and repetitions do not count. -/
lemma LinkMask.ofList_congr {ids ids' : List LinkId} (h : ∀ id, id ∈ ids ↔ id ∈ ids') :
    ofList ids = ofList ids' := by
  apply eq_of_ids
  apply LinkId.eq_of_ascending (ofList ids).ascending (ofList ids').ascending
  intro id
  rw [mem_ofList, mem_ofList]
  exact h id

namespace Parameters

variable (settings : Parameters) (ids : List LinkId)

/-- The numbers that the family does not address, among those that are asked for. -/
def unknownLinks : List UInt32 :=
  (ids.map LinkId.val).filter (settings.family.maxLinks ≤ ·)

/-- How many links are enabled if these are asked for. -/
def enabledCount : Nat :=
  if settings.family = .crorc ∨ ids = [] then 1 else ids.dedup.length

/-- A card with several links can be asked only for such as it has. -/
def maskRequirement : Requirement where
  met := settings.family = .crorc ∨ ids = [] ∨ ∀ id ∈ ids, id.val < settings.family.maxLinks
  refusal :=
    .invalidLinkId ((settings.unknownLinks ids).min?.getD 0) (settings.family.maxLinks - 1)

/-- What the parameters have to meet if these links are asked for, in the order of the checks. -/
def requirements : List Requirement :=
  let family := settings.family
  [⟨settings.channel ≤ family.lastChannel, .invalidChannel settings.channel family⟩,
    ⟨settings.pageSize ≠ 0, .invalidParameter .zeroPageSize⟩,
    ⟨settings.linkCapacity ≠ 0, .invalidParameter .zeroLinkCapacity⟩,
    ⟨settings.generatorEnabled = true → settings.dataSize ≠ 0, .invalidParameter .zeroDataSize⟩,
    settings.maskRequirement ids,
    ⟨settings.readyCapacity (settings.enabledCount ids) ≠ 0,
      .invalidParameter .zeroReadyCapacity⟩]

/-- These are the links that are enabled, in ascending order. -/
structure Enables (links : List LinkId) : Prop where
  ascending : links.Pairwise (· < ·)
  mem_iff : ∀ id, id ∈ links ↔
    if settings.family = .crorc ∨ ids = [] then id = ⟨0⟩ else id ∈ ids

/-- The links that are asked for, or the first one. -/
def askedLinks : List LinkId :=
  if settings.family = .crorc ∨ ids = [] then [⟨0⟩] else (LinkMask.ofList ids).ids

variable {settings ids}

lemma enables_askedLinks : settings.Enables ids (settings.askedLinks ids) := by
  unfold askedLinks
  constructor
  · split
    · exact List.pairwise_singleton _ _
    · exact (LinkMask.ofList ids).ascending
  · intro id
    split
    · exact List.mem_singleton
    · exact LinkMask.mem_ofList

lemma enables_iff {links : List LinkId} :
    settings.Enables ids links ↔ settings.askedLinks ids = links := by
  constructor
  · intro h
    apply LinkId.eq_of_ascending enables_askedLinks.ascending h.ascending
    intro id
    rw [enables_askedLinks.mem_iff, h.mem_iff]
  · rintro rfl
    exact enables_askedLinks

lemma length_askedLinks : (settings.askedLinks ids).length = settings.enabledCount ids := by
  unfold askedLinks enabledCount
  split
  · rfl
  · apply List.Perm.length_eq
    rw [List.perm_ext_iff_of_nodup (LinkId.nodup_of_ascending (LinkMask.ofList ids).ascending)
      ids.nodup_dedup]
    intro id
    rw [LinkMask.mem_ofList, List.mem_dedup]

lemma isMultiLink_eq_false (family : CardFamily) :
    (!family.isMultiLink) = true ↔ family = .crorc := by
  cases family <;> decide

lemma isEmpty_ofList : (LinkMask.ofList ids).ids.isEmpty = true ↔ ids = [] := by
  rw [List.isEmpty_iff, List.eq_nil_iff_forall_not_mem, List.eq_nil_iff_forall_not_mem]
  exact forall_congr' fun id => not_congr LinkMask.mem_ofList

/-- In ascending order, the first number that is not addressed is the smallest. -/
lemma unknownLink?_ofList (settings : Parameters) {id : LinkId}
    (h : unknownLink? settings.family (LinkMask.ofList ids).ids = some id) :
    (settings.unknownLinks ids).min? = some id.val := by
  obtain ⟨hunknown, earlier, later, hsplit, hknown⟩ := List.find?_eq_some_iff_append.1 h
  have hascending := (LinkMask.ofList ids).ascending
  rw [hsplit, List.pairwise_append, List.pairwise_cons] at hascending
  have hmem (other : LinkId) : other ∈ ids ↔ other ∈ earlier ++ id :: later := by
    rw [← LinkMask.mem_ofList, hsplit]
  have hid : id ∈ ids := (hmem id).2 (List.mem_append_right _ List.mem_cons_self)
  unfold unknownLinks
  rw [List.min?_eq_some_iff, List.mem_filter]
  refine ⟨⟨List.mem_map_of_mem hid, hunknown⟩, fun value hvalue => ?_⟩
  obtain ⟨hvalue, habove⟩ := List.mem_filter.1 hvalue
  obtain ⟨other, hother, rfl⟩ := List.mem_map.1 hvalue
  rcases List.mem_append.1 ((hmem other).1 hother) with hearlier | hlater
  · have hbelow := hknown other hearlier
    rw [Bool.not_eq_true'] at hbelow
    cases hbelow.symm.trans habove
  · rcases List.mem_cons.1 hlater with rfl | hlater
    · exact UInt32.le_refl _
    · exact UInt32.le_of_lt (hascending.2.1.1 other hlater)

/-- With several links to choose from, the requirement is that none of them is unknown. -/
lemma mask_met_iff (hmany : ¬(settings.family = .crorc ∨ ids = [])) :
    (settings.maskRequirement ids).met = true ↔
      unknownLink? settings.family (LinkMask.ofList ids).ids = none := by
  unfold maskRequirement unknownLink?
  rw [decide_eq_true_iff, ← or_assoc, or_iff_right hmany, List.find?_eq_none]
  apply forall_congr'
  intro id
  rw [LinkMask.mem_ofList, decide_eq_true_iff, ge_iff_le, UInt32.not_le]

lemma enabledLinks_eq : ({ settings with links := .ofList ids } : Parameters).enabledLinks =
    if (settings.maskRequirement ids).met then .ok (settings.askedLinks ids)
    else .error (settings.maskRequirement ids).refusal := by
  unfold enabledLinks askedLinks
  extract_lets family
  by_cases hsingle : settings.family = .crorc ∨ ids = []
  · have hfirst : (!family.isMultiLink || (LinkMask.ofList ids).ids.isEmpty) = true := by
      rwa [Bool.or_eq_true, isMultiLink_eq_false, isEmpty_ofList]
    have hmet : (settings.maskRequirement ids).met = true :=
      decide_eq_true (or_assoc.1 (.inl hsingle))
    rw [if_pos hfirst, if_pos hsingle, if_pos hmet]
  · have hmany : ¬(!family.isMultiLink || (LinkMask.ofList ids).ids.isEmpty) = true := by
      rwa [Bool.or_eq_true, isMultiLink_eq_false, isEmpty_ofList]
    rw [if_neg hmany, if_neg hsingle]
    cases hunknown : unknownLink? family (LinkMask.ofList ids).ids with
    | none => rw [if_pos ((mask_met_iff hsingle).2 hunknown)]
    | some id =>
      have hunmet : ¬(settings.maskRequirement ids).met = true := by
        rw [mask_met_iff hsingle, hunknown]
        exact Option.some_ne_none id
      rw [if_neg hunmet, maskRequirement, unknownLink?_ofList settings hunknown]
      rfl

/-- The checks end at the first requirement that is not met. -/
theorem validate_eq (settings : Parameters) (ids : List LinkId) :
    ({ settings with links := .ofList ids } : Parameters).validate =
      Requirement.enforce (settings.requirements ids) (.ok (settings.askedLinks ids)) := by
  unfold validate requirements
  extract_lets family
  apply ite_eq_enforce
  · rw [decide_eq_true_iff, UInt32.not_le]
  intro _
  apply ite_eq_enforce
  · rw [decide_eq_true_iff, Decidable.not_not]
  intro _
  apply ite_eq_enforce
  · rw [decide_eq_true_iff, Decidable.not_not]
    rfl
  intro _
  apply ite_eq_enforce
  · rw [decide_eq_true_iff, Bool.and_eq_true, decide_eq_true_iff, Decidable.not_imp_iff_and_not,
      Decidable.not_not]
    rfl
  intro _
  rw [enabledLinks_eq, Requirement.enforce]
  by_cases hmask : (settings.maskRequirement ids).met = true
  · rw [if_pos hmask, if_pos hmask]
    dsimp only
    rw [length_askedLinks]
    apply ite_eq_enforce
    · rw [decide_eq_true_iff, Decidable.not_not]
      rfl
    intro _
    rfl
  · rw [if_neg hmask, if_neg hmask]

end Parameters

/-- The channel is stopped over these links, and nothing is queued. -/
structure Channel.OpenedOver (channel : Channel κ) (links : List LinkId) (linkCapacity : Nat)
    (card : κ) : Prop where
  lifecycle : channel.lifecycle = .stopped
  ids : channel.pipeline.links.map Link.id = links
  blank : channel.pipeline.Blank
  slots : channel.pipeline.slots = linkCapacity * links.length
  card : channel.card = card

namespace Endpoint

variable {endpoint : Endpoint κ} {card : κ}

lemma openChannel_eq_error {e : ReadoutError} : endpoint.openChannel card = .error e ↔
    endpoint.parameters.validate = .error e ∨
      (∃ links, endpoint.parameters.validate = .ok links) ∧
        ResetLevel.check endpoint.parameters.family endpoint.parameters.resetLevel
          endpoint.parameters.loopback = .error e := by
  unfold openChannel
  extract_lets parameters
  cases parameters.validate with
  | error e' => simp
  | ok links =>
    cases ResetLevel.check parameters.family parameters.resetLevel parameters.loopback with
    | error e' => simp
    | ok => simp

lemma exists_openedOver {links : List LinkId} (hvalid : endpoint.parameters.validate = .ok links)
    (hcheck : ResetLevel.check endpoint.parameters.family endpoint.parameters.resetLevel
      endpoint.parameters.loopback = .ok ()) :
    ∃ channel, endpoint.openChannel card = .ok channel ∧
      channel.OpenedOver links endpoint.parameters.linkCapacity card := by
  unfold openChannel
  extract_lets parameters
  rw [hvalid]
  dsimp only
  rw [hcheck]
  refine ⟨_, rfl, rfl, ?_, Pipeline.blank_idle _ _ _, rfl, rfl⟩
  unfold Pipeline.idle
  rw [List.map_map]
  exact List.map_id links

/-- A recorder sees nothing of the opening. -/
lemma openChannel_recorded (endpoint : Endpoint κ) (card : κ) :
    endpoint.recorded.openChannel ([], card) =
      (endpoint.openChannel card).map (·.withHistory []) := by
  have hparameters : endpoint.recorded.parameters = endpoint.parameters := rfl
  unfold openChannel
  dsimp only
  rw [hparameters]
  cases endpoint.parameters.validate with
  | error e => rfl
  | ok links =>
    dsimp only
    cases ResetLevel.check endpoint.parameters.family endpoint.parameters.resetLevel
      endpoint.parameters.loopback with
    | error e => rfl
    | ok => rfl

end Endpoint

/-- The checks accept exactly the parameters that meet all requirements, and otherwise report the
first that is not met. Lists of the same links make no difference. Opening refuses what the checks
refuse, and else what forbids the reset in a start, and accesses no register. -/
theorem opening_checks (settings : Parameters) (ids : List LinkId) (registers : Registers κ)
    (buffer : Buffer) (card : κ) :
    let parameters := { settings with links := .ofList ids }
    let endpoint : Endpoint κ := ⟨parameters, registers, buffer⟩
    let requirements := settings.requirements ids
    let check := ResetLevel.check settings.family settings.resetLevel settings.loopback
    (∀ links, parameters.validate = .ok links ↔
      (∀ requirement ∈ requirements, requirement.met = true) ∧ settings.Enables ids links) ∧
    (∀ unmet, requirements.find? (!·.met) = some unmet →
      parameters.validate = .error unmet.refusal) ∧
    (∀ ids', (∀ id, id ∈ ids' ↔ id ∈ ids) →
      let parameters' := { settings with links := .ofList ids' }
      parameters'.validate = parameters.validate ∧
        Endpoint.openChannel ⟨parameters', registers, buffer⟩ card = endpoint.openChannel card) ∧
    (∀ e, endpoint.openChannel card = .error e ↔ parameters.validate = .error e ∨
      (∃ links, parameters.validate = .ok links) ∧ check = .error e) ∧
    (∀ links, parameters.validate = .ok links → check = .ok () → ∃ channel,
      endpoint.openChannel card = .ok channel ∧
        channel.OpenedOver links settings.linkCapacity card) ∧
    endpoint.recorded.openChannel ([], card) =
      (endpoint.openChannel card).map (·.withHistory []) := by
  intro parameters endpoint requirements check
  have hvalidate : parameters.validate =
      Requirement.enforce requirements (.ok (settings.askedLinks ids)) :=
    Parameters.validate_eq settings ids
  refine ⟨fun links => ?_, fun unmet hfind => ?_, fun ids' hids => ?_, fun e => ?_,
    fun links hvalid hcheck => ?_, endpoint.openChannel_recorded card⟩
  · rw [hvalidate, Requirement.enforce_ok_iff, Parameters.enables_iff]
  · rw [hvalidate, Requirement.enforce_of_find? hfind]
  · rw [LinkMask.ofList_congr hids]
    exact ⟨rfl, rfl⟩
  · exact Endpoint.openChannel_eq_error
  · exact Endpoint.exists_openedOver hvalid hcheck

/-- Of the links that are asked for first, three do not exist, and the smallest is named. Those that
are asked for next are sorted, and a reset level that nothing forbids lets the channel open. -/
theorem opening_checks_unsorted :
    let settings : Parameters := { family := .cru, linkCapacity? := some 2 }
    let unknown : List LinkId := [⟨27⟩, ⟨3⟩, ⟨25⟩, ⟨30⟩]
    let unsorted : List LinkId := [⟨3⟩, ⟨1⟩, ⟨3⟩]
    let parameters ids := { settings with links := .ofList ids }
    (parameters unknown).validate = .error (.invalidLinkId 25 23) ∧
      (parameters unsorted).validate = .ok [⟨1⟩, ⟨3⟩] ∧
      ∃ channel, Endpoint.openChannel ⟨parameters unsorted, ScriptedCard.registers, twoLinks.buffer⟩
          ([], {}) = .ok channel ∧
        channel.OpenedOver [⟨1⟩, ⟨3⟩] 2 ([], {}) := by
  intro settings unknown unsorted parameters
  have hchecks ids :=
    opening_checks settings ids ScriptedCard.registers twoLinks.buffer ([], {})
  have hunknown : (settings.requirements unknown).find? (!·.met) =
      some ⟨false, .invalidLinkId 25 23⟩ := by
    decide +kernel
  have hmet : ∀ requirement ∈ settings.requirements unsorted, requirement.met = true := by
    decide +kernel
  have henables : settings.Enables unsorted [⟨1⟩, ⟨3⟩] := by
    refine ⟨by decide, fun id => ?_⟩
    rw [if_neg (by decide)]
    grind
  have hvalid : (parameters unsorted).validate = .ok [⟨1⟩, ⟨3⟩] :=
    ((hchecks unsorted).1 _).2 ⟨hmet, henables⟩
  exact ⟨(hchecks unknown).2.1 _ hunknown, hvalid,
    (hchecks unsorted).2.2.2.2.1 _ hvalid rfl⟩

end DmaReadout
