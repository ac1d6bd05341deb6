import DmaReadout.Proofs.CounterReads
import DmaReadout.Proofs.CounterRefinement
import DmaReadout.Proofs.Runs
import DmaReadout.Proofs.Shares
import DmaReadout.Proofs.SlotAccounting

/-!
# What a drain leaves behind

A drain asks each link for all that has arrived there and for one superpage more, which may have
been under way. It succeeds just when that is all that the links hold, and when the ready queue has
room for it.
-/

namespace DmaReadout

open Link (allArrivals fronts totalPending)
open Pipeline (Advanced Served)

variable {κ : Type}

namespace Link

lemma length_fronts_zip_le (links : List Link) (quotas : List Nat) :
    (fronts (links.zip quotas)).length ≤ totalPending links := by
  induction links generalizing quotas with
  | nil => exact Nat.le_refl _
  | cons link links ih =>
    cases quotas with
    | nil => exact Nat.zero_le _
    | cons quota quotas =>
      have hrest := ih quotas
      rw [List.zip_cons_cons, fronts_cons, List.length_append, length_front, totalPending]
      omega

/-- Links are asked for all that they hold if none holds more than its quota. -/
lemma length_fronts_zip_eq_iff {links : List Link} {quotas : List Nat}
    (hlength : quotas.length = links.length) :
    (fronts (links.zip quotas)).length = totalPending links ↔
      ∀ entry ∈ links.zip quotas, entry.1.pending ≤ entry.2 := by
  induction links generalizing quotas with
  | nil => simp [fronts, totalPending]
  | cons link links ih =>
    obtain ⟨quota, quotas, rfl⟩ := List.exists_cons_of_length_eq_add_one hlength
    have hle := length_fronts_zip_le links quotas
    rw [List.zip_cons_cons, List.forall_mem_cons, ← ih (Nat.succ.inj hlength), fronts_cons,
      List.length_append, length_front, totalPending]
    dsimp only
    omega

end Link

namespace Pipeline

/-- A drain that finds these arrivals asks for all that the links hold, and there is room for it. -/
def Drainable (pipeline : Pipeline) (arrivals : List Nat) : Prop :=
  (∀ entry ∈ pipeline.links.zip arrivals, entry.1.pending ≤ entry.2 + 1) ∧
    pipeline.pending ≤ pipeline.room

variable {pipeline pipeline' : Pipeline} {arrivals : List Nat} {moves : List (LinkId × Nat)}

instance : Decidable (pipeline.Drainable arrivals) :=
  inferInstanceAs (Decidable (_ ∧ _))

lemma Advanced.pending_eq_zero_iff
    (h : Advanced pipeline (arrivals.map (· + 1)) pipeline' moves)
    (hlength : arrivals.length = pipeline.links.length) :
    pipeline'.pending = 0 ↔ pipeline.Drainable arrivals := by
  have hquotas : (arrivals.map (· + 1)).length = pipeline.links.length := by
    rw [List.length_map, hlength]
  have hasked := Link.length_fronts_zip_eq_iff hquotas
  have hle := Link.length_fronts_zip_le pipeline.links (arrivals.map (· + 1))
  have hmoved := h.totalMoved_eq
  have htotal := h.passed.totalPending
  rw [Link.totalCount_shares] at hmoved
  have hentries : (∀ entry ∈ pipeline.links.zip (arrivals.map (· + 1)),
      entry.1.pending ≤ entry.2) ↔
      ∀ entry ∈ pipeline.links.zip arrivals, entry.1.pending ≤ entry.2 + 1 := by
    rw [List.zip_map_right, List.forall_mem_map]
    rfl
  rw [Drainable, ← hentries, ← hasked]
  unfold pending
  omega

end Pipeline

namespace Balanced

variable {pipeline : Pipeline}

lemma slots_eq_transferCapacity_iff (h : Balanced pipeline) :
    pipeline.slots = pipeline.transferCapacity ↔ pipeline.pending = 0 := by
  have hslots := h.slots
  omega

lemma checkDrained (h : Balanced pipeline) (hpending : pipeline.pending = 0) :
    pipeline.checkDrained = .ok () := by
  have hslots := h.slots_eq_transferCapacity_iff.2 hpending
  have hempty := Link.totalPending_eq_zero_iff.1 hpending
  have hnone : pipeline.links.find? (fun link =>
      link.pending != 0 || pipeline.slots != pipeline.transferCapacity) = none := by
    rw [List.find?_eq_none]
    intro link hlink
    have hlength : link.pending = 0 := beq_iff_eq.1 (hempty link hlink)
    simp [hlength, hslots]
  unfold Pipeline.checkDrained
  dsimp only
  rw [hnone]

/-- A drain that leaves anything behind blames the first link. -/
lemma exists_undrained (h : Balanced pipeline) (hpending : pipeline.pending ≠ 0) :
    ∃ link, pipeline.links.head? = some link ∧ pipeline.checkDrained =
      .error (.drainIncomplete link.id link.pending
        (pipeline.transferCapacity - pipeline.pending) pipeline.transferCapacity) := by
  have hslots : pipeline.slots ≠ pipeline.transferCapacity := by
    rwa [ne_eq, h.slots_eq_transferCapacity_iff]
  have hkept : pipeline.slots = pipeline.transferCapacity - pipeline.pending := h.slots_eq.1
  unfold Pipeline.checkDrained
  cases hlinks : pipeline.links with
  | nil =>
    rw [Pipeline.pending, hlinks] at hpending
    exact absurd rfl hpending
  | cons link links =>
    have hkeeps : (link.pending != 0 || pipeline.slots != pipeline.transferCapacity) = true := by
      rw [Bool.or_eq_true, bne_iff_ne, bne_iff_ne]
      exact .inr hslots
    refine ⟨link, rfl, ?_⟩
    dsimp only
    rw [List.find?_cons, hkeeps, ← hkept]

end Balanced

namespace Endpoint

variable {endpoint : Endpoint κ} {channel : Channel κ}

/-- A drain moves what the links give, and then either reports the fault that ended the reads or
looks at what is left. -/
theorem ensures_drain_counted {counts : List UInt32} {fault? : Option Fault}
    (h : CountsUntil (endpoint.registers.counterReplies (channel.pipeline.links.map Link.id)
      channel.card) counts fault?) :
    let quotas := (allArrivals channel.pipeline.links counts).map (· + 1)
    Ensures endpoint.drain channel
      (fun moved last => ∃ moves, Advanced channel.pipeline quotas last.pipeline moves ∧
        moved = Link.totalMoved moves ∧ fault? = none ∧ last.pipeline.checkDrained = .ok ())
      (fun e last => ∃ moves, Advanced channel.pipeline quotas last.pipeline moves ∧
        match fault? with
        | some fault => e = .hardware fault
        | none => last.pipeline.checkDrained = .error e) := by
  intro quotas
  unfold drain
  rw [ensures_bind, ensures_get, ensures_bind]
  apply (ensures_readArrivals h).mono
  · rintro _ read ⟨rfl, hstanding⟩
    rw [ensures_bind]
    apply Channel.ensures_advance
    intro pipeline moves hadvanced
    rw [Channel.pipeline_of_standing hstanding] at hadvanced
    cases fault? with
    | some fault => exact ⟨moves, hadvanced, rfl⟩
    | none =>
      rw [ensures_bind, ensures_get, ensures_bind, ensures_ofExcept]
      constructor
      · intro _ hdrained
        exact ⟨moves, hadvanced, rfl, rfl, hdrained⟩
      · intro e hundrained
        exact ⟨moves, hadvanced, hundrained⟩
  · intro e read hfalse
    exact hfalse.elim

lemma afterTransfers_balanced (endpoint : Endpoint κ) {channel : Channel κ}
    (h : Balanced channel.pipeline) (transfers : List Transfer) :
    Balanced (endpoint.afterTransfers channel transfers).pipeline := by
  induction transfers generalizing channel with
  | nil => exact h
  | cons transfer transfers ih => exact ih (h.update (transfer.update endpoint channel))

/-- What comes of a drain that hears every link. -/
lemma drain_of_hears {counts : List UInt32} (hbalanced : Balanced channel.pipeline)
    (hreplies : endpoint.registers.counterReplies (channel.pipeline.links.map Link.id)
      channel.card = counts.map Except.ok) :
    let arrivals := allArrivals channel.pipeline.links counts
    let last := (lastState endpoint.drain channel).pipeline
    Served channel.pipeline (arrivals.map (· + 1)) last ∧
      (channel.pipeline.Drainable arrivals →
        answer endpoint.drain channel = .ok channel.pipeline.pending ∧
        (∀ link ∈ last.links, link.queue.isEmpty = true) ∧
        last.slots = channel.pipeline.transferCapacity) ∧
      (¬channel.pipeline.Drainable arrivals → ∃ link, last.links.head? = some link ∧
        answer endpoint.drain channel = .error (.drainIncomplete link.id link.pending
          (channel.pipeline.transferCapacity - last.pending)
          channel.pipeline.transferCapacity)) := by
  intro arrivals last
  have hlength : counts.length = channel.pipeline.links.length := by
    have hlength := congrArg List.length hreplies
    rw [Registers.length_counterReplies, List.length_map, List.length_map] at hlength
    exact hlength.symm
  have harrivals := Link.length_allArrivals hlength
  have hcounted : CountsUntil (endpoint.registers.counterReplies
      (channel.pipeline.links.map Link.id) channel.card) counts none := hreplies
  rcases (ensures_drain_counted hcounted).answered with
    ⟨moved, hanswer, moves, hadvanced, hmoved, -, hdrained⟩ |
    ⟨e, hanswer, moves, hadvanced, hundrained⟩
  · have hlast : Balanced last := hbalanced.advance hadvanced
    have hpending : last.pending = 0 := by
      by_contra hpending
      obtain ⟨link, -, herror⟩ := hlast.exists_undrained hpending
      cases hdrained.symm.trans herror
    have hdrainable := (hadvanced.pending_eq_zero_iff harrivals).1 hpending
    have htotal : Link.totalMoved moves = channel.pipeline.pending := by
      have hpassed : last.pending + Link.totalMoved moves = channel.pipeline.pending :=
        hadvanced.passed.totalPending
      omega
    refine ⟨hadvanced.served, fun _ => ⟨?_, ?_, ?_⟩, fun hnot => absurd hdrainable hnot⟩
    · rw [hanswer, hmoved, htotal]
    · exact Link.totalPending_eq_zero_iff.1 hpending
    · rw [hlast.slots_eq_transferCapacity_iff.2 hpending]
      exact hadvanced.transferCapacity
  · have hlast : Balanced last := hbalanced.advance hadvanced
    have hpending : last.pending ≠ 0 := by
      intro hpending
      cases (hlast.checkDrained hpending).symm.trans hundrained
    have hnot : ¬channel.pipeline.Drainable arrivals := by
      rwa [← hadvanced.pending_eq_zero_iff harrivals]
    obtain ⟨link, hfirst, herror⟩ := hlast.exists_undrained hpending
    refine ⟨hadvanced.served, fun hdrainable => absurd hdrainable hnot, fun _ => ?_⟩
    refine ⟨link, hfirst, ?_⟩
    rw [hanswer, ← hadvanced.transferCapacity]
    rw [Except.error.inj (hundrained.symm.trans herror)]

/-- A drain serves the links in turn with all that has arrived there and one superpage more, as far
as there is room. It gives the number of superpages that were outstanding, with all links empty and
all slots free, just when none holds more than that and there is room for all. Otherwise it tells
how many slots are free then. If a read fails, then the links before it are served, and the others
are left alone. -/
theorem drain_outcome (endpoint : Endpoint κ) (channel : Channel κ) (ids : List LinkId)
    (linkCapacity readyCapacity : Nat) (transfers : List Transfer) :
    let opened := { channel with pipeline := .idle ids linkCapacity readyCapacity }
    let before := endpoint.afterTransfers opened transfers
    let links := before.pipeline.links
    let capacity := before.pipeline.transferCapacity
    let replies := endpoint.registers.counterReplies (links.map Link.id) before.card
    let result := answer endpoint.drain before
    let last := (lastState endpoint.drain before).pipeline
    (∀ counts : List UInt32, replies = counts.map Except.ok →
      let arrivals := allArrivals links counts
      Served before.pipeline (arrivals.map (· + 1)) last ∧
        (result = .ok before.pipeline.pending ∧
            (∀ link ∈ last.links, link.queue.isEmpty = true) ∧ last.slots = capacity ↔
          before.pipeline.Drainable arrivals) ∧
        (¬before.pipeline.Drainable arrivals → ∃ link, last.links.head? = some link ∧
          result = .error (.drainIncomplete link.id link.pending (capacity - last.pending)
            capacity))) ∧
      ∀ (counts : List UInt32) fault rest,
        replies = counts.map Except.ok ++ .error fault :: rest →
          Served before.pipeline ((allArrivals links counts).map (· + 1)) last ∧
            result = .error (.hardware fault) := by
  intro opened before links capacity replies result last
  have hbalanced : Balanced before.pipeline :=
    afterTransfers_balanced endpoint (Balanced.idle ids linkCapacity readyCapacity) transfers
  constructor
  · intro counts hreplies arrivals
    obtain ⟨hserved, hall, hsome⟩ := drain_of_hears hbalanced hreplies
    refine ⟨hserved, ⟨?_, hall⟩, hsome⟩
    rintro ⟨hresult, -⟩
    by_contra hnot
    obtain ⟨link, -, herror⟩ := hsome hnot
    cases hresult.symm.trans herror
  · intro counts fault rest hreplies
    have hcounted : CountsUntil replies counts (some fault) := ⟨rest, hreplies⟩
    rcases (ensures_drain_counted hcounted).answered with
      ⟨moved, -, moves, -, -, hnone, -⟩ | ⟨e, hanswer, moves, hadvanced, rfl⟩
    · cases hnone
    · exact ⟨hadvanced.served, hanswer⟩

def threePushes : List Transfer :=
  [.push ⟨0, 8, 0, false, 1⟩ 1 0, .push ⟨8, 8, 0, false, 2⟩ 1 0, .push ⟨16, 8, 0, false, 3⟩ 1 0]

/-- A card, behind a script of faults, that has completed so many superpages on the first link. -/
def countedOnFirst (script : FaultScript) (counted : UInt32) : ScriptedCard :=
  (script, { completion := .manual, counters := ⟨[(⟨0⟩, ⟨0, counted⟩)]⟩ })

/-- Two superpages are under way on the first link and one on the second. -/
def threeUnderWay (script : FaultScript) (counted : UInt32) : Channel ScriptedCard :=
  twoLinks.afterTransfers (twoLinksChannel (countedOnFirst script counted)) threePushes

/-- With one superpage counted, a drain gets all three; with none, it leaves one behind. If the
second link cannot be read, then that link keeps its superpage. -/
theorem drain_outcome_three :
    let unread := threeUnderWay [⟨.superpageCount, 1, 1, .because "read"⟩] 0
    let last := (lastState twoLinks.drain unread).pipeline
    (threeUnderWay [] 1).pipeline.Drainable [1, 0] ∧
      answer twoLinks.drain (threeUnderWay [] 1) = .ok 3 ∧
      ¬(threeUnderWay [] 0).pipeline.Drainable [0, 0] ∧
      (∃ link, (lastState twoLinks.drain (threeUnderWay [] 0)).pipeline.links.head? = some link ∧
        answer twoLinks.drain (threeUnderWay [] 0) =
          .error (.drainIncomplete link.id link.pending 3 4)) ∧
      answer twoLinks.drain unread = .error (.hardware (.because "read")) ∧
      Served unread.pipeline [1] last ∧ last.links.map Link.pending = [1, 1] := by
  intro unread last
  have hdrainable : (threeUnderWay [] 1).pipeline.Drainable [1, 0] := by decide +kernel
  have hnot : ¬(threeUnderWay [] 0).pipeline.Drainable [0, 0] := by decide +kernel
  have houtcome (script : FaultScript) (counted : UInt32) :=
    drain_outcome twoLinks (twoLinksChannel (countedOnFirst script counted)) [⟨0⟩, ⟨1⟩] 2 4
      threePushes
  obtain ⟨-, hall, -⟩ := (houtcome [] 1).1 [1, 0] (by decide +kernel)
  obtain ⟨-, -, hsome⟩ := (houtcome [] 0).1 [0, 0] (by decide +kernel)
  obtain ⟨hserved, hfault⟩ := (houtcome [⟨.superpageCount, 1, 1, .because "read"⟩] 0).2
    [0] (.because "read") [] (by decide +kernel)
  have hpending : (threeUnderWay [] 1).pipeline.pending = 3 := by decide +kernel
  have hcapacity : (threeUnderWay [] 0).pipeline.transferCapacity = 4 := by decide +kernel
  have hslots : 4 - (lastState twoLinks.drain (threeUnderWay [] 0)).pipeline.pending = 3 := by
    decide +kernel
  refine ⟨hdrainable, ?_, hnot, ?_, hfault, hserved, by decide +kernel⟩
  · rw [← hpending]
    exact (hall.2 hdrainable).1
  · rw [← hslots, ← hcapacity]
    exact hsome hnot

end Endpoint

end DmaReadout
