import DmaReadout.Proofs.CommandLog

/-!
# Plans of accesses

A program that knows its accesses in advance carries out a plan: it goes on as long as they
succeed, and fails with the fault of the first that does not. A recorder in front of the card then
sees a first part of the plan, and a simulated card logs the commands of it.
-/

namespace DmaReadout

variable {κ γ α β : Type}

namespace Registers

variable {registers : Registers κ} {plan plan' : List Access} {card middle last : κ}

/-- The accesses succeed, one after the other, and lead from one card to another. -/
inductive Grants (registers : Registers κ) : List Access → κ → κ → Prop
  | nil (card : κ) : Grants registers [] card card
  | cons {access : Access} {reply : access.Reply} {plan : List Access} {card middle last : κ}
      (hperform : registers.perform access card = (.ok reply, middle))
      (hrest : Grants registers plan middle last) : Grants registers (access :: plan) card last

/-- After accesses that succeed, one fails. -/
def FailsAt (registers : Registers κ) (done : List Access) (access : Access) (fault : Fault)
    (card last : κ) : Prop :=
  ∃ middle, registers.Grants done card middle ∧
    registers.perform access middle = (.error fault, last)

/-- A plan is carried out up to an access that fails. -/
structure BreaksOff (registers : Registers κ) (plan done : List Access) (access : Access)
    (fault : Fault) (card last : κ) : Prop where
  planned : done ++ [access] <+: plan
  fails : registers.FailsAt done access fault card last

/-- A read of the debug mode is answered so, unless it fails. -/
def ReadsDebugMode (registers : Registers κ) (card : κ) (enabled : Bool) : Prop :=
  ∀ reply last, registers.perform .debugMode card = (.ok reply, last) → reply = enabled

lemma Grants.append (h : registers.Grants plan card middle)
    (h' : registers.Grants plan' middle last) : registers.Grants (plan ++ plan') card last := by
  induction h with
  | nil => exact h'
  | cons hperform _ ih => exact .cons hperform (ih h')

/-- Where accesses lead to is determined. -/
lemma Grants.unique {last' : κ} (h : registers.Grants plan card last)
    (h' : registers.Grants plan card last') : last' = last := by
  induction h with
  | nil =>
    cases h'
    rfl
  | cons hperform _ ih =>
    cases h' with
    | cons hperform' hrest' =>
      rw [hperform, Prod.mk.injEq] at hperform'
      rw [← hperform'.2] at hrest'
      exact ih hrest'

lemma Grants.failsAt {done : List Access} {access : Access} {fault : Fault}
    (h : registers.Grants plan card middle) (h' : registers.FailsAt done access fault middle last) :
    registers.FailsAt (plan ++ done) access fault card last := by
  obtain ⟨next, hdone, hperform⟩ := h'
  exact ⟨next, h.append hdone, hperform⟩

namespace BreaksOff

variable {done : List Access} {access : Access} {fault : Fault}

lemma after (h : registers.BreaksOff plan' done access fault middle last)
    (hplan : registers.Grants plan card middle) :
    registers.BreaksOff (plan ++ plan') (plan ++ done) access fault card last := by
  refine ⟨?_, hplan.failsAt h.fails⟩
  rw [List.append_assoc]
  exact (List.prefix_append_right_inj plan).2 h.planned

lemma extend (h : registers.BreaksOff plan done access fault card last) (plan' : List Access) :
    registers.BreaksOff (plan ++ plan') done access fault card last :=
  ⟨h.planned.trans (List.prefix_append plan plan'), h.fails⟩

lemma mem (h : registers.BreaksOff plan done access fault card last) : access ∈ plan :=
  h.planned.subset (List.mem_append_right _ (List.mem_singleton_self _))

end BreaksOff

lemma exists_readsDebugMode (registers : Registers κ) (card : κ) :
    ∃ enabled, registers.ReadsDebugMode card enabled := by
  rcases hperform : registers.perform .debugMode card with ⟨fault | enabled, next⟩
  · refine ⟨false, fun reply last h => ?_⟩
    rw [hperform] at h
    cases h
  · refine ⟨enabled, fun reply last h => ?_⟩
    rw [hperform] at h
    cases h
    rfl

/-- What a read is answered after a plan is determined by the plan. -/
lemma exists_readsDebugMode_after (registers : Registers κ) (plan : List Access) (card : κ) :
    ∃ enabled, ∀ last, registers.Grants plan card last → registers.ReadsDebugMode last enabled := by
  by_cases hgrants : ∃ last, registers.Grants plan card last
  · obtain ⟨last, hlast⟩ := hgrants
    obtain ⟨enabled, hreads⟩ := registers.exists_readsDebugMode last
    refine ⟨enabled, fun last' hlast' => ?_⟩
    rw [hlast.unique hlast']
    exact hreads
  · exact ⟨false, fun last hlast => absurd ⟨last, hlast⟩ hgrants⟩

end Registers

/-- What is recorded of accesses that succeed. -/
def granted (plan : List Access) : AccessHistory :=
  plan.map fun access => ⟨access, true⟩

lemma granted_append (plan plan' : List Access) :
    granted (plan ++ plan') = granted plan ++ granted plan' :=
  List.map_append

lemma succeeded_of_mem_granted {plan : List Access} :
    ∀ past ∈ granted plan, past.succeeded = true := by
  intro past hpast
  obtain ⟨access, -, rfl⟩ := List.mem_map.1 hpast
  rfl

section Outcomes

variable {outcome : Except ReadoutError Unit} {made : AccessHistory} {ok : Prop}
  {failed : ReadoutError → Prop}

lemma outcome_of_granted {plan : List Access} (houtcome : outcome = .ok ())
    (hmade : made = granted plan) (hok : ok) :
    (outcome = .ok () ↔ ∀ past ∈ made, past.succeeded = true) ∧ (outcome = .ok () → ok) ∧
      ∀ e, outcome = .error e → failed e := by
  rw [houtcome, hmade]
  exact ⟨iff_of_true rfl succeeded_of_mem_granted, fun _ => hok, nofun⟩

lemma outcome_of_broken {e : ReadoutError} {done : List Access} {access : Access}
    {rest : AccessHistory} (houtcome : outcome = .error e)
    (hmade : made = granted done ++ ⟨access, false⟩ :: rest) (hfailed : failed e) :
    (outcome = .ok () ↔ ∀ past ∈ made, past.succeeded = true) ∧ (outcome = .ok () → ok) ∧
      ∀ e, outcome = .error e → failed e := by
  have hnot : ¬∀ past ∈ made, past.succeeded = true := by
    intro hall
    have hmem : ⟨access, false⟩ ∈ made := by
      rw [hmade]
      exact List.mem_append_right _ List.mem_cons_self
    cases hall _ hmem
  rw [houtcome]
  refine ⟨iff_of_false nofun hnot, nofun, fun e' he' => ?_⟩
  rwa [← Except.error.inj he']

end Outcomes

namespace Registers

variable {registers : Registers κ} {plan : List Access} {access : Access}
  {state state' : AccessHistory × κ}

lemma of_perform_recorded {reply : Except Fault access.Reply}
    (h : registers.recorded.perform access state = (reply, state')) :
    registers.perform access state.2 = (reply, state'.2) ∧
      state'.1 = state.1 ++ [⟨access, reply.isOk⟩] := by
  rcases hplain : registers.perform access state.2 with ⟨answer, card⟩
  have hrecorded := (perform_recorded hplain state.1).symm.trans h
  rw [Prod.mk.injEq] at hrecorded
  obtain ⟨rfl, rfl⟩ := hrecorded
  exact ⟨rfl, rfl⟩

lemma Grants.of_recorded (h : registers.recorded.Grants plan state state') :
    registers.Grants plan state.2 state'.2 ∧ state'.1 = state.1 ++ granted plan := by
  induction h with
  | nil => exact ⟨.nil _, (List.append_nil _).symm⟩
  | cons hperform _ ih =>
    obtain ⟨hplain, hhistory⟩ := of_perform_recorded hperform
    obtain ⟨hgrants, hrest⟩ := ih
    refine ⟨.cons hplain hgrants, ?_⟩
    rw [hrest, hhistory, List.append_assoc]
    rfl

lemma FailsAt.of_recorded {done : List Access} {fault : Fault}
    (h : registers.recorded.FailsAt done access fault state state') :
    registers.FailsAt done access fault state.2 state'.2 ∧
      state'.1 = state.1 ++ (granted done ++ [⟨access, false⟩]) := by
  obtain ⟨middle, hdone, hperform⟩ := h
  obtain ⟨hgrants, hhistory⟩ := hdone.of_recorded
  obtain ⟨hplain, hlast⟩ := of_perform_recorded hperform
  refine ⟨⟨middle.2, hgrants, hplain⟩, ?_⟩
  rw [hlast, hhistory, List.append_assoc]
  rfl

lemma BreaksOff.of_recorded {done : List Access} {fault : Fault}
    (h : registers.recorded.BreaksOff plan done access fault state state') :
    registers.BreaksOff plan done access fault state.2 state'.2 ∧
      state'.1 = state.1 ++ (granted done ++ [⟨access, false⟩]) :=
  ⟨⟨h.planned, h.fails.of_recorded.1⟩, h.fails.of_recorded.2⟩

lemma ReadsDebugMode.recorded {enabled : Bool} (h : registers.ReadsDebugMode state.2 enabled) :
    registers.recorded.ReadsDebugMode state enabled :=
  fun reply last hperform => h reply last.2 (of_perform_recorded hperform).1

end Registers

namespace Endpoint

variable {endpoint : Endpoint κ} {plan plan' : List Access} {program : ChannelM κ α}
  {channel : Channel κ}

/-- Started on the channel, the program carries out the plan. -/
def Follows (endpoint : Endpoint κ) (plan : List Access) (program : ChannelM κ α)
    (channel : Channel κ) : Prop :=
  Ensures program channel
    (fun _ last => endpoint.registers.Grants plan channel.card last.card)
    (fun e last => ∃ done access fault,
      endpoint.registers.BreaksOff plan done access fault channel.card last.card ∧
        e = .hardware fault)

namespace Follows

lemma pure (a : α) : endpoint.Follows [] (pure a : ChannelM κ α) channel :=
  Registers.Grants.nil _

lemma modify_bind {f : Channel κ → Channel κ} {next : PUnit → ChannelM κ α}
    (hf : (f channel).card = channel.card) (hnext : endpoint.Follows plan (next ⟨⟩) (f channel)) :
    endpoint.Follows plan (modify f >>= next) channel := by
  unfold Follows at hnext
  rwa [hf] at hnext

lemma modify {f : Channel κ → Channel κ} (h : (f channel).card = channel.card) :
    endpoint.Follows [] (modify f : ChannelM κ PUnit) channel := by
  unfold Follows
  rw [ensures_modify, h]
  exact .nil _

/-- What comes after an access may depend on the answer. -/
lemma access_bind {access : Access} {next : access.Reply → ChannelM κ α}
    (hnext : ∀ reply card, endpoint.registers.perform access channel.card = (.ok reply, card) →
      endpoint.Follows plan (next reply) { channel with card }) :
    endpoint.Follows (access :: plan) (endpoint.access access >>= next) channel := by
  unfold Follows
  rw [ensures_bind, ensures_access]
  constructor
  · intro reply card hperform
    have hfirst : endpoint.registers.Grants [access] channel.card card :=
      .cons hperform (.nil card)
    apply (hnext reply card hperform).mono
    · intro a last hlast
      exact hfirst.append hlast
    · rintro e last ⟨done, access', fault, hbreaks, rfl⟩
      exact ⟨access :: done, access', fault, hbreaks.after hfirst, rfl⟩
  · intro fault card hperform
    refine ⟨[], access, fault, ⟨?_, channel.card, .nil _, hperform⟩, rfl⟩
    exact List.cons_prefix_cons.2 ⟨rfl, List.nil_prefix⟩

lemma access (endpoint : Endpoint κ) (access : Access) (channel : Channel κ) :
    endpoint.Follows [access] (endpoint.access access) channel := by
  have hbind : endpoint.Follows [access] (endpoint.access access >>= Pure.pure) channel :=
    access_bind fun reply card _ => .pure reply
  rwa [bind_pure] at hbind

lemma bind {next : α → ChannelM κ β} (h : endpoint.Follows plan program channel)
    (hnext : ∀ a last, endpoint.registers.Grants plan channel.card last.card →
      endpoint.Follows plan' (next a) last) :
    endpoint.Follows (plan ++ plan') (program >>= next) channel := by
  unfold Follows
  rw [ensures_bind]
  apply Ensures.mono h
  · intro a middle hmiddle
    apply (hnext a middle hmiddle).mono
    · intro b last hlast
      exact hmiddle.append hlast
    · rintro e last ⟨done, access, fault, hbreaks, rfl⟩
      exact ⟨plan ++ done, access, fault, hbreaks.after hmiddle, rfl⟩
  · rintro e last ⟨done, access, fault, hbreaks, rfl⟩
    exact ⟨done, access, fault, hbreaks.extend plan', rfl⟩

lemma ite {c : Prop} [Decidable c] {other : ChannelM κ α}
    (h : c → endpoint.Follows plan program channel)
    (hother : ¬c → endpoint.Follows plan' other channel) :
    endpoint.Follows (if c then plan else plan') (if c then program else other) channel := by
  split
  · exact h ‹c›
  · exact hother ‹¬c›

end Follows

/-- A recorder sees the plan, up to an access that fails. -/
lemma Follows.traced {program : ChannelM (AccessHistory × κ) α}
    {channel : Channel (AccessHistory × κ)} (h : endpoint.recorded.Follows plan program channel) :
    Ensures program channel
      (fun _ last => endpoint.registers.Grants plan channel.card.2 last.card.2 ∧
        last.card.1 = channel.card.1 ++ granted plan)
      (fun e last => ∃ done access fault,
        endpoint.registers.BreaksOff plan done access fault channel.card.2 last.card.2 ∧
          e = .hardware fault ∧
          last.card.1 = channel.card.1 ++ (granted done ++ [⟨access, false⟩])) := by
  apply Ensures.mono h
  · intro a last hlast
    exact hlast.of_recorded
  · rintro e last ⟨done, access, fault, hbreaks, rfl⟩
    obtain ⟨hplain, hhistory⟩ := hbreaks.of_recorded
    exact ⟨done, access, fault, hplain, rfl, hhistory⟩

end Endpoint

section Logs

variable {plan done : List Access} {access : Access} {command : Command}

/-- What a simulated card logs of an access that was made. -/
def PastAccess.logged (past : PastAccess) : List Command :=
  if past.succeeded then past.access.logged else []

/-- The commands of a plan, in order. -/
def commandsOf (plan : List Access) : List Command :=
  plan.flatMap Access.logged

lemma commandsOf_append (plan plan' : List Access) :
    commandsOf (plan ++ plan') = commandsOf plan ++ commandsOf plan' :=
  List.flatMap_append

lemma commandsOf_write (command : Command) (plan : List Access) :
    commandsOf (.write command :: plan) = command :: commandsOf plan := rfl

lemma mem_commandsOf : command ∈ commandsOf plan ↔ .write command ∈ plan := by
  rw [commandsOf, List.mem_flatMap]
  constructor
  · rintro ⟨access, hmem, hlogged⟩
    cases access with
    | write command' =>
      rw [List.mem_singleton.1 hlogged]
      exact hmem
    | _ => cases hlogged
  · intro hmem
    exact ⟨_, hmem, List.mem_singleton_self _⟩

lemma flatMap_logged_granted (plan : List Access) :
    (granted plan).flatMap PastAccess.logged = commandsOf plan :=
  List.flatMap_map _ _ plan

/-- The commands before an access that fails are not all of the plan, if that ends with one. -/
lemma commandsOf_unfinished (h : done ++ [access] <+: plan)
    (hlast : plan.getLast? = some (.write command)) :
    commandsOf done <+: commandsOf plan ∧ commandsOf done ≠ commandsOf plan := by
  obtain ⟨rest, rfl⟩ := h
  rw [List.append_assoc, List.singleton_append] at hlast ⊢
  have hmem : command ∈ commandsOf (access :: rest) := by
    rw [mem_commandsOf]
    rw [List.getLast?_append, List.getLast?_cons, Option.some_or, Option.some.injEq] at hlast
    rw [← hlast]
    exact List.mem_of_getLast? (List.getLast?_cons)
  rw [commandsOf_append]
  refine ⟨List.prefix_append _ _, fun heq => ?_⟩
  rw [List.self_eq_append_right] at heq
  rw [heq] at hmem
  cases hmem

/-- An access fails with the error, after others that succeeded. These have written a part of the
commands, but not all. -/
structure Registers.FailsAmid (registers : Registers κ) (commands : List Command) (card : κ)
    (tried : AccessHistory) (written : List Command) (e : ReadoutError) : Prop where
  failure : ∃ done access fault last, registers.FailsAt done access fault card last ∧
    tried = granted done ++ [⟨access, false⟩] ∧ written = commandsOf done ∧ e = .hardware fault
  planned : written <+: commands
  unfinished : written ≠ commands

/-- If the last access of a plan writes, there is always something left to write. -/
lemma Registers.BreaksOff.amid {registers : Registers κ} {fault : Fault} {card last : κ}
    (h : registers.BreaksOff plan done access fault card last)
    (hlast : plan.getLast? = some (.write command)) :
    registers.FailsAmid (commandsOf plan) card (granted done ++ [⟨access, false⟩])
      (commandsOf done) (.hardware fault) where
  failure := ⟨done, access, fault, last, h.fails, rfl, rfl, rfl⟩
  planned := (commandsOf_unfinished h.planned hlast).1
  unfinished := (commandsOf_unfinished h.planned hlast).2

end Logs

namespace Endpoint.Simulated

variable {endpoint : Endpoint (γ × SimulatedCard)}

/-- A plan that succeeds has all its effects. -/
lemma of_grants (h : endpoint.Simulated) {plan : List Access} {card last : γ × SimulatedCard}
    (hgrants : endpoint.registers.Grants plan card last) :
    last.2 = plan.foldl SimulatedCard.after card.2 := by
  induction hgrants with
  | nil => rfl
  | cons hperform _ ih =>
    rcases h.perform_cases hperform with ⟨_, _, hreply, -⟩ | ⟨-, hcard⟩
    · cases hreply
    · rw [ih, hcard, List.foldl_cons]

lemma readsDebugMode (h : endpoint.Simulated) (card : γ × SimulatedCard) :
    endpoint.registers.ReadsDebugMode card card.2.debugMode := by
  intro reply last hperform
  rcases h.perform_cases hperform with ⟨_, _, hreply, -⟩ | ⟨hreply, hcard⟩
  · cases hreply
  · rw [Except.ok.inj hreply, hcard]
    rfl

/-- A simulated card logs what succeeds of the accesses that are made. -/
theorem commands_run (h : endpoint.Simulated) (operation : Operation)
    (channel : Channel (γ × SimulatedCard)) :
    (lastState (operation.run endpoint) channel).card.2.commands.toList =
      channel.card.2.commands.toList ++
        (operation.accesses endpoint channel).flatMap PastAccess.logged := by
  have hlogs {state state' : AccessHistory × γ × SimulatedCard}
      (hreaches : endpoint.recorded.registers.Reaches operation.kinds state state')
      (hstate : state.2.2.commands.toList =
        channel.card.2.commands.toList ++ state.1.flatMap PastAccess.logged) :
      state'.2.2.commands.toList =
        channel.card.2.commands.toList ++ state'.1.flatMap PastAccess.logged := by
    induction hreaches with
    | refl => exact hstate
    | @tail middle last _ htouch ih =>
      obtain ⟨access, reply, -, hperform⟩ := htouch
      rcases h.recorded_cases hperform with ⟨-, hhistory, failNext, hcard⟩ | ⟨-, hhistory, hcard⟩
      · rw [hcard, hhistory, List.flatMap_append]
        exact ih.trans (congrArg _ (List.append_nil _).symm)
      · rw [hcard, hhistory, List.flatMap_append, SimulatedCard.commands_after, ih,
          List.append_assoc]
        exact congrArg _ (congrArg _ (List.append_nil _).symm)
  have hrun := hlogs (operation.reaches endpoint.recorded (channel.withHistory []))
    (List.append_nil _).symm
  rw [operation.lastState_recorded] at hrun
  exact hrun

section

variable {operation : Operation} {channel : Channel (γ × SimulatedCard)}

lemma commands_of_granted (h : endpoint.Simulated) {plan : List Access}
    (hmade : operation.accesses endpoint channel = granted plan) :
    (lastState (operation.run endpoint) channel).card.2.commands.toList =
      channel.card.2.commands.toList ++ commandsOf plan := by
  rw [h.commands_run, hmade, flatMap_logged_granted]

lemma commands_of_broken (h : endpoint.Simulated) {done : List Access} {access : Access}
    {rest : AccessHistory}
    (hmade : operation.accesses endpoint channel = granted done ++ ⟨access, false⟩ :: rest) :
    (lastState (operation.run endpoint) channel).card.2.commands.toList =
      channel.card.2.commands.toList ++ commandsOf done ++ rest.flatMap PastAccess.logged := by
  rw [h.commands_run, hmade, List.flatMap_append, flatMap_logged_granted, List.append_assoc]
  rfl

end

end Endpoint.Simulated

end DmaReadout
