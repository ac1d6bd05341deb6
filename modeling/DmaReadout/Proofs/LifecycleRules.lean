import DmaReadout.Proofs.RecoverableErrors

/-!
# The rules of the lifecycle

Between calls a channel is stopped or running: whatever fails inside an operation, none leaves
the channel on its way. A start and a stop that change nothing succeed, two operations are ruled
out by the state, and a stopped channel transfers superpages without its card.
-/

namespace DmaReadout

variable {κ : Type}

/-- The operations that a state rules out, with the names that the errors give them. -/
inductive Lifecycle.Forbids : Lifecycle → Operation → String → Prop
  | push (superpage : Superpage) : Forbids .stopped (.push superpage) "push"
  | reset {level : ResetLevel} (h : level ≠ .nothing) :
      Forbids .running (.reset level) Transition.reset.name

/-- Whether an operation hands superpages over, looks at one or moves some. -/
def Operation.transfers : Operation → Bool
  | push _ | fill | peek | pop => true
  | start | stop | reset _ | droppedPackets | injectError => false

/-- How an operation treats a channel between calls. -/
structure ObeysLifecycle (endpoint : Endpoint κ) (operation : Operation) (channel : Channel κ) :
    Prop where
  settled : channel.lifecycle = .stopped ∨ channel.lifecycle = .running
  running_iff : (lastState (operation.run endpoint) channel).lifecycle = .running ↔
    channel.lifecycle = .running ∧ operation ≠ .stop ∨
      channel.lifecycle = .stopped ∧ operation = .start ∧
        failure? (operation.run endpoint) channel = none
  stops : operation = .stop →
    (lastState (operation.run endpoint) channel).lifecycle = .stopped
  stays : operation ≠ .start → operation ≠ .stop →
    (lastState (operation.run endpoint) channel).lifecycle = channel.lifecycle
  again : channel.lifecycle = .running ∧ operation = .start ∨
      channel.lifecycle = .stopped ∧ operation = .stop →
    failure? (operation.run endpoint) channel = none ∧
      operation.accesses endpoint channel = [] ∧
      ∃ record, lastState (operation.run endpoint) channel =
        { channel with journal := channel.journal.note record }
  invalidState_iff : ∀ name state,
    failure? (operation.run endpoint) channel = some (.invalidState name state) ↔
      state = channel.lifecycle ∧ state.Forbids operation name
  quiet : channel.lifecycle = .stopped → operation.transfers = true →
    operation.accesses endpoint channel = []
  queues : channel.lifecycle = .stopped → operation.transfers = true → operation ≠ .pop →
    (lastState (operation.run endpoint) channel).pipeline = channel.pipeline

namespace Operation

variable {endpoint : Endpoint κ} {operation : Operation} {channel : Channel κ}

/-- Between calls only a push and a reset are ever refused for the state. -/
lemma Refusal.forbids {name : String} {state : Lifecycle}
    (h : Refusal endpoint channel operation (.invalidState name state))
    (hsettled : channel.lifecycle = .stopped ∨ channel.lifecycle = .running) :
    state = channel.lifecycle ∧ state.Forbids operation name := by
  cases h with
  | startState hstate hstopped hrunning =>
    rw [hstate] at hsettled
    rcases hsettled with hsettled | hsettled
    · exact absurd hsettled hstopped
    · exact absurd hsettled hrunning
  | stopState hstate hstopped hrunning =>
    rw [hstate] at hsettled
    rcases hsettled with hsettled | hsettled
    · exact absurd hsettled hstopped
    · exact absurd hsettled hrunning
  | resetState hlevel hstate =>
    have hrunning := hsettled.resolve_left hstate
    rw [hrunning]
    exact ⟨rfl, .reset hlevel⟩
  | pushState hstate =>
    have hstopped := hsettled.resolve_right hstate
    rw [hstopped]
    exact ⟨rfl, .push _⟩
  -- What else an operation is refused for is found by a check that does not know the state.
  | startSource hresolve =>
    unfold DataSource.resolve at hresolve
    grind
  | resetLevel hcheck =>
    unfold ResetLevel.check at hcheck
    grind
  | pushCapacity hcapacity =>
    unfold Pipeline.checkCapacity at hcapacity
    grind
  | pushSuperpage hcheck =>
    unfold Endpoint.checkSuperpage at hcheck
    grind
  | pushLink hnext =>
    unfold Pipeline.nextLink Pipeline.checkCapacity at hnext
    grind
  | peek hpeek =>
    unfold Pipeline.peek at hpeek
    grind
  | pop hpop =>
    unfold Pipeline.pop at hpop
    grind

/-- An operation that the state rules out fails at once. -/
lemma failure?_of_forbids {name : String} (h : channel.lifecycle.Forbids operation name) :
    failure? (operation.run endpoint) channel =
      some (.invalidState name channel.lifecycle) := by
  have hrefused : Ensures (operation.run endpoint) channel (fun _ _ => False)
      (fun e _ => e = .invalidState name channel.lifecycle) := by
    generalize hstate : channel.lifecycle = state at h
    cases h with
    | push superpage =>
      have hrunning : channel.lifecycle ≠ .running := by
        rw [hstate]
        nofun
      change Ensures (endpoint.push superpage) channel _ _
      unfold Endpoint.push
      rw [ensures_bind, ensures_get, if_neg hrunning, ensures_throw, hstate]
    | @reset level hlevel =>
      have hstopped : channel.lifecycle ≠ .stopped := by
        rw [hstate]
        nofun
      change Ensures (endpoint.reset level) channel _ _
      unfold Endpoint.reset
      rw [if_pos hlevel, ensures_bind, ensures_get]
      dsimp only
      rw [if_neg hstopped, ensures_throw, hstate]
  rcases hrefused.outcome with ⟨_, -, hfalse⟩ | ⟨e, hfailure, rfl⟩
  · exact hfalse.elim
  · exact hfailure

lemma invalidState_iff (hsettled : channel.lifecycle = .stopped ∨ channel.lifecycle = .running)
    (name : String) (state : Lifecycle) :
    failure? (operation.run endpoint) channel = some (.invalidState name state) ↔
      state = channel.lifecycle ∧ state.Forbids operation name := by
  constructor
  · intro hfailure
    have hcause := ((operation.refusable endpoint channel).of_error
      (eq_error_of_failure hfailure)).2
    rcases hcause with hfatal | ⟨hrefusal, -⟩
    · cases hfatal
    · exact hrefusal.forbids hsettled
  · rintro ⟨rfl, hforbids⟩
    exact failure?_of_forbids hforbids

/-- A stopped channel transfers superpages without its card, and only a pop moves any. -/
lemma transfers_stopped (endpoint : Endpoint κ) (channel : Channel κ)
    (htransfers : operation.transfers = true) (hstopped : channel.lifecycle = .stopped) :
    (lastState (operation.run endpoint) channel).card = channel.card ∧
      (operation ≠ .pop →
        (lastState (operation.run endpoint) channel).pipeline = channel.pipeline) := by
  have hsame {last : Channel κ} (h : last = channel) : last.card = channel.card ∧
      (operation ≠ .pop → last.pipeline = channel.pipeline) := by
    rw [h]
    exact ⟨rfl, fun _ => rfl⟩
  have hrunning : channel.lifecycle ≠ .running := by
    rw [hstopped]
    nofun
  have hall : Ensures (operation.run endpoint) channel
      (fun _ last => last.card = channel.card ∧
        (operation ≠ .pop → last.pipeline = channel.pipeline))
      (fun _ last => last.card = channel.card ∧
        (operation ≠ .pop → last.pipeline = channel.pipeline)) := by
    cases operation with
    | push superpage =>
      change Ensures (endpoint.push superpage) channel _ _
      unfold Endpoint.push
      rw [ensures_bind, ensures_get, if_neg hrunning]
      exact hsame rfl
    | fill =>
      change Ensures endpoint.fill channel _ _
      unfold Endpoint.fill
      rw [ensures_bind, ensures_get, if_neg hrunning]
      exact hsame rfl
    | peek =>
      apply (Channel.ensures_peek channel).mono
      · rintro superpage last ⟨-, hlast⟩
        exact hsame hlast
      · intro e last hlast
        exact hsame hlast
    | pop =>
      apply (Channel.ensures_pop channel).mono
      · rintro superpage last ⟨-, hlast⟩
        rw [hlast]
        exact ⟨rfl, fun hpop => absurd rfl hpop⟩
      · intro e last hlast
        exact hsame hlast
    | _ => cases htransfers
  exact hall.of_lastState

/-- Starting a running channel or stopping a stopped one only leaves a record. -/
lemma run_again (endpoint : Endpoint κ) (channel : Channel κ)
    (h : channel.lifecycle = .running ∧ operation = .start ∨
      channel.lifecycle = .stopped ∧ operation = .stop) :
    failure? (operation.run endpoint) channel = none ∧
      ∃ record, lastState (operation.run endpoint) channel =
        { channel with journal := channel.journal.note record } := by
  have hnoted : ∃ record, Ensures (operation.run endpoint) channel
      (fun _ last => last = { channel with journal := channel.journal.note record })
      (fun _ _ => False) := by
    rcases h with ⟨hrunning, rfl⟩ | ⟨hstopped, rfl⟩
    · use .alreadyStarted
      change Ensures endpoint.start channel _ _
      unfold Endpoint.start
      rw [ensures_bind, ensures_get, hrunning]
      exact Channel.ensures_note.2 (by rw [← hrunning])
    · use .alreadyStopped
      change Ensures endpoint.stop channel _ _
      unfold Endpoint.stop
      rw [ensures_bind, ensures_get, hstopped]
      exact Channel.ensures_note.2 (by rw [← hstopped])
  obtain ⟨record, hensures⟩ := hnoted
  rcases hensures.outcome with ⟨_, hfailure, hlast⟩ | ⟨e, -, hfalse⟩
  · exact ⟨hfailure, record, hlast⟩
  · exact hfalse.elim

/-- Whatever its outcome, a stop leaves the channel stopped. -/
lemma stop_stops (endpoint : Endpoint κ)
    (hsettled : channel.lifecycle = .stopped ∨ channel.lifecycle = .running) :
    (lastState (stop.run endpoint) channel).lifecycle = .stopped := by
  rcases hsettled with hstopped | hrunning
  · obtain ⟨-, record, hlast⟩ := run_again endpoint channel (.inr ⟨hstopped, rfl⟩)
    rw [hlast]
    exact hstopped
  · have hstops : Ensures endpoint.stop channel (fun _ last => last.lifecycle = .stopped)
        (fun _ last => last.lifecycle = .stopped) := by
      unfold Endpoint.stop
      rw [ensures_bind, ensures_get, hrunning]
      dsimp only
      rw [Channel.ensures_transition]
      exact (endpoint.disarmAndDrain_advances _).mono (fun _ _ _ => rfl) (fun _ _ _ => rfl)
    exact hstops.of_lastState

/-- A channel comes to run by a start that succeeds, and by nothing else. -/
lemma running_iff (endpoint : Endpoint κ)
    (hsettled : channel.lifecycle = .stopped ∨ channel.lifecycle = .running) :
    (lastState (operation.run endpoint) channel).lifecycle = .running ↔
      channel.lifecycle = .running ∧ operation ≠ .stop ∨
        channel.lifecycle = .stopped ∧ operation = .start ∧
          failure? (operation.run endpoint) channel = none := by
  by_cases hstart : operation = .start
  · subst hstart
    change (lastState endpoint.start channel).lifecycle = .running ↔ channel.lifecycle = .running ∧
      _ ∨ channel.lifecycle = .stopped ∧ _ ∧ failure? endpoint.start channel = none
    rcases (endpoint.start_standing channel).outcome with
      ⟨_, hfailure, ⟨hstopped, hlast, -⟩ | ⟨hrunning, hlast⟩⟩ |
        ⟨e, hfailure, ⟨hstopped, hlast, -⟩ | hlast⟩
    · simp [hfailure, hstopped, hlast]
    · rw [Channel.lifecycle_of_standing hlast]
      simp [hrunning]
    · simp [hfailure, hstopped, hlast]
    · simp [hfailure, hlast]
  · by_cases hstop : operation = .stop
    · subst hstop
      rw [stop_stops endpoint hsettled]
      simp
    · rw [operation.lifecycle_eq endpoint hstart hstop]
      simp [hstart, hstop]

/-- An operation leaves a channel stopped or running that it finds so. -/
lemma settles (endpoint : Endpoint κ) (operation : Operation)
    (hsettled : channel.lifecycle = .stopped ∨ channel.lifecycle = .running) :
    (lastState (operation.run endpoint) channel).lifecycle = .stopped ∨
      (lastState (operation.run endpoint) channel).lifecycle = .running := by
  by_cases hstart : operation = .start
  · subst hstart
    have hstart : Ensures endpoint.start channel
        (fun _ last => last.lifecycle = .stopped ∨ last.lifecycle = .running)
        (fun _ last => last.lifecycle = .stopped ∨ last.lifecycle = .running) := by
      apply (endpoint.start_standing channel).mono
      · rintro _ last (⟨-, hlast, -⟩ | ⟨-, hlast⟩)
        · exact .inr hlast
        · rwa [Channel.lifecycle_of_standing hlast]
      · rintro e last (⟨-, hlast, -⟩ | rfl)
        · exact .inl hlast
        · exact hsettled
    exact hstart.of_lastState
  · by_cases hstop : operation = .stop
    · subst hstop
      exact .inl (stop_stops endpoint hsettled)
    · rwa [operation.lifecycle_eq endpoint hstart hstop]

end Operation

lemma Endpoint.afterCalls_settled (endpoint : Endpoint κ) (calls : List Call)
    {channel : Channel κ}
    (hsettled : channel.lifecycle = .stopped ∨ channel.lifecycle = .running) :
    (endpoint.afterCalls channel calls).lifecycle = .stopped ∨
      (endpoint.afterCalls channel calls).lifecycle = .running := by
  induction calls generalizing channel with
  | nil => exact hsettled
  | cons call calls ih => exact ih (call.operation.settles (endpoint.during call) hsettled)

/-- Whatever card and buffer answer, every call in every run of a channel obeys the rules of the
lifecycle. -/
theorem lifecycle_obeyed (endpoint : Endpoint κ) {card : κ} {channel : Channel κ}
    (hopen : endpoint.openChannel card = .ok channel) (calls : List Call) (call : Call) :
    ObeysLifecycle (endpoint.during call) call.operation (endpoint.afterCalls channel calls) := by
  obtain ⟨links, hopened⟩ := exists_opened hopen
  have hsettled := endpoint.afterCalls_settled calls (.inl hopened.lifecycle)
  generalize endpoint.afterCalls channel calls = before at hsettled
  generalize endpoint.during call = endpoint
  obtain ⟨operation, buffer⟩ := call
  constructor
  case settled => exact hsettled
  case running_iff => exact Operation.running_iff endpoint hsettled
  case stops =>
    rintro rfl
    exact Operation.stop_stops endpoint hsettled
  case stays =>
    intro hstart hstop
    exact operation.lifecycle_eq endpoint hstart hstop before
  case again =>
    intro hagain
    obtain ⟨hfailure, hlast⟩ := Operation.run_again endpoint before hagain
    obtain ⟨-, record, hrecorded⟩ :=
      Operation.run_again endpoint.recorded (before.withHistory []) hagain
    refine ⟨hfailure, ?_, hlast⟩
    rw [Operation.accesses, hrecorded]
    rfl
  case invalidState_iff => exact Operation.invalidState_iff hsettled
  case quiet =>
    intro hstopped htransfers
    have hcard := (Operation.transfers_stopped endpoint.recorded (before.withHistory [])
      htransfers hstopped).1
    exact congrArg Prod.fst hcard
  case queues =>
    intro hstopped htransfers hpop
    exact (Operation.transfers_stopped endpoint before htransfers hstopped).2 hpop

/-- A stop that cannot disarm the buffer fails, and the channel is stopped: a push is refused
without an access, and a second stop has nothing to do. -/
theorem lifecycle_obeyed_failed_stop :
    let card : ScriptedCard := ([⟨.setBufferReady, 1, 1, .because "disarm"⟩], {})
    let superpage : Superpage := ⟨0, 8192, 0, false, 0⟩
    let calls := [.start, .push superpage, .stop].map fun operation =>
      (⟨operation, twoLinks.buffer⟩ : Call)
    let running := twoLinks.afterCalls (twoLinksChannel card) (calls.take 2)
    let stopped := twoLinks.afterCalls (twoLinksChannel card) calls
    twoLinks.openChannel card = .ok (twoLinksChannel card) ∧
      running.lifecycle = .running ∧
      failure? (Operation.stop.run twoLinks) running =
        some (.hardware (.because "disarm")) ∧
      stopped.lifecycle = .stopped ∧
      failure? ((Operation.push superpage).run twoLinks) stopped =
        some (.invalidState "push" .stopped) ∧
      (Operation.push superpage).accesses twoLinks stopped = [] ∧
      failure? (Operation.stop.run twoLinks) stopped = none := by
  intro card superpage calls running stopped
  have hopen := openChannel_twoLinks card
  have hstop : ObeysLifecycle twoLinks .stop running :=
    lifecycle_obeyed twoLinks hopen (calls.take 2) ⟨.stop, twoLinks.buffer⟩
  have hpush : ObeysLifecycle twoLinks (.push superpage) stopped :=
    lifecycle_obeyed twoLinks hopen calls ⟨.push superpage, twoLinks.buffer⟩
  have hagain : ObeysLifecycle twoLinks .stop stopped :=
    lifecycle_obeyed twoLinks hopen calls ⟨.stop, twoLinks.buffer⟩
  have hstopped : stopped.lifecycle = .stopped := hstop.stops rfl
  refine ⟨hopen, by decide +kernel, by decide +kernel, hstopped, ?_, ?_, ?_⟩
  · exact (hpush.invalidState_iff "push" .stopped).2 ⟨hstopped.symm, .push superpage⟩
  · exact hpush.quiet hstopped rfl
  · exact (hagain.again (.inr ⟨hstopped, rfl⟩)).1

end DmaReadout
