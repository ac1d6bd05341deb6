import DmaReadout.Channel.Control
import DmaReadout.Proofs.Ensures

/-!
# Register accesses and the queues

Programs that only talk to the card, and report on it, leave the lifecycle and the queues of
their channel alone, whatever the card answers.
-/

namespace DmaReadout

variable {κ : Type}

/-- Where a channel stands, with its queues: all but its card and what it noted. -/
def Channel.standing (channel : Channel κ) : Lifecycle × Pipeline :=
  (channel.lifecycle, channel.pipeline)

lemma Channel.lifecycle_of_standing {channel last : Channel κ}
    (h : last.standing = channel.standing) : last.lifecycle = channel.lifecycle :=
  congrArg Prod.fst h

lemma Channel.pipeline_of_standing {channel last : Channel κ}
    (h : last.standing = channel.standing) : last.pipeline = channel.pipeline :=
  congrArg Prod.snd h

namespace Channel

variable {channel : Channel κ} {ok : PUnit → Channel κ → Prop}
  {failed : ReadoutError → Channel κ → Prop}

@[simp]
theorem ensures_note {record : LogRecord} :
    Ensures (note record) channel ok failed ↔
      ok ⟨⟩ { channel with journal := channel.journal.note record } := Iff.rfl

@[simp]
theorem ensures_count {metric : Metric} :
    Ensures (count metric) channel ok failed ↔
      ok ⟨⟩ { channel with journal := channel.journal.count metric } := Iff.rfl

/-- A transition ends as its action does, but for the state and the metric it adds. -/
theorem ensures_transition {kind : Transition} {during after fallback : Lifecycle}
    {action : ChannelM κ Unit} {channel : Channel κ} {ok : Unit → Channel κ → Prop}
    {failed : ReadoutError → Channel κ → Prop} :
    Ensures (transition kind during after fallback action) channel ok failed ↔
      Ensures action { channel with lifecycle := during }
        (fun _ last => ok () { last with
          lifecycle := after
          journal := last.journal.count (.transition kind) })
        (fun e last => failed e { last with
          lifecycle := fallback
          journal := last.journal.count (.transition kind) }) := by
  unfold Ensures transition
  dsimp only
  cases action { channel with lifecycle := during } <;> rfl

lemma keeps_note (record : LogRecord) :
    Keeps standing (note record : ChannelM κ Unit) := by
  intro channel
  rw [ensures_note]
  rfl

lemma keeps_count (metric : Metric) :
    Keeps standing (count metric : ChannelM κ Unit) := by
  intro channel
  rw [ensures_count]
  rfl

end Channel

namespace Endpoint

variable {endpoint : Endpoint κ} {channel : Channel κ}

theorem ensures_perform {access : Access} {ok : Except Fault access.Reply → Channel κ → Prop}
    {failed : ReadoutError → Channel κ → Prop} :
    Ensures (endpoint.perform access) channel ok failed ↔
      ∀ reply card, endpoint.registers.perform access channel.card = (reply, card) →
        ok reply { channel with card } := by
  constructor
  · intro h reply card hp
    unfold Ensures perform at h
    rwa [hp] at h
  · intro h
    exact h _ _ rfl

theorem ensures_access {access : Access} {ok : access.Reply → Channel κ → Prop}
    {failed : ReadoutError → Channel κ → Prop} :
    Ensures (endpoint.access access) channel ok failed ↔
      (∀ reply card, endpoint.registers.perform access channel.card = (.ok reply, card) →
        ok reply { channel with card }) ∧
      ∀ fault card, endpoint.registers.perform access channel.card = (.error fault, card) →
        failed (.hardware fault) { channel with card } := by
  unfold Endpoint.access
  rw [ensures_bind, ensures_perform]
  constructor
  · intro h
    constructor
    · intro reply card hp
      exact h _ _ hp
    · intro fault card hp
      exact h _ _ hp
  · rintro ⟨hok, hfailed⟩ reply card hp
    cases reply with
    | ok reply => exact hok _ _ hp
    | error fault => exact hfailed _ _ hp

/-- An attempt ends well, whatever the card answers. -/
theorem ensures_attempt {command : Command} {record : Fault → LogRecord} :
    Ensures (endpoint.attempt command record) channel
      (fun _ last => ∃ reply,
        endpoint.registers.perform (.write command) channel.card = (reply, last.card))
      (fun _ _ => False) := by
  unfold attempt
  rw [ensures_bind, ensures_perform]
  intro reply card hperform
  cases reply with
  | ok answer => exact ⟨_, hperform⟩
  | error fault => exact ⟨_, hperform⟩

lemma keeps_perform (endpoint : Endpoint κ) (access : Access) :
    Keeps Channel.standing (endpoint.perform access) := by
  intro channel
  rw [ensures_perform]
  intro reply card _
  rfl

lemma keeps_access (endpoint : Endpoint κ) (access : Access) :
    Keeps Channel.standing (endpoint.access access) := by
  unfold Endpoint.access
  apply (keeps_perform endpoint access).bind
  intro reply
  cases reply with
  | ok reply => exact Keeps.pure _
  | error fault => exact Keeps.throw _

lemma keeps_write (endpoint : Endpoint κ) (command : Command) :
    Keeps Channel.standing (endpoint.write command) :=
  keeps_access endpoint _

lemma keeps_attempt (endpoint : Endpoint κ) (command : Command) (record : Fault → LogRecord) :
    Keeps Channel.standing (endpoint.attempt command record) := by
  unfold attempt
  apply (keeps_perform endpoint _).bind
  intro reply
  cases reply with
  | ok reply => exact Keeps.pure _
  | error fault => exact Channel.keeps_note _

lemma keeps_ensureDebugMode (endpoint : Endpoint κ) :
    Keeps Channel.standing endpoint.ensureDebugMode := by
  unfold ensureDebugMode
  apply Keeps.ite _ (Keeps.pure _)
  apply (keeps_access endpoint _).bind
  intro enabled
  apply Keeps.ite (Keeps.pure _)
  apply (keeps_write endpoint _).bind
  intro _
  apply Keeps.modify
  intro channel
  rfl

lemma keeps_resetCard (endpoint : Endpoint κ) (level : ResetLevel) :
    Keeps Channel.standing (endpoint.resetCard level) := by
  unfold resetCard
  apply Keeps.ite _ (Keeps.pure _)
  extract_lets family finish reset
  have hfinish (r : Unit) : Keeps Channel.standing (finish r) := Channel.keeps_note _
  have hreset (r : Unit) : Keeps Channel.standing (reset r) := by
    apply (keeps_ensureDebugMode endpoint).bind
    intro _
    apply (keeps_write endpoint _).bind
    intro _
    apply (keeps_write endpoint _).bind
    intro _
    exact Keeps.ite ((keeps_write endpoint _).bind hfinish) (hfinish ())
  exact Keeps.ite ((Channel.keeps_note _).bind hreset) (hreset ())

lemma keeps_beginDataTaking (endpoint : Endpoint κ) (source : DataSource) :
    Keeps Channel.standing (endpoint.beginDataTaking source) := by
  unfold beginDataTaking
  apply (keeps_write endpoint _).bind
  intro _
  exact Keeps.ite (keeps_write endpoint _) (Keeps.pure _)

lemma keeps_abandonStart (endpoint : Endpoint κ) :
    Keeps Channel.standing endpoint.abandonStart := by
  unfold abandonStart
  apply (keeps_attempt endpoint _ _).bind
  intro _
  exact keeps_attempt endpoint _ _

lemma keeps_pollArrivals (endpoint : Endpoint κ) (links : List Link) :
    Keeps Channel.standing (endpoint.pollArrivals links) := by
  induction links with
  | nil => exact Keeps.pure _
  | cons link links ih =>
    rw [pollArrivals]
    apply (keeps_access endpoint _).bind
    intro hardwareCount
    apply Keeps.ite
    · apply (Channel.keeps_note _).bind
      intro _
      apply (Channel.keeps_count _).bind
      intro _
      exact Keeps.throw _
    · exact ih.bind fun _ => Keeps.pure _

lemma keeps_readArrivals (endpoint : Endpoint κ) (links : List Link) :
    Keeps Channel.standing (endpoint.readArrivals links) := by
  induction links with
  | nil => exact Keeps.pure _
  | cons link links ih =>
    rw [readArrivals]
    apply (keeps_perform endpoint _).bind
    intro reply
    cases reply with
    | error fault => exact Keeps.pure _
    | ok hardwareCount =>
      apply Keeps.ite
      · apply (Channel.keeps_note _).bind
        intro _
        apply ih.bind
        intro _
        exact Keeps.pure _
      · apply ih.bind
        intro _
        exact Keeps.pure _

/-- What is left of a closed channel is what shutting down leaves. -/
lemma close_eq (endpoint : Endpoint κ) (channel : Channel κ) :
    endpoint.close channel = lastState endpoint.shutDown channel := by
  unfold close lastState
  cases endpoint.shutDown channel <;> rfl

end Endpoint

end DmaReadout
