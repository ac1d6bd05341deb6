import DmaReadout.Proofs.Operations
import Mathlib.Logic.Relation

/-!
# Kinds of accesses

A program gets at its card by register accesses, and each program by a few kinds of them only.
So a card keeps whatever no access of these kinds changes. And what can go wrong once the card
is accessed is always fatal.
-/

namespace DmaReadout

variable {κ α β : Type}

namespace Registers

variable {registers : Registers κ} {kinds kinds' : List Access.Kind} {card card' : κ}

def Touches (registers : Registers κ) (kinds : List Access.Kind) (card card' : κ) : Prop :=
  ∃ (access : Access) (reply : Except Fault access.Reply),
    access.kind ∈ kinds ∧ registers.perform access card = (reply, card')

def Reaches (registers : Registers κ) (kinds : List Access.Kind) : κ → κ → Prop :=
  Relation.ReflTransGen (registers.Touches kinds)

lemma Reaches.refl (card : κ) : registers.Reaches kinds card card :=
  Relation.ReflTransGen.refl

lemma Reaches.trans {middle : κ} (h : registers.Reaches kinds card middle)
    (h' : registers.Reaches kinds middle card') : registers.Reaches kinds card card' :=
  Relation.ReflTransGen.trans h h'

lemma Reaches.mono (h : registers.Reaches kinds card card') (hkinds : kinds ⊆ kinds') :
    registers.Reaches kinds' card card' := by
  refine Relation.ReflTransGen.mono ?_ card card' h
  rintro before after ⟨access, reply, hkind, hperform⟩
  exact ⟨access, reply, hkinds hkind, hperform⟩

lemma Reaches.of_perform {access : Access} {reply : Except Fault access.Reply}
    (hkind : access.kind ∈ kinds) (h : registers.perform access card = (reply, card')) :
    registers.Reaches kinds card card' :=
  Relation.ReflTransGen.single ⟨access, reply, hkind, h⟩

end Registers

namespace Endpoint

variable {endpoint : Endpoint κ} {kinds kinds' : List Access.Kind}

/-- The program makes accesses of these kinds, and its errors are fatal. -/
def Confined (endpoint : Endpoint κ) (kinds : List Access.Kind) (program : ChannelM κ α) :
    Prop :=
  ∀ channel, Ensures program channel
    (fun _ last => endpoint.registers.Reaches kinds channel.card last.card)
    (fun e last => endpoint.registers.Reaches kinds channel.card last.card ∧ e.isFatal = true)

namespace Confined

variable {program : ChannelM κ α}

lemma mono (h : endpoint.Confined kinds program) (hkinds : kinds ⊆ kinds') :
    endpoint.Confined kinds' program := by
  intro channel
  apply (h channel).mono
  · intro a last hlast
    exact hlast.mono hkinds
  · rintro e last ⟨hlast, hfatal⟩
    exact ⟨hlast.mono hkinds, hfatal⟩

lemma pure (a : α) : endpoint.Confined kinds (pure a : ChannelM κ α) :=
  fun _ => Registers.Reaches.refl _

lemma throw {e : ReadoutError} (h : e.isFatal = true) :
    endpoint.Confined kinds (throw e : ChannelM κ α) :=
  fun _ => ⟨Registers.Reaches.refl _, h⟩

lemma modify {f : Channel κ → Channel κ} (h : ∀ channel, (f channel).card = channel.card) :
    endpoint.Confined kinds (modify f : ChannelM κ PUnit) := by
  intro channel
  rw [ensures_modify, h]
  exact Registers.Reaches.refl _

lemma note (record : LogRecord) :
    endpoint.Confined kinds (Channel.note record : ChannelM κ Unit) :=
  modify fun _ => rfl

lemma count (metric : Metric) :
    endpoint.Confined kinds (Channel.count metric : ChannelM κ Unit) :=
  modify fun _ => rfl

lemma setLifecycle (lifecycle : Lifecycle) :
    endpoint.Confined kinds (Channel.setLifecycle lifecycle : ChannelM κ Unit) :=
  modify fun _ => rfl

lemma bind {next : α → ChannelM κ β} (h : endpoint.Confined kinds program)
    (hnext : ∀ a, endpoint.Confined kinds (next a)) :
    endpoint.Confined kinds (program >>= next) := by
  intro channel
  rw [ensures_bind]
  apply (h channel).mono
  · intro a middle hmiddle
    apply (hnext a middle).mono
    · intro b last hlast
      exact hmiddle.trans hlast
    · rintro e last ⟨hlast, hfatal⟩
      exact ⟨hmiddle.trans hlast, hfatal⟩
  · intro e last hlast
    exact hlast

lemma tryCatch {handle : ReadoutError → ChannelM κ α} (h : endpoint.Confined kinds program)
    (hhandle : ∀ e, e.isFatal = true → endpoint.Confined kinds (handle e)) :
    endpoint.Confined kinds (tryCatch program handle) := by
  intro channel
  rw [ensures_tryCatch]
  apply (h channel).mono
  · intro a last hlast
    exact hlast
  · rintro e middle ⟨hmiddle, hfatal⟩
    apply (hhandle e hfatal middle).mono
    · intro a last hlast
      exact hmiddle.trans hlast
    · rintro e' last ⟨hlast, hfatal'⟩
      exact ⟨hmiddle.trans hlast, hfatal'⟩

lemma ite {c : Prop} [Decidable c] {other : ChannelM κ α}
    (h : endpoint.Confined kinds program) (hother : endpoint.Confined kinds other) :
    endpoint.Confined kinds (if c then program else other) := by
  split
  · exact h
  · exact hother

end Confined

lemma confined_perform {access : Access} (kind : Access.Kind)
    (hkind : access.kind = kind) (hmem : kind ∈ kinds) :
    endpoint.Confined kinds (endpoint.perform access) := by
  intro channel
  rw [ensures_perform]
  intro reply card hperform
  rw [← hkind] at hmem
  exact Registers.Reaches.of_perform hmem hperform

lemma confined_access {access : Access} (kind : Access.Kind)
    (hkind : access.kind = kind) (hmem : kind ∈ kinds) :
    endpoint.Confined kinds (endpoint.access access) := by
  apply (confined_perform kind hkind hmem).bind
  intro reply
  cases reply with
  | ok reply => exact .pure _
  | error fault => exact .throw rfl

lemma confined_attempt {command : Command} {record : Fault → LogRecord} (kind : Access.Kind)
    (hkind : (Access.write command).kind = kind) (hmem : kind ∈ kinds) :
    endpoint.Confined kinds (endpoint.attempt command record) := by
  apply (confined_perform kind hkind hmem).bind
  intro reply
  cases reply with
  | ok reply => exact .pure _
  | error fault => exact .note _

end Endpoint

namespace Access.Kind

/-- What a reset of the card takes, with the debug mode that it may need. -/
def resetting : List Access.Kind :=
  [.debugMode, .setDebugMode, .resetGeneratorCounter, .resetCard, .resetExternal]

/-- What starting takes before the buffer is armed. -/
def preparing : List Access.Kind :=
  [.setGeneratorPattern, .setDataSource] ++ resetting

/-- What lets the card write, and what keeps it from writing. -/
def gating : List Access.Kind :=
  [.setBufferReady, .enableDataTaking, .disableDataTaking]

end Access.Kind

namespace Endpoint

open Access.Kind (resetting preparing gating)

lemma confined_ensureDebugMode (endpoint : Endpoint κ) :
    endpoint.Confined [.debugMode, .setDebugMode] endpoint.ensureDebugMode := by
  unfold ensureDebugMode
  apply Confined.ite _ (.pure _)
  apply (confined_access .debugMode rfl (by decide)).bind
  intro enabled
  apply Confined.ite (.pure _)
  apply (confined_access .setDebugMode rfl (by decide)).bind
  intro _
  exact .modify fun _ => rfl

lemma confined_resetCard (endpoint : Endpoint κ) (level : ResetLevel) :
    endpoint.Confined resetting (endpoint.resetCard level) := by
  unfold resetCard
  apply Confined.ite _ (.pure _)
  extract_lets family finish reset
  have hfinish (r : Unit) : endpoint.Confined resetting (finish r) := .note _
  have hreset (r : Unit) : endpoint.Confined resetting (reset r) := by
    apply ((confined_ensureDebugMode endpoint).mono (by decide)).bind
    intro _
    apply (confined_access .resetGeneratorCounter rfl (by decide)).bind
    intro _
    apply (confined_access .resetCard rfl (by decide)).bind
    intro _
    exact .ite ((confined_access .resetExternal rfl (by decide)).bind hfinish) (hfinish ())
  exact .ite ((Confined.note _).bind hreset) (hreset ())

lemma confined_prepare (endpoint : Endpoint κ) (source : DataSource) :
    endpoint.Confined preparing (endpoint.prepare source) := by
  unfold prepare
  extract_lets parameters configure
  have hconfigure (r : Unit) : endpoint.Confined preparing (configure r) := by
    apply ((confined_ensureDebugMode endpoint).mono (by decide)).bind
    intro _
    apply (confined_access .setDataSource rfl (by decide)).bind
    intro _
    apply (Confined.note _).bind
    intro _
    apply (Confined.setLifecycle _).bind
    intro _
    apply ((confined_resetCard endpoint _).mono (by decide)).bind
    intro _
    exact .setLifecycle _
  exact .ite ((confined_access .setGeneratorPattern rfl (by decide)).bind hconfigure)
    (hconfigure ())

lemma confined_beginDataTaking (endpoint : Endpoint κ) (source : DataSource) :
    endpoint.Confined [.enableDataTaking, .disableDataTaking]
      (endpoint.beginDataTaking source) := by
  unfold beginDataTaking
  apply (confined_access .disableDataTaking rfl (by decide)).bind
  intro _
  exact .ite (confined_access .enableDataTaking rfl (by decide)) (.pure _)

lemma confined_abandonStart (endpoint : Endpoint κ) :
    endpoint.Confined [.setBufferReady, .disableDataTaking] endpoint.abandonStart := by
  unfold abandonStart
  apply (confined_attempt .setBufferReady rfl (by decide)).bind
  intro _
  exact confined_attempt .disableDataTaking rfl (by decide)

lemma confined_arm (endpoint : Endpoint κ) (source : DataSource) :
    endpoint.Confined gating (endpoint.arm source) := by
  unfold arm
  apply (confined_access .setBufferReady rfl (by decide)).bind
  intro _
  apply Confined.bind
  · apply ((confined_beginDataTaking endpoint source).mono (by decide)).tryCatch
    intro e hfatal
    apply ((confined_abandonStart endpoint).mono (by decide)).bind
    intro _
    exact .throw hfatal
  · intro _
    exact .note _

lemma confined_advance (endpoint : Endpoint κ) (quotas : List Nat) :
    endpoint.Confined kinds (Channel.advance quotas) := by
  intro channel
  apply Channel.ensures_advance
  intro pipeline moves _
  exact Registers.Reaches.refl _

lemma confined_pollArrivals (endpoint : Endpoint κ) (links : List Link) :
    endpoint.Confined [.superpageCount] (endpoint.pollArrivals links) := by
  induction links with
  | nil => exact .pure _
  | cons link links ih =>
    rw [pollArrivals]
    apply (confined_access .superpageCount rfl (by decide)).bind
    intro hardwareCount
    apply Confined.ite
    · apply (Confined.note _).bind
      intro _
      apply (Confined.count _).bind
      intro _
      exact .throw rfl
    · exact ih.bind fun _ => .pure _

lemma confined_collect (endpoint : Endpoint κ) :
    endpoint.Confined [.superpageCount] endpoint.collect := by
  intro channel
  unfold collect
  rw [ensures_bind, ensures_get]
  exact ((confined_pollArrivals endpoint _).bind (confined_advance endpoint)) channel

lemma confined_readArrivals (endpoint : Endpoint κ) (links : List Link) :
    endpoint.Confined [.superpageCount] (endpoint.readArrivals links) := by
  induction links with
  | nil => exact .pure _
  | cons link links ih =>
    rw [readArrivals]
    apply (confined_perform .superpageCount rfl (by decide)).bind
    intro reply
    cases reply with
    | error fault => exact .pure _
    | ok hardwareCount =>
      apply Confined.ite
      · apply (Confined.note _).bind
        intro _
        exact ih.bind fun _ => .pure _
      · exact ih.bind fun _ => .pure _

lemma isFatal_of_checkDrained {pipeline : Pipeline} {e : ReadoutError}
    (h : pipeline.checkDrained = .error e) : e.isFatal = true := by
  unfold Pipeline.checkDrained at h
  grind [ReadoutError.isFatal]

lemma confined_drain (endpoint : Endpoint κ) :
    endpoint.Confined [.superpageCount] endpoint.drain := by
  intro channel
  unfold drain
  rw [ensures_bind, ensures_get]
  refine ((confined_readArrivals endpoint _).bind ?_) channel
  rintro ⟨arrivals, fault?⟩
  apply (confined_advance endpoint _).bind
  intro moved
  cases fault? with
  | some fault => exact .throw rfl
  | none =>
    intro drained
    dsimp only
    rw [ensures_bind, ensures_get, ensures_bind, ensures_ofExcept]
    constructor
    · intro _ _
      exact Registers.Reaches.refl _
    · intro e he
      exact ⟨Registers.Reaches.refl _, isFatal_of_checkDrained he⟩

lemma confined_drainAndNote (endpoint : Endpoint κ) :
    endpoint.Confined [.superpageCount] (do
      let moved ← endpoint.drain
      Channel.note (.movedOnStop moved)) :=
  (confined_drain endpoint).bind fun _ => .note _

lemma confined_haltAndDrain (endpoint : Endpoint κ) :
    endpoint.Confined [.disableDataTaking, .superpageCount] (do
      endpoint.write .disableDataTaking
      let moved ← endpoint.drain
      Channel.note (.movedOnStop moved)) := by
  apply (confined_access .disableDataTaking rfl (by decide)).bind
  intro _
  exact (confined_drainAndNote endpoint).mono (by decide)

lemma confined_disarmAndDrain (endpoint : Endpoint κ) :
    endpoint.Confined [.setBufferReady, .disableDataTaking, .superpageCount]
      endpoint.disarmAndDrain := by
  unfold disarmAndDrain
  apply (confined_access .setBufferReady rfl (by decide)).bind
  intro _
  exact (confined_haltAndDrain endpoint).mono (by decide)

lemma confined_fill (endpoint : Endpoint κ) :
    endpoint.Confined [.superpageCount] endpoint.fill := by
  intro channel
  unfold fill
  rw [ensures_bind, ensures_get]
  by_cases hrunning : channel.lifecycle = .running
  · rw [if_pos hrunning, ensures_discard]
    exact confined_collect endpoint channel
  · rw [if_neg hrunning]
    exact .refl _

lemma confined_injectError (endpoint : Endpoint κ) :
    endpoint.Confined [.injectError] endpoint.injectError := by
  unfold injectError
  apply Confined.ite _ (.pure _)
  apply (confined_access .injectError rfl (by decide)).bind
  intro _
  exact .pure _

/-- Closing tries to disarm the buffer, and accesses nothing but the debug mode afterwards. -/
lemma shutDown_reaches (endpoint : Endpoint κ) (channel : Channel κ) :
    Ensures endpoint.shutDown channel
      (fun _ closed => ∃ reply card,
        endpoint.registers.perform (.write (.setBufferReady false)) channel.card = (reply, card) ∧
          endpoint.registers.Reaches [.setDebugMode] card closed.card)
      (fun _ closed => ∃ reply card,
        endpoint.registers.perform (.write (.setBufferReady false)) channel.card = (reply, card) ∧
          endpoint.registers.Reaches [.setDebugMode] card closed.card) := by
  unfold shutDown
  rw [ensures_bind]
  apply ensures_attempt.mono
  · rintro _ tried ⟨reply, hdisarm⟩
    rw [ensures_bind, ensures_get]
    extract_lets remaining restore
    have hrestore (r : Unit) : endpoint.Confined [.setDebugMode] (restore r) :=
      .ite (confined_attempt .setDebugMode rfl (by decide)) (.pure _)
    have hrest := Confined.ite (c := remaining > 0)
      ((Confined.note (.leftOnClose remaining)).bind hrestore) (hrestore ())
    apply (hrest tried).mono
    · intro _ closed hclosed
      exact ⟨reply, tried.card, hdisarm, hclosed⟩
    · rintro e closed ⟨hclosed, -⟩
      exact ⟨reply, tried.card, hdisarm, hclosed⟩
  · intro e tried hfalse
    exact hfalse.elim

theorem close_reaches (endpoint : Endpoint κ) (channel : Channel κ) :
    ∃ reply card, endpoint.registers.perform (.write (.setBufferReady false)) channel.card =
        (reply, card) ∧
      endpoint.registers.Reaches [.setDebugMode] card (endpoint.close channel).card := by
  rw [close_eq]
  exact (shutDown_reaches endpoint channel).of_lastState

end Endpoint

end DmaReadout
