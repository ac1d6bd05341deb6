import DmaReadout.Channel.Basic
import Mathlib.Tactic.Lemma

/-!
# What programs ensure

An operation on a channel ends well or with an error, and leaves the channel changed either
way. `Ensures` speaks of both outcomes at once, and passes through a program line by line.
`Keeps` is the special case of a part of the state that a program leaves alone.
-/

namespace DmaReadout

variable {ε σ α β : Type}

/-- Started in `start`, the program succeeds with `ok` or fails with `failed`. -/
def Ensures (program : EStateM ε σ α) (start : σ) (ok : α → σ → Prop)
    (failed : ε → σ → Prop) : Prop :=
  match program start with
  | .ok a last => ok a last
  | .error e last => failed e last

/-- The state that a program ends in. -/
def lastState (program : EStateM ε σ α) (start : σ) : σ :=
  match program start with
  | .ok _ last | .error _ last => last

/-- The error of a program that fails. -/
def failure? (program : EStateM ε σ α) (start : σ) : Option ε :=
  match program start with
  | .ok _ _ => none
  | .error e _ => some e

/-- The result of a program, or its error. -/
def answer (program : EStateM ε σ α) (start : σ) : Except ε α :=
  match program start with
  | .ok a _ => .ok a
  | .error e _ => .error e

lemma eq_error_of_failure {program : EStateM ε σ α} {start : σ} {e : ε}
    (h : failure? program start = some e) :
    program start = .error e (lastState program start) := by
  unfold failure? at h
  unfold lastState
  cases hp : program start with
  | ok a last =>
    rw [hp] at h
    cases h
  | error e' last =>
    rw [hp, Option.some.injEq] at h
    rw [h]

lemma ensures_failure (program : EStateM ε σ α) (start : σ) :
    Ensures program start (fun _ _ => failure? program start = none)
      (fun e _ => failure? program start = some e) := by
  unfold Ensures failure?
  cases program start <;> rfl

namespace Ensures

variable {program : EStateM ε σ α} {start : σ} {ok ok' : α → σ → Prop}
  {failed failed' : ε → σ → Prop}

theorem mono (h : Ensures program start ok failed)
    (hok : ∀ a last, ok a last → ok' a last)
    (hfailed : ∀ e last, failed e last → failed' e last) :
    Ensures program start ok' failed' := by
  unfold Ensures at h ⊢
  cases hp : program start with
  | ok a last =>
    rw [hp] at h
    exact hok a last h
  | error e last =>
    rw [hp] at h
    exact hfailed e last h

theorem and (h : Ensures program start ok failed) (h' : Ensures program start ok' failed') :
    Ensures program start (fun a last => ok a last ∧ ok' a last)
      (fun e last => failed e last ∧ failed' e last) := by
  unfold Ensures at h h' ⊢
  cases hp : program start with
  | ok a last =>
    rw [hp] at h h'
    exact ⟨h, h'⟩
  | error e last =>
    rw [hp] at h h'
    exact ⟨h, h'⟩

lemma of_ok {a : α} {last : σ} (h : Ensures program start ok failed)
    (hp : program start = .ok a last) : ok a last := by
  unfold Ensures at h
  rwa [hp] at h

lemma of_error {e : ε} {last : σ} (h : Ensures program start ok failed)
    (hp : program start = .error e last) : failed e last := by
  unfold Ensures at h
  rwa [hp] at h

lemma outcome (h : Ensures program start ok failed) :
    (∃ a, failure? program start = none ∧ ok a (lastState program start)) ∨
      ∃ e, failure? program start = some e ∧ failed e (lastState program start) := by
  unfold Ensures at h
  unfold failure? lastState
  cases hp : program start with
  | ok a last =>
    rw [hp] at h
    exact .inl ⟨a, rfl, h⟩
  | error e last =>
    rw [hp] at h
    exact .inr ⟨e, rfl, h⟩

lemma answered (h : Ensures program start ok failed) :
    (∃ a, answer program start = .ok a ∧ ok a (lastState program start)) ∨
      ∃ e, answer program start = .error e ∧ failed e (lastState program start) := by
  unfold Ensures at h
  unfold answer lastState
  cases hp : program start with
  | ok a last =>
    rw [hp] at h
    exact .inl ⟨a, rfl, h⟩
  | error e last =>
    rw [hp] at h
    exact .inr ⟨e, rfl, h⟩

lemma of_lastState {P : σ → Prop}
    (h : Ensures program start (fun _ last => P last) (fun _ last => P last)) :
    P (lastState program start) := by
  unfold Ensures at h
  unfold lastState
  cases hp : program start with
  | ok a last => rwa [hp] at h
  | error e last => rwa [hp] at h

end Ensures

section Programs

variable {start : σ} {failed : ε → σ → Prop}

@[simp]
theorem ensures_pure {a : α} {ok : α → σ → Prop} :
    Ensures (pure a : EStateM ε σ α) start ok failed ↔ ok a start := Iff.rfl

@[simp]
theorem ensures_throw {e : ε} {ok : α → σ → Prop} :
    Ensures (throw e : EStateM ε σ α) start ok failed ↔ failed e start := Iff.rfl

@[simp]
theorem ensures_get {ok : σ → σ → Prop} :
    Ensures (get : EStateM ε σ σ) start ok failed ↔ ok start start := Iff.rfl

@[simp]
theorem ensures_modify {f : σ → σ} {ok : PUnit → σ → Prop} :
    Ensures (modify f : EStateM ε σ PUnit) start ok failed ↔ ok ⟨⟩ (f start) := Iff.rfl

@[simp]
theorem ensures_bind {program : EStateM ε σ α} {next : α → EStateM ε σ β}
    {ok : β → σ → Prop} :
    Ensures (program >>= next) start ok failed ↔
      Ensures program start (fun a last => Ensures (next a) last ok failed) failed := by
  change (match EStateM.bind program next start with
    | .ok a last => ok a last
    | .error e last => failed e last) ↔ _
  unfold EStateM.bind Ensures
  cases program start <;> rfl

lemma bind_of_ok {program : EStateM ε σ α} {next : α → EStateM ε σ β} {a : α} {last : σ}
    (h : program start = .ok a last) : (program >>= next) start = next a last := by
  change EStateM.bind program next start = _
  unfold EStateM.bind
  rw [h]

lemma bind_of_error {program : EStateM ε σ α} {next : α → EStateM ε σ β} {e : ε} {last : σ}
    (h : program start = .error e last) : (program >>= next) start = .error e last := by
  change EStateM.bind program next start = _
  unfold EStateM.bind
  rw [h]

@[simp]
theorem ensures_discard {program : EStateM ε σ α} {ok : PUnit → σ → Prop} :
    Ensures (discard program) start ok failed ↔
      Ensures program start (fun _ last => ok ⟨⟩ last) failed := by
  have hd : discard program start = EStateM.map (fun _ => PUnit.unit) program start := by
    simp only [discard, Functor.mapConst, Function.comp]
  unfold Ensures
  rw [hd, EStateM.map]
  cases program start <;> rfl

@[simp]
theorem ensures_tryCatch {program : EStateM ε σ α} {handle : ε → EStateM ε σ α}
    {ok : α → σ → Prop} :
    Ensures (tryCatch program handle) start ok failed ↔
      Ensures program start ok (fun e last => Ensures (handle e) last ok failed) := by
  change (match EStateM.tryCatch program handle start with
    | .ok a last => ok a last
    | .error e last => failed e last) ↔ _
  unfold EStateM.tryCatch Ensures
  cases program start <;> rfl

/-- Going past a program of which nothing has to be known, when failing is no concern. -/
lemma Ensures.skip {program : EStateM ε σ α} {next : α → EStateM ε σ β} {ok : β → σ → Prop}
    (hnext : ∀ a last, Ensures (next a) last ok fun _ _ => True) :
    Ensures (program >>= next) start ok fun _ _ => True := by
  rw [ensures_bind]
  unfold Ensures
  cases program start with
  | ok a last => exact hnext a last
  | error e last => trivial

theorem ensures_ofExcept {result : Except ε α} {ok : α → σ → Prop} :
    Ensures (ofExcept result : EStateM ε σ α) start ok failed ↔
      (∀ a, result = .ok a → ok a start) ∧ ∀ e, result = .error e → failed e start := by
  cases result with
  | ok a => simp [ofExcept]
  | error e => simp [ofExcept]

end Programs

/-- Whatever its outcome, the program leaves `view` as it was. -/
def Keeps (view : σ → β) (program : EStateM ε σ α) : Prop :=
  ∀ start, Ensures program start (fun _ last => view last = view start)
    (fun _ last => view last = view start)

namespace Keeps

variable {γ : Type} {view : σ → γ}

theorem pure (a : α) : Keeps view (pure a : EStateM ε σ α) := fun _ => rfl

theorem throw (e : ε) : Keeps view (throw e : EStateM ε σ α) := fun _ => rfl

theorem modify {f : σ → σ} (h : ∀ s, view (f s) = view s) :
    Keeps view (modify f : EStateM ε σ PUnit) := h

theorem bind {program : EStateM ε σ α} {next : α → EStateM ε σ β} (h : Keeps view program)
    (hnext : ∀ a, Keeps view (next a)) : Keeps view (program >>= next) := by
  intro start
  rw [ensures_bind]
  apply (h start).mono
  · intro a middle hm
    exact (hnext a middle).mono (fun _ _ hl => hl.trans hm) (fun _ _ hl => hl.trans hm)
  · intro e last hl
    exact hl

theorem tryCatch {program : EStateM ε σ α} {handle : ε → EStateM ε σ α}
    (h : Keeps view program) (hhandle : ∀ e, Keeps view (handle e)) :
    Keeps view (tryCatch program handle) := by
  intro start
  rw [ensures_tryCatch]
  apply (h start).mono
  · intro a last hl
    exact hl
  · intro e middle hm
    exact (hhandle e middle).mono (fun _ _ hl => hl.trans hm) (fun _ _ hl => hl.trans hm)

theorem ensures_bind {program : EStateM ε σ α} {next : α → EStateM ε σ β} {start : σ}
    {ok : β → σ → Prop} {failed : ε → σ → Prop} (h : Keeps view program)
    (hnext : ∀ a last, view last = view start → Ensures (next a) last ok failed)
    (hfailed : ∀ e last, view last = view start → failed e last) :
    Ensures (program >>= next) start ok failed := by
  rw [DmaReadout.ensures_bind]
  exact (h start).mono hnext hfailed

theorem comp {δ : Type} {program : EStateM ε σ α} (h : Keeps view program) (f : γ → δ) :
    Keeps (f ∘ view) program := by
  intro start
  exact (h start).mono (fun _ _ hl => congrArg f hl) (fun _ _ hl => congrArg f hl)

theorem ite {c : Prop} [Decidable c] {program other : EStateM ε σ α}
    (h : Keeps view program) (hother : Keeps view other) :
    Keeps view (if c then program else other) := by
  split
  · exact h
  · exact hother

end Keeps

end DmaReadout
