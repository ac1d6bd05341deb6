import DmaReadout.Proofs.Lockstep

/-!
# Maps of cards

When a map of cards goes with every access, it goes with everything that a channel does.
-/

namespace DmaReadout

open Channel (Alike)

variable {κ κ' α : Type}

def Channel.mapCard (f : κ → κ') (channel : Channel κ) : Channel κ' where
  lifecycle := channel.lifecycle
  pipeline := channel.pipeline
  debugModeSet := channel.debugModeSet
  card := f channel.card
  journal := channel.journal

/-- Both registers give the same answers, and lead from a card and its image to a card and its
image. -/
def Registers.Agree (f : κ → κ') (registers : Registers κ) (registers' : Registers κ') : Prop :=
  ∀ access card reply card', registers.perform access card = (reply, card') →
    registers'.perform access (f card) = (reply, f card')

/-- What the one program does to a channel, the other does to its image. -/
def Mirrors (f : κ → κ') (program : ChannelM κ α) (program' : ChannelM κ' α) : Prop :=
  ∀ channel, Ensures program channel
    (fun a last => program' (channel.mapCard f) = .ok a (last.mapCard f))
    (fun e last => program' (channel.mapCard f) = .error e (last.mapCard f))

lemma Channel.Alike.mapCard (f : κ → κ') (channel : Channel κ) :
    Alike (fun card card' => card' = f card) True channel (channel.mapCard f) :=
  ⟨rfl, rfl, rfl, fun _ => ⟨rfl, rfl⟩⟩

lemma Channel.Alike.eq_mapCard {f : κ → κ'} {channel : Channel κ} {channel' : Channel κ'}
    (h : Alike (fun card card' => card' = f card) True channel channel') :
    channel' = channel.mapCard f := by
  obtain ⟨lifecycle', pipeline', debugModeSet', card', journal'⟩ := channel'
  obtain ⟨rfl, rfl, rfl, htrace⟩ := h
  obtain ⟨rfl, rfl⟩ := htrace trivial
  rfl

lemma Lockstep.mirrors {f : κ → κ'} {program : ChannelM κ α} {program' : ChannelM κ' α}
    (h : Lockstep (Alike (fun card card' => card' = f card) True) program program') :
    Mirrors f program program' := by
  intro channel
  apply (h channel _ (Alike.mapCard f channel)).mono
  · rintro a last ⟨last', hlast, halike⟩
    rw [hlast, halike.eq_mapCard]
  · rintro e last ⟨last', hlast, halike⟩
    rw [hlast, halike.eq_mapCard]

namespace Registers.Agree

variable {f : κ → κ'} {registers' : Registers κ'} {endpoint : Endpoint κ}

lemma matched (h : endpoint.registers.Agree f registers') :
    endpoint.Matches (fun card card' => card' = f card) registers' := by
  rintro access - card _ rfl reply next hperform
  exact ⟨f next, h access card reply next hperform, rfl⟩

theorem run (h : endpoint.registers.Agree f registers') (operation : Operation) :
    Mirrors f (operation.run endpoint) (operation.run (endpoint.on registers')) :=
  (h.matched.run operation).mirrors

lemma shutDown (h : endpoint.registers.Agree f registers') :
    Mirrors f endpoint.shutDown (endpoint.on registers').shutDown :=
  h.matched.shutDown.mirrors

end Registers.Agree

lemma Mirrors.lastState_eq {f : κ → κ'} {program : ChannelM κ α} {program' : ChannelM κ' α}
    (h : Mirrors f program program') (channel : Channel κ) :
    lastState program' (channel.mapCard f) = (lastState program channel).mapCard f := by
  have hlast : Ensures program channel
      (fun _ last => lastState program' (channel.mapCard f) = last.mapCard f)
      (fun _ last => lastState program' (channel.mapCard f) = last.mapCard f) := by
    apply (h channel).mono
    · intro a last himage
      rw [lastState, himage]
    · intro e last himage
      rw [lastState, himage]
  exact hlast.of_lastState

lemma Mirrors.answer_eq {f : κ → κ'} {program : ChannelM κ α} {program' : ChannelM κ' α}
    (h : Mirrors f program program') (channel : Channel κ) :
    answer program' (channel.mapCard f) = answer program channel := by
  have himage := h channel
  unfold Ensures at himage
  unfold answer
  cases hrun : program channel with
  | ok a last =>
    rw [hrun] at himage
    rw [himage]
  | error e last =>
    rw [hrun] at himage
    rw [himage]

lemma Mirrors.of_error {f : κ → κ'} {program : ChannelM κ α} {program' : ChannelM κ' α}
    (h : Mirrors f program program') (channel : Channel κ) {e : ReadoutError} {last' : Channel κ'}
    (hrun : program' (channel.mapCard f) = .error e last') :
    ∃ last, program channel = .error e last ∧ last.mapCard f = last' := by
  cases hprogram : program channel with
  | ok a last =>
    have himage := (h channel).of_ok hprogram
    rw [hrun] at himage
    cases himage
  | error e' last =>
    have himage := (h channel).of_error hprogram
    rw [hrun] at himage
    cases himage
    exact ⟨last, rfl, rfl⟩

end DmaReadout
