import DmaReadout.Fault
import DmaReadout.Registers.Access

/-!
# Registers

The registers of a card are known by what each access answers and does to the card.
Nothing is assumed of them: any access may fail, and may do anything to the card.
-/

namespace DmaReadout

/-- The registers of a card whose state is a `κ`. -/
structure Registers (κ : Type) where
  perform : (access : Access) → κ → Except Fault access.Reply × κ

namespace Registers

variable {κ γ : Type}

/-- Registers behind a guard, which may refuse an access before the card sees it. -/
def guarded (refuse : Access → γ → Option Fault × γ) (registers : Registers κ) :
    Registers (γ × κ) where
  perform access state :=
    match refuse access state.1 with
    | (some fault, guard) => (.error fault, (guard, state.2))
    | (none, guard) =>
      let (reply, card) := registers.perform access state.2
      (reply, (guard, card))

/-- Registers of a card without external endpoints: it accepts an external reset and does
nothing. -/
def withoutExternalReset (registers : Registers κ) : Registers κ where
  perform
    | .write (.resetExternal _), card => (.ok (), card)
    | access, card => registers.perform access card

end Registers

end DmaReadout
