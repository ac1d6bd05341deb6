import DmaReadout.Error
import DmaReadout.Named

/-!
# Reading names
-/

namespace DmaReadout.Named

variable {α : Type} [Named α]

/-- Reads a name up to ASCII case. -/
def parse (text : String) : Except ReadoutError α :=
  match find? text with
  | some value => .ok value
  | none => .error (.invalidParameter (.unknownName (kind α) text))

end DmaReadout.Named
