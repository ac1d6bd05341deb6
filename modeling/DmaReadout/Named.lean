import DmaReadout.Text.AsciiCase

/-!
# Named values

A setting ranges over a few named values. A name is written in capitals and is read
back whatever the case of its letters.
-/

namespace DmaReadout

/-- A finite kind of values, each with a name of its own. -/
class Named (α : Type) where
  /-- What the kind is called where a name is not recognised. -/
  kind : String
  /-- Every value, in order of declaration. -/
  values : List α
  name : α → String

namespace Named

variable {α : Type} [Named α]

/-- The value whose name is `text` up to ASCII case. -/
def find? (text : String) : Option α :=
  (values : List α).find? fun value => Text.equalIgnoringCase text (name value)

end Named

end DmaReadout
