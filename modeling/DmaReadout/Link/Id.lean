/-!
# Link numbers
-/

namespace DmaReadout

/-- The number of a link within a card. -/
structure LinkId where
  val : UInt32
deriving DecidableEq

instance : LT LinkId := ⟨fun a b => a.val < b.val⟩

instance (a b : LinkId) : Decidable (a < b) :=
  inferInstanceAs (Decidable (a.val < b.val))

instance : ToString LinkId := ⟨fun link => toString link.val⟩

end DmaReadout
