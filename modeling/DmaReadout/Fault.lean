/-!
# Faults of the hardware layer
-/

namespace DmaReadout

/-- Why an access to the card or its buffer failed: a chain of causes, outermost first. -/
structure Fault where
  causes : List String
deriving DecidableEq

namespace Fault

/-- A fault with a single cause. -/
def because (cause : String) : Fault := ⟨[cause]⟩

/-- The causes joined by colons. -/
def message (fault : Fault) : String :=
  ": ".intercalate fault.causes

end Fault

instance : ToString Fault := ⟨Fault.message⟩

end DmaReadout
