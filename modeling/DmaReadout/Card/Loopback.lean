import DmaReadout.Named

/-!
# Loopback modes
-/

namespace DmaReadout

/-- Where the output of the data generator is looped back. -/
inductive LoopbackMode
  /-- Nowhere: data come from the front end. -/
  | none
  /-- Inside the card. -/
  | internal
  | diu
  | siu
  /-- In the data generator block of the link. -/
  | ddg
deriving DecidableEq

namespace LoopbackMode

instance : Named LoopbackMode where
  kind := "LoopbackMode"
  values := [none, internal, diu, siu, ddg]
  name
    | none => "NONE"
    | internal => "INTERNAL"
    | diu => "DIU"
    | siu => "SIU"
    | ddg => "DDG"

instance : ToString LoopbackMode := ⟨Named.name⟩

end LoopbackMode

end DmaReadout
