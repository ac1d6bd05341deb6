import DmaReadout.Named

/-!
# Reset levels
-/

namespace DmaReadout

/-- How far a reset reaches, from the card towards the far end of its optical link. -/
inductive ResetLevel
  | nothing
  | internal
  /-- The card and the near end of the optical link, its DIU. -/
  | internalDiu
  /-- The card and both ends of the optical link, DIU and SIU. -/
  | internalDiuSiu
deriving DecidableEq

namespace ResetLevel

instance : Named ResetLevel where
  kind := "ResetLevel"
  values := [nothing, internal, internalDiu, internalDiuSiu]
  name
    | nothing => "NOTHING"
    | internal => "INTERNAL"
    | internalDiu => "INTERNAL_DIU"
    | internalDiuSiu => "INTERNAL_DIU_SIU"

instance : ToString ResetLevel := ⟨Named.name⟩

/-- Whether the reset leaves the card. -/
def includesExternal : ResetLevel → Bool
  | internalDiu | internalDiuSiu => true
  | nothing | internal => false

/-- Whether the reset reaches the far end of the optical link. -/
def includesSiu : ResetLevel → Bool
  | internalDiuSiu => true
  | _ => false

end ResetLevel

end DmaReadout
