import DmaReadout.Named

/-!
# Data sources
-/

namespace DmaReadout

/-- Where the card takes its data from. -/
inductive DataSource
  /-- The data generator of the card. -/
  | internal
  /-- The front-end links. -/
  | link
  | ddg
  | diu
  | siu
deriving DecidableEq

namespace DataSource

instance : Named DataSource where
  kind := "DataSource"
  values := [internal, link, ddg, diu, siu]
  name
    | internal => "INTERNAL"
    | link => "LINK"
    | ddg => "DDG"
    | diu => "DIU"
    | siu => "SIU"

instance : ToString DataSource := ⟨Named.name⟩

/-- Whether data flow in from the front end, so that data taking has to be switched on. -/
def isExternal : DataSource → Bool
  | link => true
  | _ => false

end DataSource

end DmaReadout
