import DmaReadout.Named

/-!
# Patterns of the data generator
-/

namespace DmaReadout

/-- What the data generator writes. -/
inductive GeneratorPattern
  | incremental
  | alternating
  | constant
  | random
deriving DecidableEq

namespace GeneratorPattern

instance : Named GeneratorPattern where
  kind := "GeneratorPattern"
  values := [incremental, alternating, constant, random]
  name
    | incremental => "INCREMENTAL"
    | alternating => "ALTERNATING"
    | constant => "CONSTANT"
    | random => "RANDOM"

instance : ToString GeneratorPattern := ⟨Named.name⟩

end GeneratorPattern

end DmaReadout
