import DmaReadout.SimulatedCard.Basic

/-!
# Scripted faults

A script in front of a card lets chosen accesses fail: of each kind of access some are
skipped, the next few fail, and the rest pass. The card does not see an access that the
script refuses.
-/

namespace DmaReadout

/-- Lets accesses of one kind fail, after some were let through. -/
structure ScriptedFault where
  kind : Access.Kind
  skip : Nat := 0
  times : Nat := 1
  fault : Fault
deriving DecidableEq

abbrev FaultScript := List ScriptedFault

namespace FaultScript

/-- Asks the faults of the script in turn whether an access fails. A fault that is still
skipping counts the access and passes it on to the next. -/
def consult (kind : Access.Kind) : FaultScript → Option Fault × FaultScript
  | [] => (none, [])
  | entry :: rest =>
    if entry.kind = kind && entry.skip = 0 && entry.times > 0 then
      (some entry.fault, { entry with times := entry.times - 1 } :: rest)
    else
      let entry :=
        if entry.kind = kind then { entry with skip := entry.skip - 1 } else entry
      let (fault?, rest) := consult kind rest
      (fault?, entry :: rest)

end FaultScript

/-- A simulated card behind a script of faults. -/
abbrev ScriptedCard := FaultScript × SimulatedCard

/-- The registers of a scripted card. -/
def ScriptedCard.registers : Registers ScriptedCard :=
  SimulatedCard.registers.guarded fun access script => script.consult access.kind

end DmaReadout
