import DmaReadout.Card.DataSource
import DmaReadout.Error

/-!
# What goes together

Card families differ in the loopback modes they support, and external resets are only
legal in some of those modes.
-/

namespace DmaReadout

/-- The data source for a loopback mode, with the data generator on or off, if the family
can do it. -/
def DataSource.resolve (family : CardFamily) (generator : Bool) (mode : LoopbackMode) :
    Except ReadoutError DataSource :=
  match family, generator, mode with
  | .dummy, _, _ => .ok .internal
  | .cru, true, .internal => .ok .internal
  | .cru, true, .ddg => .ok .link
  | .cru, false, .none => .ok .link
  | .crorc, true, .internal => .ok .internal
  | .crorc, true, .diu => .ok .diu
  | .crorc, true, .siu => .ok .siu
  | .crorc, false, .none => .ok .link
  | _, _, _ => .error (.unsupportedConfiguration (.loopback family mode generator))

/-- Refuses an external reset of a card whose link ends are in use as a loopback. Only the
single-link family has link ends to reset. -/
def ResetLevel.check (family : CardFamily) (level : ResetLevel) (mode : LoopbackMode) :
    Except ReadoutError Unit :=
  if family = .crorc && level.includesExternal then
    match level, mode with
    | _, .none | _, .siu | .internalDiu, .diu => .ok ()
    | _, _ => .error (.unsupportedConfiguration (.reset level mode))
  else .ok ()

end DmaReadout
