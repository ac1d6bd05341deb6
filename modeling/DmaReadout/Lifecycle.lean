/-!
# Lifecycle of a channel
-/

namespace DmaReadout

/-- Where a channel stands. Only `stopped` and `running` last longer than one operation. -/
inductive Lifecycle
  | stopped
  | starting
  | running
  | stopping
  /-- The card is being reset, on request or as a part of starting. -/
  | resetting
deriving DecidableEq

/-- The state as messages name it. -/
def Lifecycle.name : Lifecycle → String
  | stopped => "Stopped"
  | starting => "Starting"
  | running => "Running"
  | stopping => "Stopping"
  | resetting => "Resetting"

instance : ToString Lifecycle := ⟨Lifecycle.name⟩

/-- The changes of state that are timed. -/
inductive Transition
  | start
  | stop
  | reset
deriving DecidableEq

/-- The transition as metrics and messages name it. -/
def Transition.name : Transition → String
  | start => "start"
  | stop => "stop"
  | reset => "reset"

end DmaReadout
