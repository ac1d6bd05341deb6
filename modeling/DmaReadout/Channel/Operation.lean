import DmaReadout.Channel.Control

/-!
# Operations as data

The operations that a user performs on an open channel, so that a run of a channel is a
list of them.
-/

namespace DmaReadout

inductive Operation
  | start
  | stop
  | reset (level : ResetLevel)
  | push (superpage : Superpage)
  | fill
  | peek
  | pop
  | droppedPackets
  | injectError
deriving DecidableEq

namespace Operation

/-- What an operation gives back when it succeeds. -/
@[reducible]
def Reply : Operation → Type
  | start | stop | reset _ | push _ | fill => Unit
  | peek | pop => Superpage
  | droppedPackets => UInt32
  | injectError => Bool

variable {κ : Type}

/-- Performs an operation. -/
def run (endpoint : Endpoint κ) : (operation : Operation) → ChannelM κ operation.Reply
  | start => endpoint.start
  | stop => endpoint.stop
  | reset level => endpoint.reset level
  | push superpage => endpoint.push superpage
  | fill => endpoint.fill
  | peek => Channel.peek
  | pop => Channel.pop
  | droppedPackets => endpoint.droppedPackets
  | injectError => endpoint.injectError

end Operation

end DmaReadout
