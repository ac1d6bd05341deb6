import DmaReadout.Card.DataSource
import DmaReadout.Card.GeneratorPattern
import DmaReadout.Link.Id

/-!
# Register accesses

What a channel asks of the registers of its card: commands, which write, and three reads.
-/

namespace DmaReadout

/-- A register write. -/
inductive Command
  /-- Hands the descriptor of a superpage of `pages` DMA pages to a link. -/
  | pushSuperpage (link : LinkId) (pages : UInt32) (busAddress : UInt64)
  | setDataSource (source : DataSource)
  | setGeneratorPattern (pattern : GeneratorPattern) (size : UInt64) (randomSize : Bool)
  /-- Arms or disarms the buffer; while armed, the card may write into it. -/
  | setBufferReady (ready : Bool)
  | resetGeneratorCounter
  /-- Clears the descriptor queues and the completion counters of the card. -/
  | resetCard
  /-- Resets the near end of the optical link, and the far end with `includeSiu`. -/
  | resetExternal (includeSiu : Bool)
  | setDebugMode (enabled : Bool)
  | enableDataTaking
  | disableDataTaking
  /-- Lets the data generator corrupt its next word. -/
  | injectError
deriving DecidableEq

/-- A register access. -/
inductive Access
  | write (command : Command)
  /-- Reads how many superpages the card completed on a link since its reset, modulo 2^32. -/
  | superpageCount (link : LinkId)
  | debugMode
  /-- Reads how many packets were dropped because no superpage was at hand. -/
  | droppedPackets
deriving DecidableEq

/-- What an access answers when it succeeds. -/
@[reducible]
def Access.Reply : Access → Type
  | write _ => Unit
  | superpageCount _ => UInt32
  | debugMode => Bool
  | droppedPackets => UInt32

/-- The accesses, apart from their arguments. -/
inductive Access.Kind
  | pushSuperpage
  | superpageCount
  | setDataSource
  | setGeneratorPattern
  | setBufferReady
  | resetGeneratorCounter
  | resetCard
  | resetExternal
  | setDebugMode
  | debugMode
  | enableDataTaking
  | disableDataTaking
  | droppedPackets
  | injectError
deriving DecidableEq

def Access.kind : Access → Kind
  | write (.pushSuperpage ..) => .pushSuperpage
  | write (.setDataSource _) => .setDataSource
  | write (.setGeneratorPattern ..) => .setGeneratorPattern
  | write (.setBufferReady _) => .setBufferReady
  | write .resetGeneratorCounter => .resetGeneratorCounter
  | write .resetCard => .resetCard
  | write (.resetExternal _) => .resetExternal
  | write (.setDebugMode _) => .setDebugMode
  | write .enableDataTaking => .enableDataTaking
  | write .disableDataTaking => .disableDataTaking
  | write .injectError => .injectError
  | superpageCount _ => .superpageCount
  | debugMode => .debugMode
  | droppedPackets => .droppedPackets

end DmaReadout
