import DmaReadout.Card.Family
import DmaReadout.Card.ResetLevel
import DmaReadout.Card.Loopback
import DmaReadout.Fault
import DmaReadout.Lifecycle
import DmaReadout.Link.Id
import DmaReadout.Text.Hexadecimal

/-!
# Errors

Every way in which an operation can be refused or can fail, kept as its cause. The
wording stands in one place, `ReadoutError.message`, and `ReadoutError.isFatal` tells
the errors after which the bookkeeping of a channel can no longer be trusted.
-/

namespace DmaReadout

/-- Why a superpage cannot be handed to the card. -/
inductive SuperpageDefect
  | zeroSize
  /-- The size is not a whole number of DMA pages. -/
  | brokenPage
  | misaligned
  | outsideBuffer
  | tooManyPages
  /-- A defect in words. -/
  | described (text : String)
deriving DecidableEq

instance : ToString SuperpageDefect where
  toString
    | .zeroSize => "size is zero"
    | .brokenPage => "size is not a multiple of the DMA page size"
    | .misaligned => "offset is not 32-bit aligned"
    | .outsideBuffer => "superpage does not fit in the DMA buffer"
    | .tooManyPages => "too many DMA pages"
    | .described text => text

/-- What a card family cannot do. -/
inductive Unsupported
  | loopback (family : CardFamily) (mode : LoopbackMode) (generator : Bool)
  | reset (level : ResetLevel) (mode : LoopbackMode)
  /-- A limitation in words. -/
  | described (text : String)
deriving DecidableEq

instance : ToString Unsupported where
  toString
    | .loopback family mode true =>
      s!"{family} does not support loopback mode {mode} with the data generator"
    | .loopback family mode false =>
      s!"{family} does not support loopback mode {mode} without the data generator"
    | .reset level mode => s!"reset level {level} cannot be used with loopback mode {mode}"
    | .described text => text

/-- Why the value of a parameter cannot be used. -/
inductive ParameterDefect
  | zeroPageSize
  | zeroLinkCapacity
  | zeroDataSize
  | zeroReadyCapacity
  /-- No value of this kind has the name `text`. -/
  | unknownName (kind text : String)
  /-- A defect in words. -/
  | described (text : String)
deriving DecidableEq

instance : ToString ParameterDefect where
  toString
    | .zeroPageSize => "DMA page size must not be zero"
    | .zeroLinkCapacity => "link queue capacity must not be zero"
    | .zeroDataSize => "generator data size must not be zero"
    | .zeroReadyCapacity => "ready queue capacity must not be zero"
    | .unknownName kind text => s!"unknown {kind} '{text}'"
    | .described text => text

/-- The errors of a readout channel. -/
inductive ReadoutError
  /-- No transfer slot is left on any link. -/
  | queueFull
  /-- The least loaded link had no room although a slot was counted free. -/
  | linkQueueFull (link : LinkId) (capacity : Nat)
  /-- No completed superpage is waiting. -/
  | queueEmpty
  | unsupportedConfiguration (what : Unsupported)
  /-- The card counted more completions on a link than superpages were outstanding. -/
  | protocolViolation (link : LinkId) (hardwareCount driverCount : UInt32) (pending : Nat)
  /-- Superpages were left on a link, or slots unaccounted for, after stopping. -/
  | drainIncomplete (link : LinkId) (remaining slotsAvailable capacity : Nat)
  | invalidSuperpage (offset size : UInt64) (defect : SuperpageDefect)
  | invalidLinkId (link maximum : UInt32)
  | invalidChannel (channel : UInt32) (family : CardFamily)
  /-- The operation is not allowed in this state. -/
  | invalidState (operation : String) (state : Lifecycle)
  | invalidParameter (defect : ParameterDefect)
  /-- An access to the card or its buffer failed. -/
  | hardware (fault : Fault)
  /-- Any other error, in words. -/
  | other (text : String)
deriving DecidableEq

namespace ReadoutError

/-- The wording of an error. -/
def message : ReadoutError → String
  | queueFull => "Could not push superpage, transfer queue was full"
  | linkQueueFull link capacity =>
    s!"Could not push superpage, queue of link {link} was full (capacity {capacity})"
  | queueEmpty => "Ready queue was empty"
  | unsupportedConfiguration what => s!"Unsupported configuration: {what}"
  | protocolViolation link hardwareCount driverCount pending =>
    s!"Firmware reported more superpages available ({hardwareCount - driverCount}) " ++
    s!"than present in the queue of link {link} ({pending}); " ++
    s!"driver received {driverCount}, firmware counted {hardwareCount}"
  | drainIncomplete link remaining slotsAvailable capacity =>
    s!"Queues did not drain on stop: {remaining} superpage(s) left on link {link}, " ++
    s!"{slotsAvailable} of {capacity} transfer slots available"
  | invalidSuperpage offset size defect =>
    s!"Invalid superpage (offset {Text.hexadecimal offset.toNat}, " ++
    s!"size {Text.hexadecimal size.toNat}): {defect}"
  | invalidLinkId link maximum => s!"Link id {link} not supported, maximum is {maximum}"
  | invalidChannel channel family => s!"Channel {channel} not supported by {family} card"
  | invalidState operation state => s!"Cannot {operation} while channel is {state}"
  | invalidParameter defect => s!"Invalid parameter: {defect}"
  | hardware fault => s!"Hardware access failed: {fault}"
  | other text => text

/-- Whether the driver and the card may disagree from now on. -/
def isFatal : ReadoutError → Bool
  | linkQueueFull .. | protocolViolation .. | drainIncomplete .. | hardware _ => true
  | queueFull | queueEmpty | unsupportedConfiguration _ | invalidSuperpage ..
  | invalidLinkId .. | invalidChannel .. | invalidState .. | invalidParameter _
  | other _ => false

end ReadoutError

end DmaReadout
