import DmaReadout.SimulatedCard.Basic

/-!
# Control of a simulated card

What a test does to the card behind the back of the driver. None of it is a register
access: it cannot fail and is not logged.
-/

namespace DmaReadout

inductive CardControl
  /-- Completes the oldest superpages of a link, at most as many as are outstanding modulo 2^32. -/
  | complete (link : LinkId) (count : UInt32)
  /-- Completes every superpage on every link. -/
  | completeAll
  /-- Forces the completion counter of a link, even beyond what was pushed. -/
  | setArrived (link : LinkId) (count : UInt32)
  | setCompletion (completion : Completion)
  /-- Makes the next access fail. -/
  | failNext (message : String)
  | setDroppedPackets (count : UInt32)
  | clearCommands
deriving DecidableEq

namespace SimulatedCard

/-- Applies a control to the card. -/
def control (card : SimulatedCard) : CardControl → SimulatedCard
  | .complete link count =>
    card.updateCounters (.modify link fun c =>
      { c with arrived := c.arrived + min count (c.pushed - c.arrived) })
  | .completeAll =>
    card.updateCounters (.modifyAll fun c => { c with arrived := c.pushed })
  | .setArrived link count =>
    card.updateCounters (.modify link fun c => { c with arrived := count })
  | .setCompletion completion => { card with completion }
  | .failNext message => { card with failNext := some message }
  | .setDroppedPackets count => { card with droppedPackets := count }
  | .clearCommands => { card with commands := #[] }

end SimulatedCard

end DmaReadout
