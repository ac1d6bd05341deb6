/-!
# Superpages

A superpage is a contiguous part of the DMA buffer. It is the unit that the card fills
and the unit whose completion the driver tracks.
-/

namespace DmaReadout

/-- A part of the DMA buffer, and what has become of it. -/
structure Superpage where
  /-- Where the superpage begins in the buffer, in bytes. -/
  offset : UInt64
  size : UInt64
  /-- The number of bytes that count as written by the card. -/
  received : UInt64 := 0
  /-- Whether the superpage counts as completed. -/
  ready : Bool := false
  /-- A value that the producer wants back; the driver never looks at it. -/
  userData : UInt64 := 0
deriving DecidableEq

/-- The superpage as it enters the ready queue: it counts as completed, and as written in full. This
goes as well for the one superpage more that a drain takes than the card has completed. -/
def Superpage.markReady (superpage : Superpage) : Superpage :=
  { superpage with received := superpage.size, ready := true }

end DmaReadout
