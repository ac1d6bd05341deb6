import DmaReadout.Fault
import DmaReadout.Text.Hexadecimal
import DmaReadout.Word

/-!
# DMA buffers
-/

namespace DmaReadout

/-- A buffer that the card writes into: its size in bytes, and the address under which the
card reaches an offset. -/
structure Buffer where
  size : UInt64
  busAddress : UInt64 → Except Fault UInt64

/-- A buffer mapped without gaps from `base` on. -/
structure LinearBuffer where
  size : UInt64
  base : UInt64 := 0x100000000
deriving DecidableEq

namespace LinearBuffer

/-- The base plus the offset, for offsets within the buffer. -/
def busAddress (buffer : LinearBuffer) (offset : UInt64) : Except Fault UInt64 :=
  let shown := Text.hexadecimal offset.toNat
  if offset ≥ buffer.size then
    .error (.because
      s!"offset {shown} outside of DMA buffer of {Text.hexadecimal buffer.size.toNat} bytes")
  else
    match Word.add? buffer.base offset with
    | none => .error (.because s!"bus address of offset {shown} overflows")
    | some address => .ok address

def toBuffer (buffer : LinearBuffer) : Buffer where
  size := buffer.size
  busAddress := buffer.busAddress

end LinearBuffer

end DmaReadout
