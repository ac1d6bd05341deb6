import DmaReadout.Channel.Control

/-!
# Many superpages at once

A producer pushes a row of superpages until one is refused, and a consumer pops until
nothing is left.
-/

namespace DmaReadout

/-- A row of superpages of one size, each a stride behind the one before, with ascending
user data. -/
structure SuperpageRow where
  offset : UInt64
  size : UInt64
  stride : UInt64
  userData : UInt64

/-- The superpage at place `n` of a row. -/
def SuperpageRow.superpage (row : SuperpageRow) (n : Nat) : Superpage where
  offset := row.offset + n.toUInt64 * row.stride
  size := row.size
  userData := row.userData + n.toUInt64

variable {κ : Type}

/-- Pushes `count` superpages of a row, from place `n` on, until one is refused. Gives the
number of those taken, and the refusal. -/
def Endpoint.pushRow (endpoint : Endpoint κ) (row : SuperpageRow) (n : Nat) :
    (count : Nat) → Channel κ → (Nat × Option ReadoutError) × Channel κ
  | 0, channel => ((0, none), channel)
  | count + 1, channel =>
    match endpoint.push (row.superpage n) channel with
    | .error e channel => ((0, some e), channel)
    | .ok () channel =>
      let ((taken, refusal), channel) := endpoint.pushRow row (n + 1) count channel
      ((taken + 1, refusal), channel)

/-- Pops until that is refused. Gives the superpages and the refusal. -/
def Channel.popAll (channel : Channel κ) : (List Superpage × ReadoutError) × Channel κ :=
  let (superpages, refusal, pipeline) := channel.pipeline.popAll
  ((superpages, refusal), { channel with pipeline })

end DmaReadout
