import DmaReadout.Card.Family
import DmaReadout.Card.GeneratorPattern
import DmaReadout.Card.Loopback
import DmaReadout.Card.ResetLevel
import DmaReadout.Parameters.LinkMask

/-!
# Channel parameters

Everything that has to be known to open a channel, with the defaults of a card family.
Sizes and capacities that were never set follow from other parameters. The settle times are
for whoever drives real registers: a register access here has no duration.
-/

namespace DmaReadout

/-- The configuration of a channel. -/
structure Parameters where
  family : CardFamily := .dummy
  channel : UInt32 := 0
  /-- The links to enable; none means the first link. -/
  links : LinkMask := .empty
  /-- The size of a DMA page, in bytes. -/
  pageSize : UInt64 := 8192
  generatorEnabled : Bool := true
  generatorPattern : GeneratorPattern := .incremental
  /-- The number of bytes that the generator writes into a page, if it was set. -/
  dataSize? : Option UInt64 := none
  randomSize : Bool := false
  loopback : LoopbackMode := .internal
  /-- How deep the reset at the start goes. -/
  resetLevel : ResetLevel := .internal
  /-- The number of superpages that fit on one link, if it was set. -/
  linkCapacity? : Option Nat := none
  /-- The number of completed superpages that may wait, if it was set. -/
  readyCapacity? : Option Nat := none
  /-- The wait after each reset command, in milliseconds. -/
  resetSettle : Nat := 100
  /-- The wait after arming the buffer, in milliseconds. -/
  armSettle : Nat := 10
deriving DecidableEq

namespace Parameters

/-- The page size that cards are known to work with. -/
def defaultPageSize : UInt64 := 8192

/-- Superpages begin at multiples of this many bytes. -/
def offsetAlignment : UInt64 := 4

/-- The number of bytes that the generator writes into a page: a full page by default. -/
def dataSize (parameters : Parameters) : UInt64 :=
  parameters.dataSize?.getD parameters.pageSize

/-- The number of superpages that fit on one link: what the family holds by default. -/
def linkCapacity (parameters : Parameters) : Nat :=
  parameters.linkCapacity?.getD parameters.family.linkCapacity

/-- The number of completed superpages that may wait: by default as many as fit on the
enabled links. -/
def readyCapacity (parameters : Parameters) (linkCount : Nat) : Nat :=
  parameters.readyCapacity?.getD (parameters.linkCapacity * linkCount)

end Parameters

end DmaReadout
