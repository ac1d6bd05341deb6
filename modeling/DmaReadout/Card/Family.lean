import DmaReadout.Named

/-!
# Card families

What a family of cards fixes for every channel on it: the number of links, the channel
numbers, and the depth of a link's descriptor queue.
-/

namespace DmaReadout

/-- The families of readout cards. -/
inductive CardFamily
  /-- One channel with up to 24 links. -/
  | cru
  /-- Six channels with one link each. -/
  | crorc
  /-- A card simulated in software. -/
  | dummy
deriving DecidableEq

namespace CardFamily

instance : Named CardFamily where
  kind := "CardType"
  values := [cru, crorc, dummy]
  name
    | cru => "CRU"
    | crorc => "CRORC"
    | dummy => "DUMMY"

instance : ToString CardFamily := ⟨Named.name⟩

/-- The number of links that the family addresses. -/
def maxLinks : CardFamily → UInt32
  | cru | dummy => 24
  | crorc => 1

/-- Whether pushing a superpage involves choosing a link. -/
def isMultiLink (family : CardFamily) : Bool :=
  family.maxLinks > 1

/-- The highest channel number; the lowest is 0. -/
def lastChannel : CardFamily → UInt32
  | cru => 0
  | crorc => 5
  | dummy => 7

/-- The number of superpage descriptors that one link of the firmware holds. -/
def linkCapacity : CardFamily → Nat
  | cru | crorc => 128
  | dummy => 16

end CardFamily

end DmaReadout
