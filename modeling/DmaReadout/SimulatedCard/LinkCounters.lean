import DmaReadout.Link.Id

/-!
# Counters per link

What a card counts on each link: the descriptors it was given and the superpages it
completed, modulo 2^32. A link that was never used counts nothing.
-/

namespace DmaReadout

/-- The counters of one link. -/
structure LinkCounters where
  pushed : UInt32 := 0
  arrived : UInt32 := 0
deriving DecidableEq

/-- The counters of all links of a card; a link without an entry counts nothing. -/
structure CounterTable where
  entries : List (LinkId × LinkCounters) := []
deriving DecidableEq

namespace CounterTable

/-- The counters of a link in a list of entries. -/
def getEntry (link : LinkId) : List (LinkId × LinkCounters) → LinkCounters
  | [] => {}
  | entry :: rest => if entry.1 = link then entry.2 else getEntry link rest

def get (table : CounterTable) (link : LinkId) : LinkCounters :=
  getEntry link table.entries

/-- Puts the counters of a link in the place of its earlier ones. -/
def setEntry (link : LinkId) (counters : LinkCounters) :
    List (LinkId × LinkCounters) → List (LinkId × LinkCounters)
  | [] => [(link, counters)]
  | entry :: rest =>
    if entry.1 = link then (link, counters) :: rest else entry :: setEntry link counters rest

def set (link : LinkId) (counters : LinkCounters) (table : CounterTable) : CounterTable :=
  ⟨setEntry link counters table.entries⟩

/-- Changes the counters of one link. -/
def modify (link : LinkId) (f : LinkCounters → LinkCounters) (table : CounterTable) :
    CounterTable :=
  table.set link (f (table.get link))

/-- Changes the counters of every link that was used. -/
def modifyAll (f : LinkCounters → LinkCounters) (table : CounterTable) : CounterTable :=
  ⟨table.entries.map fun (link, counters) => (link, f counters)⟩

@[simp]
theorem get_set (a b : LinkId) (counters : LinkCounters) (table : CounterTable) :
    (table.set a counters).get b = if a = b then counters else table.get b := by
  unfold get set
  induction table.entries with
  | nil => rfl
  | cons entry rest ih => grind [setEntry, getEntry]

@[simp]
theorem get_empty (link : LinkId) : (CounterTable.mk []).get link = {} := rfl

@[simp]
theorem get_modify (a b : LinkId) (f : LinkCounters → LinkCounters) (table : CounterTable) :
    (table.modify a f).get b = if a = b then f (table.get a) else table.get b :=
  get_set ..

/-- A change of all counters that leaves unused links alone is seen on every link. -/
theorem get_modifyAll (link : LinkId) {f : LinkCounters → LinkCounters} (hf : f {} = {})
    (table : CounterTable) : (table.modifyAll f).get link = f (table.get link) := by
  unfold get modifyAll
  induction table.entries with
  | nil => exact hf.symm
  | cons entry rest ih => grind [getEntry]

end CounterTable

end DmaReadout
