import DmaReadout.Registers.Basic
import DmaReadout.SimulatedCard.LinkCounters

/-!
# A simulated card

A card that exists in memory only. It plays the part of the firmware: it counts pushed and
completed superpages on each link, keeps what its control registers were last set to, and
logs every command. One access in advance can be made to fail; a failing access has no
other effect.
-/

namespace DmaReadout

/-- When a simulated card completes superpages. -/
inductive Completion
  /-- All that were pushed are complete at the next look. -/
  | immediate
  /-- Only on demand. -/
  | manual
deriving DecidableEq

structure SimulatedCard where
  completion : Completion := .immediate
  counters : CounterTable := {}
  /-- The commands that were obeyed, in order. -/
  commands : Array Command := #[]
  dataSource : Option DataSource := none
  /-- Whether the buffer is armed. -/
  armed : Bool := false
  debugMode : Bool := false
  dataTaking : Bool := false
  droppedPackets : UInt32 := 0
  /-- The message with which the next access fails. -/
  failNext : Option String := none
deriving DecidableEq

namespace SimulatedCard

/-- The number of descriptors pushed to a link since the last reset, modulo 2^32. -/
def pushed (card : SimulatedCard) (link : LinkId) : UInt32 :=
  (card.counters.get link).pushed

/-- The number of superpages completed on a link, as the card reports it. -/
def arrived (card : SimulatedCard) (link : LinkId) : UInt32 :=
  (card.counters.get link).arrived

def updateCounters (card : SimulatedCard) (f : CounterTable → CounterTable) : SimulatedCard :=
  { card with counters := f card.counters }

/-- What a command does, apart from being logged. -/
def obey (card : SimulatedCard) : Command → SimulatedCard
  | .pushSuperpage link _ _ =>
    card.updateCounters (.modify link fun c => { c with pushed := c.pushed + 1 })
  | .setDataSource source => { card with dataSource := some source }
  | .setBufferReady ready => { card with armed := ready }
  | .resetCard => { card with counters := {} }
  | .setDebugMode enabled => { card with debugMode := enabled }
  | .enableDataTaking => { card with dataTaking := true }
  | .disableDataTaking => { card with dataTaking := false }
  | .setGeneratorPattern .. | .resetGeneratorCounter | .resetExternal _ | .injectError => card

/-- The card after an access that succeeds. -/
def after (card : SimulatedCard) : Access → SimulatedCard
  | .write command =>
    let card := card.obey command
    { card with commands := card.commands.push command }
  | .superpageCount link =>
    match card.completion with
    | .immediate =>
      card.updateCounters (.modify link fun c => { c with arrived := c.pushed })
    | .manual => card
  | .debugMode | .droppedPackets => card

/-- What the card answers, once an access has had its effect. -/
def reply (card : SimulatedCard) : (access : Access) → access.Reply
  | .write _ => ()
  | .superpageCount link => card.arrived link
  | .debugMode => card.debugMode
  | .droppedPackets => card.droppedPackets

/-- The registers of a simulated card. -/
def registers : Registers SimulatedCard where
  perform access card :=
    match card.failNext with
    | some cause => (.error (.because cause), { card with failNext := none })
    | none =>
      let card := card.after access
      (.ok (card.reply access), card)

end SimulatedCard

end DmaReadout
