import DmaReadout.Proofs.Conservation
import Mathlib.Data.Stream.Defs

/-!
# Counting without a bound

The queues of a channel as they would be if driver and card counted in natural numbers. The
driver counts what it took off each link, the card what it has completed there, and what has
arrived is the plain difference. The queues are lists, and a pass over the links takes from each
at once what quota, supply and room allow.
-/

namespace DmaReadout

variable {κ : Type}

/-- A card, with the true counts that the reads to come will find. -/
structure CountedCard (κ : Type) where
  card : κ
  counts : Stream' Nat

/-- One link of an ideal channel. -/
structure IdealLink where
  id : LinkId
  queue : List Superpage := []
  /-- How many superpages were taken off this link since the last clearing. -/
  moved : Nat := 0

/-- The queues of a channel, with its card. -/
structure IdealChannel (κ : Type) where
  links : List IdealLink
  ready : List Superpage
  linkCapacity : Nat
  readyCapacity : Nat
  slots : Nat
  card : CountedCard κ

/-- The errors of an ideal channel: those of a channel, but for the counts they name. -/
inductive IdealError
  | protocolViolation (link : LinkId) (hardwareCount driverCount pending : Nat)
  | plain (e : ReadoutError)
deriving DecidableEq

/-- The error with its counts reduced modulo 2^32. -/
def IdealError.wrap : IdealError → ReadoutError
  | protocolViolation link hardwareCount driverCount pending =>
    .protocolViolation link (UInt32.ofNat hardwareCount) (UInt32.ofNat driverCount) pending
  | plain e => e

/-- A read of a counter: what was taken off the link by then, what the card had completed, and
what it answered. -/
structure CounterRead where
  moved : Nat
  completed : Nat
  reply : UInt32
deriving DecidableEq

/-- The card answers with its count modulo 2^32, which is that of the driver or ahead of it by
less than 2^32. -/
def CounterRead.Fair (read : CounterRead) : Prop :=
  read.reply = UInt32.ofNat read.completed ∧ read.moved ≤ read.completed ∧
    read.completed < read.moved + UInt32.size

instance (read : CounterRead) : Decidable read.Fair :=
  inferInstanceAs (Decidable (_ ∧ _))

/-- What comes of a step: its answer, the state that it leaves, and the counters it read. -/
structure Outcome (σ α : Type) where
  answer : α
  state : σ
  reads : List CounterRead

namespace CountedCard

/-- Reads the counters of some links and gives what has arrived on each, unless that is more
than what is outstanding. -/
def poll (registers : Registers κ) :
    List IdealLink → CountedCard κ → Outcome (CountedCard κ) (Except IdealError (List Nat))
  | [], card => ⟨.ok [], card, []⟩
  | link :: links, ⟨card, counts⟩ =>
    match registers.perform (.superpageCount link.id) card with
    | (.error fault, card) => ⟨.error (.plain (.hardware fault)), ⟨card, counts⟩, []⟩
    | (.ok reply, card) =>
      let read : CounterRead := ⟨link.moved, counts.head, reply⟩
      let arrived := read.completed - read.moved
      if arrived > link.queue.length then
        ⟨.error (.protocolViolation link.id read.completed read.moved link.queue.length),
          ⟨card, counts.tail⟩, [read]⟩
      else
        let rest := poll registers links ⟨card, counts.tail⟩
        ⟨rest.answer.map (arrived :: ·), rest.state, read :: rest.reads⟩

/-- Reads the counters of some links as far as no access fails, and gives what has arrived on
each of those. -/
def readAll (registers : Registers κ) :
    List IdealLink → CountedCard κ → Outcome (CountedCard κ) (List Nat × Option Fault)
  | [], card => ⟨([], none), card, []⟩
  | link :: links, ⟨card, counts⟩ =>
    match registers.perform (.superpageCount link.id) card with
    | (.error fault, card) => ⟨([], some fault), ⟨card, counts⟩, []⟩
    | (.ok reply, card) =>
      let read : CounterRead := ⟨link.moved, counts.head, reply⟩
      let rest := readAll registers links ⟨card, counts.tail⟩
      ⟨((read.completed - read.moved) :: rest.answer.1, rest.answer.2), rest.state,
        read :: rest.reads⟩

variable {registers : Registers κ} {link : IdealLink} {links : List IdealLink} {card card' : κ}
  {counts : Stream' Nat}

lemma poll_fault {fault : Fault}
    (h : registers.perform (.superpageCount link.id) card = (.error fault, card')) :
    poll registers (link :: links) ⟨card, counts⟩ =
      ⟨.error (.plain (.hardware fault)), ⟨card', counts⟩, []⟩ := by
  rw [poll, h]

lemma poll_excess {reply : UInt32}
    (h : registers.perform (.superpageCount link.id) card = (.ok reply, card'))
    (hexcess : counts.head - link.moved > link.queue.length) :
    poll registers (link :: links) ⟨card, counts⟩ =
      ⟨.error (.protocolViolation link.id counts.head link.moved link.queue.length),
        ⟨card', counts.tail⟩, [⟨link.moved, counts.head, reply⟩]⟩ := by
  rw [poll, h]
  exact if_pos hexcess

lemma poll_next {reply : UInt32}
    (h : registers.perform (.superpageCount link.id) card = (.ok reply, card'))
    (hsome : ¬counts.head - link.moved > link.queue.length) :
    let rest := poll registers links ⟨card', counts.tail⟩
    poll registers (link :: links) ⟨card, counts⟩ =
      ⟨rest.answer.map ((counts.head - link.moved) :: ·), rest.state,
        ⟨link.moved, counts.head, reply⟩ :: rest.reads⟩ := by
  dsimp only
  rw [poll, h]
  exact if_neg hsome

lemma readAll_fault {fault : Fault}
    (h : registers.perform (.superpageCount link.id) card = (.error fault, card')) :
    readAll registers (link :: links) ⟨card, counts⟩ =
      ⟨([], some fault), ⟨card', counts⟩, []⟩ := by
  rw [readAll, h]

lemma readAll_next {reply : UInt32}
    (h : registers.perform (.superpageCount link.id) card = (.ok reply, card')) :
    let rest := readAll registers links ⟨card', counts.tail⟩
    readAll registers (link :: links) ⟨card, counts⟩ =
      ⟨((counts.head - link.moved) :: rest.answer.1, rest.answer.2), rest.state,
        ⟨link.moved, counts.head, reply⟩ :: rest.reads⟩ := by
  dsimp only
  rw [readAll, h]

end CountedCard

namespace IdealLink

/-- The link without its `count` oldest superpages, which it has counted. -/
def shed (link : IdealLink) (count : Nat) : IdealLink :=
  { link with queue := link.queue.drop count, moved := link.moved + count }

/-- The place and the value of the link with the fewest superpages, the first of several. -/
def leastLoaded : List IdealLink → Option (Nat × IdealLink)
  | [] => none
  | link :: links =>
    match leastLoaded links with
    | none => some (0, link)
    | some (place, best) =>
      if link.queue.length ≤ best.queue.length then some (0, link) else some (place + 1, best)

/-- Moves superpages off several links in turn to a ready queue of the given capacity, up to one
quota per link. Gives the links, the ready queue and the number of superpages moved. -/
def moveAll (readyCapacity : Nat) : List IdealLink → List Superpage → List Nat →
    List IdealLink × List Superpage × Nat
  | link :: links, ready, quota :: quotas =>
    let count := min quota (min link.queue.length (readyCapacity - ready.length))
    let (links, ready, moved) :=
      moveAll readyCapacity links (ready ++ (link.queue.take count).map Superpage.markReady) quotas
    (link.shed count :: links, ready, count + moved)
  | links, ready, _ => (links, ready, 0)

end IdealLink

namespace IdealChannel

variable (endpoint : Endpoint κ) (channel : IdealChannel κ)

/-- Empty queues over the given links. -/
def idle (ids : List LinkId) (linkCapacity readyCapacity : Nat) (card : CountedCard κ) :
    IdealChannel κ where
  links := ids.map fun id => { id }
  ready := []
  linkCapacity
  readyCapacity
  slots := linkCapacity * ids.length
  card

def transferCapacity : Nat :=
  channel.linkCapacity * channel.links.length

/-- Nothing has changed. -/
def refuse {α : Type} (e : ReadoutError) : Outcome (IdealChannel κ) (Except IdealError α) :=
  ⟨.error (.plain e), channel, []⟩

/-- The link for the next superpage, with its place. -/
def nextLink : Except ReadoutError (Nat × IdealLink) :=
  if channel.slots = 0 then .error .queueFull
  else
    match IdealLink.leastLoaded channel.links with
    | none => .error .queueFull
    | some (place, link) =>
      if link.queue.length = channel.linkCapacity then
        .error (.linkQueueFull link.id channel.linkCapacity)
      else .ok (place, link)

def push (superpage : Superpage) (pages : UInt32) (busAddress : UInt64) :
    Outcome (IdealChannel κ) (Except IdealError LinkId) :=
  match channel.nextLink with
  | .error e => channel.refuse e
  | .ok (place, link) =>
    let access := .write (.pushSuperpage link.id pages busAddress)
    match endpoint.registers.perform access channel.card.card with
    | (.error fault, card) =>
      { channel with card := { channel.card with card } }.refuse (.hardware fault)
    | (.ok _, card) =>
      ⟨.ok link.id,
        { channel with
          links := channel.links.set place { link with queue := link.queue ++ [superpage] }
          slots := channel.slots - 1
          card := { channel.card with card } }, []⟩

/-- Moves superpages to the ready queue, up to one quota per link. -/
def advance (quotas : List Nat) : IdealChannel κ × Nat :=
  let (links, ready, moved) :=
    IdealLink.moveAll channel.readyCapacity channel.links channel.ready quotas
  ({ channel with links, ready, slots := channel.slots + moved }, moved)

def fill : Outcome (IdealChannel κ) (Except IdealError Nat) :=
  let polled := channel.card.poll endpoint.registers channel.links
  match polled.answer with
  | .error e => ⟨.error e, { channel with card := polled.state }, polled.reads⟩
  | .ok arrivals =>
    let (channel, moved) := { channel with card := polled.state }.advance arrivals
    ⟨.ok moved, channel, polled.reads⟩

lemma reads_fill :
    (channel.fill endpoint).reads = (channel.card.poll endpoint.registers channel.links).reads := by
  unfold fill
  dsimp only
  split <;> rfl

/-- The error of a drain that leaves a superpage on a link, or a slot unaccounted for. -/
def undrained? : Option ReadoutError :=
  let keeps (link : IdealLink) : Bool :=
    link.queue.length != 0 || channel.slots != channel.transferCapacity
  (channel.links.find? keeps).map fun link =>
    .drainIncomplete link.id link.queue.length channel.slots channel.transferCapacity

def drain : Outcome (IdealChannel κ) (Except IdealError Nat) :=
  let read := channel.card.readAll endpoint.registers channel.links
  let (channel, moved) := { channel with card := read.state }.advance (read.answer.1.map (· + 1))
  match read.answer.2 with
  | some fault => ⟨.error (.plain (.hardware fault)), channel, read.reads⟩
  | none =>
    match channel.undrained? with
    | some e => ⟨.error (.plain e), channel, read.reads⟩
    | none => ⟨.ok moved, channel, read.reads⟩

lemma reads_drain :
    (channel.drain endpoint).reads =
      (channel.card.readAll endpoint.registers channel.links).reads := by
  unfold drain
  dsimp only
  split
  · rfl
  · split <;> rfl

def pop : Outcome (IdealChannel κ) (Except IdealError Superpage) :=
  match channel.ready with
  | [] => channel.refuse .queueEmpty
  | superpage :: ready => ⟨.ok superpage, { channel with ready }, []⟩

def peek : Outcome (IdealChannel κ) (Except IdealError Superpage) :=
  match channel.ready with
  | [] => channel.refuse .queueEmpty
  | superpage :: _ => ⟨.ok superpage, channel, []⟩

/-- Forgets every superpage and restarts every count. -/
def clear : IdealChannel κ :=
  { channel with
    links := channel.links.map fun link => { id := link.id }
    ready := []
    slots := channel.transferCapacity }

end IdealChannel

namespace Transfer

/-- What a transfer gives back when it succeeds. -/
@[reducible]
def Reply : Transfer → Type
  | push .. => LinkId
  | fill | drain => Nat
  | pop | peek => Superpage
  | clear => Unit

/-- Performs a transfer. -/
def run (endpoint : Endpoint κ) : (transfer : Transfer) → ChannelM κ transfer.Reply
  | push superpage pages busAddress => endpoint.submit superpage pages busAddress
  | fill => endpoint.collect
  | drain => endpoint.drain
  | pop => Channel.pop
  | peek => Channel.peek
  | clear => modify fun channel => { channel with pipeline := channel.pipeline.clear }

/-- Performs a transfer on an ideal channel. -/
def runIdeal (endpoint : Endpoint κ) (channel : IdealChannel κ) :
    (transfer : Transfer) → Outcome (IdealChannel κ) (Except IdealError transfer.Reply)
  | push superpage pages busAddress => channel.push endpoint superpage pages busAddress
  | fill => channel.fill endpoint
  | drain => channel.drain endpoint
  | pop => channel.pop
  | peek => channel.peek
  | clear => ⟨.ok (), channel.clear, []⟩

end Transfer

/-- The channel after a run of transfers. -/
def Endpoint.afterTransfers (endpoint : Endpoint κ) (channel : Channel κ)
    (transfers : List Transfer) : Channel κ :=
  transfers.foldl (fun channel transfer => lastState (transfer.run endpoint) channel) channel

namespace IdealChannel

def afterTransfers (endpoint : Endpoint κ) (channel : IdealChannel κ)
    (transfers : List Transfer) : IdealChannel κ :=
  transfers.foldl (fun channel transfer => (transfer.runIdeal endpoint channel).state) channel

/-- The counters that are read in a run of transfers. -/
def reads (endpoint : Endpoint κ) : IdealChannel κ → List Transfer → List CounterRead
  | _, [] => []
  | channel, transfer :: transfers =>
    let outcome := transfer.runIdeal endpoint channel
    outcome.reads ++ reads endpoint outcome.state transfers

lemma reads_append (endpoint : Endpoint κ) (channel : IdealChannel κ)
    (transfers others : List Transfer) :
    channel.reads endpoint (transfers ++ others) = channel.reads endpoint transfers ++
      (channel.afterTransfers endpoint transfers).reads endpoint others := by
  induction transfers generalizing channel with
  | nil => rfl
  | cons transfer transfers ih =>
    rw [List.cons_append, reads, reads, ih, List.append_assoc]
    rfl

end IdealChannel

end DmaReadout
