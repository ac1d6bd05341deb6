import DmaReadout.Channel.Basic

/-!
# Transfers

Superpages on their way through a channel: handed to the card, seen complete, taken by the
consumer. The card is always asked before the queues change, so that a fault leaves them
alone.
-/

namespace DmaReadout

namespace Channel

variable {κ : Type}

/-- Moves superpages to the ready queue, up to one quota per link, and gives their
number. -/
def advance (quotas : List Nat) : ChannelM κ Nat := do
  let (pipeline, moves) ← ofExcept ((← get).pipeline.advance quotas)
  modify fun channel =>
    { channel with pipeline, journal := channel.journal.countMoves moves }
  return Link.totalMoved moves

/-- The oldest completed superpage. -/
def peek : ChannelM κ Superpage := do
  ofExcept (← get).pipeline.peek

/-- Takes the oldest completed superpage. -/
def pop : ChannelM κ Superpage := do
  let (superpage, pipeline) ← ofExcept (← get).pipeline.pop
  setPipeline pipeline
  return superpage

end Channel

namespace Endpoint

variable {κ : Type} (endpoint : Endpoint κ)

/-- The size of a superpage in DMA pages and its bus address, if it is a whole number of
pages, begins at an aligned offset and lies in the buffer. -/
def checkSuperpage (superpage : Superpage) : Except ReadoutError (UInt32 × UInt64) :=
  let invalid (defect : SuperpageDefect) : Except ReadoutError (UInt32 × UInt64) :=
    .error (.invalidSuperpage superpage.offset superpage.size defect)
  let pageSize := endpoint.parameters.pageSize
  if superpage.size = 0 then invalid .zeroSize
  else if superpage.size % pageSize ≠ 0 then invalid .brokenPage
  else if superpage.offset % Parameters.offsetAlignment ≠ 0 then invalid .misaligned
  else
    match Word.add? superpage.offset superpage.size with
    | none => invalid .outsideBuffer
    | some stop =>
      if stop > endpoint.buffer.size then invalid .outsideBuffer
      else
        match Word.narrow? (superpage.size / pageSize) with
        | none => invalid .tooManyPages
        | some pages =>
          match endpoint.buffer.busAddress superpage.offset with
          | .error fault => .error (.hardware fault)
          | .ok busAddress => .ok (pages, busAddress)

/-- Hands the descriptor of a superpage to the card, for the least loaded link, and queues
the superpage there. -/
def submit (superpage : Superpage) (pages : UInt32) (busAddress : UInt64) :
    ChannelM κ LinkId := do
  let (place, link) ← ofExcept (← get).pipeline.nextLink
  endpoint.write (.pushSuperpage link.id pages busAddress)
  Channel.setPipeline (← ofExcept ((← get).pipeline.enqueue place link superpage))
  Channel.count (.superpagePushed link.id)
  return link.id

/-- Hands a superpage to the card. A full channel refuses before it looks at the
superpage. -/
def push (superpage : Superpage) : ChannelM κ Unit := do
  let channel ← get
  if channel.lifecycle = .running then
    ofExcept channel.pipeline.checkCapacity
    let (pages, busAddress) ← ofExcept (endpoint.checkSuperpage superpage)
    discard (endpoint.submit superpage pages busAddress)
  else
    throw (.invalidState "push" channel.lifecycle)

/-- Reads the counters of some links and gives what has arrived on each. A count beyond
what is outstanding violates the protocol. -/
def pollArrivals : List Link → ChannelM κ (List Nat)
  | [] => return []
  | link :: links => do
    let hardwareCount ← endpoint.access (.superpageCount link.id)
    let arrived := (link.arrivals hardwareCount).toNat
    if arrived > link.pending then
      Channel.note (.excessArrivals link.id hardwareCount link.counter link.pending)
      Channel.count (.protocolViolation link.id)
      throw (.protocolViolation link.id hardwareCount link.counter link.pending)
    else
      return arrived :: (← pollArrivals links)

/-- Polls every link once, and then moves what has arrived to the ready queue as far as
there is room. -/
def collect : ChannelM κ Nat := do
  let arrivals ← endpoint.pollArrivals (← get).pipeline.links
  Channel.advance arrivals

/-- Moves completed superpages to the ready queue. Does nothing unless the channel is
running. -/
def fill : ChannelM κ Unit := do
  if (← get).lifecycle = .running then
    discard endpoint.collect

/-- Reads the counters of some links as far as no access fails, and gives what has arrived
on each with the fault that ended the reading. -/
def readArrivals : List Link → ChannelM κ (List Nat × Option Fault)
  | [] => return ([], none)
  | link :: links => do
    match ← endpoint.perform (.superpageCount link.id) with
    | .error fault => return ([], some fault)
    | .ok hardwareCount =>
      let arrived := link.arrivals hardwareCount
      if arrived.toNat > link.pending then
        Channel.note (.excessOnDrain link.id arrived link.pending)
      let (arrivals, fault?) ← readArrivals links
      return (arrived.toNat :: arrivals, fault?)

/-- The last pass after the card stopped writing: moves what has arrived, and one more
superpage of each link, which may have been under way, to the ready queue. Then no link
should keep any. -/
def drain : ChannelM κ Nat := do
  let (arrivals, fault?) ← endpoint.readArrivals (← get).pipeline.links
  let moved ← Channel.advance (arrivals.map (· + 1))
  match fault? with
  | some fault => throw (.hardware fault)
  | none =>
    ofExcept (← get).pipeline.checkDrained
    return moved

end Endpoint

end DmaReadout
