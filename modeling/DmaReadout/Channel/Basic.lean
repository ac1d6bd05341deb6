import DmaReadout.Buffer
import DmaReadout.Journal.Basic
import DmaReadout.Parameters.Compatibility
import DmaReadout.Parameters.Validation
import DmaReadout.Pipeline
import DmaReadout.Registers.Basic

/-!
# Channels

An endpoint is what a channel is opened on: parameters, the registers of a card and a
buffer. They stay the same while the channel is open. The channel itself is what changes:
its place in the lifecycle, its queues, its card and its journal.

Operations run in `ChannelM`, where an error leaves the channel as it was at the error.
-/

namespace DmaReadout

/-- What a channel is opened on. -/
structure Endpoint (κ : Type) where
  parameters : Parameters
  registers : Registers κ
  buffer : Buffer

/-- An open channel on a card whose state is a `κ`. -/
structure Channel (κ : Type) where
  lifecycle : Lifecycle
  pipeline : Pipeline
  /-- Whether this channel switched the debug mode on, and has to switch it off. -/
  debugModeSet : Bool
  card : κ
  journal : Journal

/-- Operations on a channel. -/
abbrev ChannelM (κ : Type) := EStateM ReadoutError (Channel κ)

namespace Channel

variable {κ : Type}

/-- Adds a record to the log. -/
def note (record : LogRecord) : ChannelM κ Unit :=
  modify fun channel => { channel with journal := channel.journal.note record }

def count (metric : Metric) : ChannelM κ Unit :=
  modify fun channel => { channel with journal := channel.journal.count metric }

def setLifecycle (lifecycle : Lifecycle) : ChannelM κ Unit :=
  modify fun channel => { channel with lifecycle }

def setPipeline (pipeline : Pipeline) : ChannelM κ Unit :=
  modify fun channel => { channel with pipeline }

/-- Runs a timed transition: the channel is in the state `during` meanwhile, and in the
state `after` or `failed` at the end. -/
def transition (kind : Transition) (during after failed : Lifecycle)
    (action : ChannelM κ Unit) : ChannelM κ Unit := fun channel =>
  let finish (lifecycle : Lifecycle) (channel : Channel κ) : Channel κ :=
    { channel with lifecycle, journal := channel.journal.count (.transition kind) }
  match action { channel with lifecycle := during } with
  | .ok () channel => .ok () (finish after channel)
  | .error e channel => .error e (finish failed channel)

end Channel

namespace Endpoint

variable {κ : Type}

/-- Performs a register access and gives its answer, be it a fault. -/
def perform (endpoint : Endpoint κ) (access : Access) :
    ChannelM κ (Except Fault access.Reply) := fun channel =>
  let (reply, card) := endpoint.registers.perform access channel.card
  .ok reply { channel with card }

/-- Performs a register access; a fault is an error. -/
def access (endpoint : Endpoint κ) (access : Access) : ChannelM κ access.Reply := do
  match ← endpoint.perform access with
  | .ok reply => return reply
  | .error fault => throw (.hardware fault)

def write (endpoint : Endpoint κ) (command : Command) : ChannelM κ Unit :=
  endpoint.access (.write command)

/-- Performs a register write; a fault is only reported. -/
def attempt (endpoint : Endpoint κ) (command : Command) (failed : Fault → LogRecord) :
    ChannelM κ Unit := do
  match ← endpoint.perform (.write command) with
  | .ok () => return ()
  | .error fault => Channel.note (failed fault)

/-- The records about the parameters of a channel that is being opened. -/
def openingRecords (parameters : Parameters) (links : List LinkId) : List LogRecord :=
  let pageSize :=
    if parameters.pageSize = Parameters.defaultPageSize then []
    else [.unusualPageSize parameters.pageSize]
  let generator :=
    if parameters.generatorEnabled then
      .generatorEnabled parameters.generatorPattern parameters.loopback parameters.dataSize
    else .generatorDisabled parameters.loopback
  pageSize ++ [.linksEnabled parameters.family parameters.channel links, generator]

/-- Opens a channel, unless its parameters cannot be used. No register is accessed before
the channel is started. -/
def openChannel (endpoint : Endpoint κ) (card : κ) : Except ReadoutError (Channel κ) :=
  let parameters := endpoint.parameters
  match parameters.validate with
  | .error e => .error e
  | .ok links =>
    match ResetLevel.check parameters.family parameters.resetLevel parameters.loopback with
    | .error e => .error e
    | .ok () =>
      .ok {
        lifecycle := .stopped
        pipeline :=
          .idle links parameters.linkCapacity (parameters.readyCapacity links.length)
        debugModeSet := false
        card
        journal := { records := (openingRecords parameters links).toArray } }

end Endpoint

end DmaReadout
