import DmaReadout.Channel.Transfer

/-!
# Control of a channel

Starting, stopping, resetting and closing. Starting configures the card, resets it, clears
the queues and arms the buffer; whatever fails, the channel is stopped again, and once the
buffer was armed it is disarmed.
-/

namespace DmaReadout.Endpoint

variable {κ : Type} (endpoint : Endpoint κ)

/-- Whether the card has to be in debug mode: internal loopback of the multi-link family
goes through it. -/
def needsDebugMode : Bool :=
  endpoint.parameters.family = .cru && endpoint.parameters.loopback = .internal

/-- Switches the debug mode on where it is needed and off so far. -/
def ensureDebugMode : ChannelM κ Unit := do
  if endpoint.needsDebugMode then
    unless ← endpoint.access .debugMode do
      endpoint.write (.setDebugMode true)
      modify fun channel => { channel with debugModeSet := true }

/-- Resets the card. A card without link ends is only reset internally. -/
def resetCard (level : ResetLevel) : ChannelM κ Unit := do
  if level ≠ .nothing then
    let family := endpoint.parameters.family
    if level.includesExternal && family ≠ .crorc then
      Channel.note (.noExternalReset level family)
    endpoint.ensureDebugMode
    endpoint.write .resetGeneratorCounter
    endpoint.write .resetCard
    if level.includesExternal && family = .crorc then
      endpoint.write (.resetExternal level.includesSiu)
    Channel.note (.cardReset level)

/-- Lets data in from the source, once the buffer is armed. -/
def beginDataTaking (source : DataSource) : ChannelM κ Unit := do
  endpoint.write .disableDataTaking
  if source.isExternal then
    endpoint.write .enableDataTaking

/-- Takes back the arming of the buffer: a stopped channel must not let the card write. -/
def abandonStart : ChannelM κ Unit := do
  endpoint.attempt (.setBufferReady false) .disarmAfterStartFailed
  endpoint.attempt .disableDataTaking .haltAfterStartFailed

/-- The level of the reset that is a part of starting: at least internal. -/
def startLevel : ResetLevel :=
  match endpoint.parameters.resetLevel with
  | .nothing => .internal
  | level => level

/-- The work of starting. -/
def configureAndArm : ChannelM κ Unit := do
  let parameters := endpoint.parameters
  let source ← ofExcept
    (DataSource.resolve parameters.family parameters.generatorEnabled parameters.loopback)
  if parameters.generatorEnabled then
    endpoint.write
      (.setGeneratorPattern parameters.generatorPattern parameters.dataSize
        parameters.randomSize)
  endpoint.ensureDebugMode
  endpoint.write (.setDataSource source)
  Channel.note (.dataSourceSelected source)
  Channel.setLifecycle .resetting
  endpoint.resetCard endpoint.startLevel
  Channel.setLifecycle .starting
  Channel.setPipeline (← get).pipeline.clear
  endpoint.write (.setBufferReady true)
  try
    endpoint.beginDataTaking source
  catch e =>
    endpoint.abandonStart
    throw e
  Channel.note (.started source)

/-- Starts the channel, unless it is running already. -/
def start : ChannelM κ Unit := do
  match (← get).lifecycle with
  | .stopped => Channel.transition .start .starting .running .stopped endpoint.configureAndArm
  | .running => Channel.note .alreadyStarted
  | state => throw (.invalidState Transition.start.name state)

/-- The work of stopping. -/
def disarmAndDrain : ChannelM κ Unit := do
  endpoint.write (.setBufferReady false)
  endpoint.write .disableDataTaking
  let moved ← endpoint.drain
  Channel.note (.movedOnStop moved)

/-- Stops the channel and moves what is left on the links to the ready queue. The channel
is stopped even if that fails. -/
def stop : ChannelM κ Unit := do
  match (← get).lifecycle with
  | .running => Channel.transition .stop .stopping .stopped .stopped endpoint.disarmAndDrain
  | .stopped => Channel.note .alreadyStopped
  | state => throw (.invalidState Transition.stop.name state)

/-- Resets the card of a stopped channel and leaves its queues alone. -/
def reset (level : ResetLevel) : ChannelM κ Unit := do
  if level ≠ .nothing then
    let state := (← get).lifecycle
    if state = .stopped then
      ofExcept
        (ResetLevel.check endpoint.parameters.family level endpoint.parameters.loopback)
      Channel.transition .reset .resetting .stopped .stopped (endpoint.resetCard level)
    else
      throw (.invalidState Transition.reset.name state)

/-- The number of packets that the card dropped for lack of superpages. -/
def droppedPackets : ChannelM κ UInt32 :=
  endpoint.access .droppedPackets

/-- Lets the data generator emit one corrupted word, and tells whether it can: only that
of the multi-link family does, while it is in use. -/
def injectError : ChannelM κ Bool := do
  if endpoint.parameters.family = .cru && endpoint.parameters.generatorEnabled then
    endpoint.write .injectError
    return true
  else
    return false

/-- Disarms the buffer and restores the debug mode, and reports what fails. -/
def shutDown : ChannelM κ Unit := do
  endpoint.attempt (.setBufferReady false) .disarmFailed
  let channel ← get
  let remaining := channel.pipeline.ready.length
  if remaining > 0 then
    Channel.note (.leftOnClose remaining)
  if channel.debugModeSet then
    endpoint.attempt (.setDebugMode false) .debugModeOffFailed

/-- Closes the channel. What is left of it is its card and its journal. -/
def close (channel : Channel κ) : Channel κ :=
  match endpoint.shutDown channel with
  | .ok () channel | .error _ channel => channel

end DmaReadout.Endpoint
