import DmaReadout.Card.DataSource
import DmaReadout.Card.GeneratorPattern
import DmaReadout.Error

/-!
# Log records

What a channel reports about its work. A record is kept as the event it reports;
`LogRecord.render` gives its line.
-/

namespace DmaReadout

/-- The weight of a log record. -/
inductive Severity
  | debug
  | info
  | warning
  | error
deriving DecidableEq

instance : ToString Severity where
  toString
    | .debug => "DEBUG"
    | .info => "INFO"
    | .warning => "WARN"
    | .error => "ERROR"

/-- An event worth a line in the log. -/
inductive LogRecord
  | unusualPageSize (pageSize : UInt64)
  | linksEnabled (family : CardFamily) (channel : UInt32) (links : List LinkId)
  | generatorEnabled (pattern : GeneratorPattern) (mode : LoopbackMode) (dataSize : UInt64)
  | generatorDisabled (mode : LoopbackMode)
  | dataSourceSelected (source : DataSource)
  | started (source : DataSource)
  | alreadyStarted
  | alreadyStopped
  | movedOnStop (moved : Nat)
  | leftOnClose (remaining : Nat)
  /-- The card has no link ends, so that an external reset is an internal one. -/
  | noExternalReset (level : ResetLevel) (family : CardFamily)
  | cardReset (level : ResetLevel)
  | excessArrivals (link : LinkId) (hardwareCount driverCount : UInt32) (pending : Nat)
  | excessOnDrain (link : LinkId) (arrived : UInt32) (pending : Nat)
  | disarmAfterStartFailed (fault : Fault)
  | haltAfterStartFailed (fault : Fault)
  | disarmFailed (fault : Fault)
  | debugModeOffFailed (fault : Fault)
deriving DecidableEq

namespace LogRecord

def severity : LogRecord → Severity
  | dataSourceSelected _ | cardReset _ => .debug
  | linksEnabled .. | generatorEnabled .. | generatorDisabled _ | started _ | alreadyStarted
  | alreadyStopped | movedOnStop _ | leftOnClose _ => .info
  | unusualPageSize _ | noExternalReset .. | excessOnDrain .. => .warning
  | excessArrivals .. | disarmAfterStartFailed _ | haltAfterStartFailed _ | disarmFailed _
  | debugModeOffFailed _ => .error

/-- The text of a record, followed by its fields. -/
def text : LogRecord → String
  | unusualPageSize pageSize =>
    s!"DMA page size not default; behaviour undefined dma_page_size={pageSize}"
  | linksEnabled family channel links =>
    let shown := ", ".intercalate (links.map toString)
    s!"Enabled link(s) card={family} channel={channel} links=[{shown}]"
  | generatorEnabled pattern mode dataSize =>
    s!"Data generator enabled pattern={pattern} loopback={mode} data_size={dataSize}"
  | generatorDisabled mode => s!"Data generator disabled loopback={mode}"
  | dataSourceSelected source => s!"Data source selected source={source}"
  | started source => s!"DMA started source={source}"
  | alreadyStarted => "DMA was already started"
  | alreadyStopped => "DMA was already stopped"
  | movedOnStop moved => s!"Moved superpages to ready queue on stop moved={moved}"
  | leftOnClose remaining =>
    s!"Superpages left in ready queue on close remaining={remaining}"
  | noExternalReset level family =>
    s!"Card has no DIU/SIU, performing internal reset only level={level} card={family}"
  | cardReset level => s!"Card reset level={level}"
  | excessArrivals link hardwareCount driverCount pending =>
    s!"Firmware reported more superpages available ({hardwareCount - driverCount}) " ++
    s!"than present in the link queue ({pending}) link={link} " ++
    s!"hardware_count={hardwareCount} driver_count={driverCount} pending={pending}"
  | excessOnDrain link arrived pending =>
    "Firmware reported more superpages than pending while draining " ++
    s!"link={link} arrived={arrived} pending={pending}"
  | disarmAfterStartFailed fault =>
    s!"Failed to disarm DMA buffer after failed start error={fault}"
  | haltAfterStartFailed fault =>
    s!"Failed to disable data taking after failed start error={fault}"
  | disarmFailed fault => s!"Failed to disarm DMA buffer error={fault}"
  | debugModeOffFailed fault => s!"Failed to disable debug mode error={fault}"

/-- The line of a record in the log. -/
def render (record : LogRecord) : String :=
  s!"{record.severity} {record.text}"

end LogRecord

end DmaReadout
