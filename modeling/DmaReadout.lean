import DmaReadout.Buffer
import DmaReadout.Card.DataSource
import DmaReadout.Card.Family
import DmaReadout.Card.GeneratorPattern
import DmaReadout.Card.Loopback
import DmaReadout.Card.ResetLevel
import DmaReadout.Channel.Basic
import DmaReadout.Channel.Batch
import DmaReadout.Channel.Control
import DmaReadout.Channel.Operation
import DmaReadout.Channel.Transfer
import DmaReadout.Error
import DmaReadout.Fault
import DmaReadout.Journal.Basic
import DmaReadout.Journal.Metric
import DmaReadout.Journal.Record
import DmaReadout.Lifecycle
import DmaReadout.Link.Basic
import DmaReadout.Link.Id
import DmaReadout.Named
import DmaReadout.Named.Parse
import DmaReadout.Parameters.Basic
import DmaReadout.Parameters.Compatibility
import DmaReadout.Parameters.LinkMask
import DmaReadout.Parameters.Validation
import DmaReadout.Pipeline
import DmaReadout.Proofs.AccessHistory
import DmaReadout.Proofs.AccessKinds
import DmaReadout.Proofs.AccessPlans
import DmaReadout.Proofs.Accesses
import DmaReadout.Proofs.BackendSessions
import DmaReadout.Proofs.BackendUnobservable
import DmaReadout.Proofs.Backpressure
import DmaReadout.Proofs.BoundedFifo
import DmaReadout.Proofs.CardMaps
import DmaReadout.Proofs.CardSettings
import DmaReadout.Proofs.CommandLog
import DmaReadout.Proofs.CompletionTotals
import DmaReadout.Proofs.Conservation
import DmaReadout.Proofs.CountedCalls
import DmaReadout.Proofs.CountedEvents
import DmaReadout.Proofs.CounterAgreement
import DmaReadout.Proofs.CounterReads
import DmaReadout.Proofs.CounterRefinement
import DmaReadout.Proofs.Coupling
import DmaReadout.Proofs.Dealing
import DmaReadout.Proofs.DebugModeRestored
import DmaReadout.Proofs.DescriptorSafety
import DmaReadout.Proofs.DrainDiagnosis
import DmaReadout.Proofs.DrainOutcome
import DmaReadout.Proofs.Ensures
import DmaReadout.Proofs.FreeSlots
import DmaReadout.Proofs.IdealCounts
import DmaReadout.Proofs.LeastLoaded
import DmaReadout.Proofs.LifecycleRules
import DmaReadout.Proofs.LinkMoves
import DmaReadout.Proofs.Lockstep
import DmaReadout.Proofs.LogReplay
import DmaReadout.Proofs.MetricTotals
import DmaReadout.Proofs.MetricsAccounted
import DmaReadout.Proofs.NameParsing
import DmaReadout.Proofs.OpeningChecks
import DmaReadout.Proofs.Operations
import DmaReadout.Proofs.PipelineUpdates
import DmaReadout.Proofs.PollChecks
import DmaReadout.Proofs.PushOutcome
import DmaReadout.Proofs.RecoverableErrors
import DmaReadout.Proofs.Requirements
import DmaReadout.Proofs.ResetCommands
import DmaReadout.Proofs.ResetOrder
import DmaReadout.Proofs.Restart
import DmaReadout.Proofs.Routines
import DmaReadout.Proofs.RunningConfiguration
import DmaReadout.Proofs.Runs
import DmaReadout.Proofs.Shares
import DmaReadout.Proofs.SimulatedAccesses
import DmaReadout.Proofs.SimulatedCalls
import DmaReadout.Proofs.SimulatedRuns
import DmaReadout.Proofs.SlotAccounting
import DmaReadout.Proofs.StartCommands
import DmaReadout.Proofs.StartCourse
import DmaReadout.Proofs.StartPlans
import DmaReadout.Proofs.StartQueues
import DmaReadout.Proofs.SwitchedOff
import DmaReadout.Proofs.Switches
import DmaReadout.Proofs.Transfers
import DmaReadout.Proofs.Turns
import DmaReadout.Proofs.UserData
import DmaReadout.Proofs.ValidSuperpages
import DmaReadout.Proofs.WrappedCounters
import DmaReadout.Queue.Bounded
import DmaReadout.Queue.RingBuffer
import DmaReadout.Registers.Access
import DmaReadout.Registers.Basic
import DmaReadout.Registers.Holding
import DmaReadout.SimulatedCard.Basic
import DmaReadout.SimulatedCard.Control
import DmaReadout.SimulatedCard.FaultScript
import DmaReadout.SimulatedCard.LinkCounters
import DmaReadout.Superpage
import DmaReadout.Text.AsciiCase
import DmaReadout.Text.Hexadecimal
import DmaReadout.Word
