import HopTrace.Address
import HopTrace.Address.HostName
import HopTrace.Address.Text
import HopTrace.CommandLine.Arguments
import HopTrace.CommandLine.Help
import HopTrace.CommandLine.Option
import HopTrace.Config.Destination
import HopTrace.Config.FieldPattern
import HopTrace.Config.File
import HopTrace.Config.Layers
import HopTrace.Config.LogFilter
import HopTrace.Config.Search
import HopTrace.Config.Settings
import HopTrace.Drain
import HopTrace.Engine
import HopTrace.Errno
import HopTrace.Event
import HopTrace.Failure
import HopTrace.Family
import HopTrace.Header
import HopTrace.History
import HopTrace.Host
import HopTrace.Instant
import HopTrace.Journal
import HopTrace.Kernel
import HopTrace.Main
import HopTrace.Names
import HopTrace.Network
import HopTrace.Notification
import HopTrace.Offline
import HopTrace.Payload
import HopTrace.Probe
import HopTrace.Program
import HopTrace.Proofs.Decoding
import HopTrace.Proofs.Evaluation
import HopTrace.Proofs.Execution
import HopTrace.Proofs.Header
import HopTrace.Proofs.HeaderTime
import HopTrace.Proofs.HonestPath
import HopTrace.Proofs.HopCounts
import HopTrace.Proofs.Invariant
import HopTrace.Proofs.Path
import HopTrace.Proofs.PathProbe
import HopTrace.Proofs.ProbeBudget
import HopTrace.Proofs.Simulation
import HopTrace.Proofs.Transcript
import HopTrace.Report
import HopTrace.Run
import HopTrace.Session
import HopTrace.Simulation.Files
import HopTrace.Simulation.Kernel
import HopTrace.Simulation.Names
import HopTrace.Simulation.Network
import HopTrace.Simulation.Socket
import HopTrace.Socket
import HopTrace.Text.Alphanumeric
import HopTrace.Text.Binary64
import HopTrace.Text.Blank
import HopTrace.Text.Column
import HopTrace.Text.ControlSequence
import HopTrace.Text.Decimal
import HopTrace.Text.Hex
import HopTrace.Text.Printable
import HopTrace.Text.Quoted
import HopTrace.Toml.Cursor
import HopTrace.Toml.Decode
import HopTrace.Toml.Document
import HopTrace.Toml.Node
import HopTrace.Toml.Number
import HopTrace.Toml.Text
import HopTrace.Trace
import HopTrace.Tracer
import HopTrace.Proofs.Headroom
import HopTrace.Proofs.Summary
import HopTrace.Proofs.Calls
import HopTrace.Proofs.Correlation
import HopTrace.Proofs.Climb
import HopTrace.Proofs.SystemTranscript
import HopTrace.Proofs.WireConformance
import HopTrace.Proofs.PayloadLengths
import HopTrace.Proofs.ProbePorts
import HopTrace.Proofs.PortShift
import HopTrace.Proofs.Lookups
import HopTrace.Proofs.Bystanders
import HopTrace.Proofs.AttemptBudget
import HopTrace.Proofs.ErrorQueue
import HopTrace.Proofs.Reordering
import HopTrace.Proofs.Upkeep
import HopTrace.Proofs.Interruptions
import HopTrace.Proofs.ReadFailures
import HopTrace.Proofs.HeaderBytes
import HopTrace.Proofs.Attribution
import HopTrace.Proofs.Conversation
import HopTrace.Proofs.ProbeProtocol
import HopTrace.Proofs.SlotUse
import HopTrace.Proofs.PayloadBuffer
import HopTrace.Proofs.QueueMessages
import HopTrace.Proofs.DestinationSyntax
import HopTrace.Proofs.ProgramName
import HopTrace.Proofs.Layering
import HopTrace.Proofs.ConfigSearch
import HopTrace.Proofs.ReverseLookups
import HopTrace.Proofs.Runs
import HopTrace.Proofs.ShownNames
import HopTrace.Proofs.TargetSelection
import HopTrace.Proofs.HopLines
import HopTrace.Proofs.LastRecorded
import HopTrace.Proofs.HistoryRing
