import Contention.CommandLine.Arguments
import Contention.CommandLine.Files
import Contention.CommandLine.Program
import Contention.Decimal
import Contention.Host
import Contention.Host.Error
import Contention.Json.Fault
import Contention.Json.Lexical
import Contention.Json.Number
import Contention.Json.Quote
import Contention.Json.Read
import Contention.Json.Schema
import Contention.Json.Skip
import Contention.Json.Value
import Contention.Log
import Contention.Main
import Contention.Metrics
import Contention.Monitor
import Contention.Proofs.Buffers
import Contention.Proofs.Dialogue
import Contention.Proofs.Monitor
import Contention.Proofs.Reference
import Contention.Proofs.Sampling
import Contention.Proofs.Stack
import Contention.Proofs.Station
import Contention.Proofs.Talk
import Contention.Record
import Contention.Record.Wire
import Contention.Sampling
import Contention.Scenario
import Contention.Scenario.Wire
import Contention.Settings
import Contention.Settings.Environment
import Contention.Settings.Options
import Contention.Settings.Value
import Contention.Settings.Wire
import Contention.Sink
import Contention.Stack
import Contention.Station
import Contention.Tally
import Contention.Text.Blank
import Contention.Text.Numeral
import Contention.Text.Quoted
import Contention.Text.Unseen
import Contention.Workbench
import Contention.Writer
import Contention.Proofs.Json.Document
import Contention.Proofs.Record
import Contention.Proofs.Switch
import Contention.Proofs.Metrics
import Contention.Proofs.Tally
import Contention.Proofs.Independence
import Contention.Proofs.Framing
import Contention.Proofs.Interleaving
import Contention.Proofs.Trace
import Contention.Proofs.Call
import Contention.Proofs.Concurrency
import Contention.Proofs.Conduct
import Contention.Proofs.Handles
import Contention.Proofs.Json.Grammar
import Contention.Proofs.Json.Format
import Contention.Proofs.Json.Objects
import Contention.Proofs.Renderings
import Contention.Proofs.Sinks
import Contention.Proofs.Workbench
import Contention.Proofs.Layers
import Contention.Proofs.Program
import Contention.Proofs.Capture
import Contention.Proofs.Decisions
import Contention.Proofs.Share
import Contention.Proofs.ByteOrder
import Contention.Proofs.Snapshot
import Contention.Proofs.Options
import Contention.Proofs.Insertions
import Contention.Proofs.Environment
import Contention.Proofs.Room
import Contention.Proofs.Windows
import Contention.Proofs.Resolver
import Contention.Proofs.Work
import Contention.Proofs.Failures
