import LogFanout.Level
import LogFanout.Transport
import LogFanout.Target
import LogFanout.Verbosity
import LogFanout.Summary
import LogFanout.Decimal.Shortest
import LogFanout.Line.Render
import LogFanout.Blueprint.Load
import LogFanout.Blueprint.Build
import LogFanout.Host.Files
import LogFanout.Writer.Builtin
import LogFanout.Writer.Scripted
import LogFanout.Writer.History
import LogFanout.Registry.History
import LogFanout.Logger.History
import LogFanout.Logger.Shared
import LogFanout.Command.Run
import LogFanout.Main
import LogFanout.Proofs.Logger.Lifecycle
import LogFanout.Proofs.Registry.Consistency
import LogFanout.Proofs.Registry.Accounting
import LogFanout.Proofs.Registry.Isolation
import LogFanout.Proofs.Blueprint.Enrolment
import LogFanout.Proofs.Blueprint.Refusal
import LogFanout.Proofs.Blueprint.Calls
import LogFanout.Proofs.Blueprint.Teardown
import LogFanout.Proofs.Blueprint.Accepted
import LogFanout.Proofs.Json.Scalar
import LogFanout.Proofs.Target
import LogFanout.Proofs.Json.Record
import LogFanout.Proofs.Blueprint.Json
import LogFanout.Proofs.Toml.Spelling
import LogFanout.Proofs.Toml.Text
import LogFanout.Proofs.Toml.Scalar
import LogFanout.Proofs.Toml.Document
import LogFanout.Proofs.Toml.Outline
import LogFanout.Proofs.Toml.Decode
import LogFanout.Proofs.Blueprint.Toml
import LogFanout.Proofs.Registry.Verdict
import LogFanout.Proofs.Writer.Holding
import LogFanout.Proofs.Registry.Holding
import LogFanout.Proofs.Registry.Moves
import LogFanout.Proofs.Logger.Holding
import LogFanout.Proofs.Registry.Sending
import LogFanout.Proofs.Logger.Descriptors
import LogFanout.Proofs.Logger.Sessions
import LogFanout.Proofs.Command.Warnings
import LogFanout.Proofs.Command.Agreement
import LogFanout.Proofs.Line.Render
import LogFanout.Proofs.Calendar.Instant
import LogFanout.Proofs.Logger.Shared
import LogFanout.Proofs.Logger.Single
import LogFanout.Proofs.Command.Emission
import LogFanout.Proofs.Line.Parts
import LogFanout.Proofs.Line.Pieces
import LogFanout.Proofs.Blueprint.Check
import LogFanout.Proofs.Writer.Direct
import LogFanout.Proofs.Command.Words
