import RuleServer.Capability.Compiler
import RuleServer.Capability.Provider
import RuleServer.Cli.Arguments
import RuleServer.Cli.CliOption
import RuleServer.Cli.LogFilter
import RuleServer.Cli.Page
import RuleServer.Cli.Program
import RuleServer.Config.Basic
import RuleServer.Config.Command
import RuleServer.Config.File
import RuleServer.Decode.Basic
import RuleServer.Fault
import RuleServer.Host.Files
import RuleServer.Host.IoFault
import RuleServer.Host.Launch
import RuleServer.Host.Network
import RuleServer.Host.Path
import RuleServer.Host.Process
import RuleServer.Host.Shell.Arithmetic
import RuleServer.Host.Shell.Expression
import RuleServer.Host.Shell.Reader
import RuleServer.Host.Shell.Run
import RuleServer.Host.Shell.Script
import RuleServer.Host.Shell.Utility
import RuleServer.Host.System
import RuleServer.Json.Basic
import RuleServer.Json.Parser
import RuleServer.Json.Printer
import RuleServer.Listener.Basic
import RuleServer.Listener.Registry
import RuleServer.Log
import RuleServer.Main
import RuleServer.Net.Address
import RuleServer.Number.Binary64
import RuleServer.Number.Power
import RuleServer.Number.Shortest
import RuleServer.Proofs.Capability.Program
import RuleServer.Proofs.Capability.Streams
import RuleServer.Proofs.Config.Placeholder
import RuleServer.Proofs.Config.Saved
import RuleServer.Proofs.Decode.Record
import RuleServer.Proofs.Host.Places
import RuleServer.Proofs.Json.Member
import RuleServer.Proofs.Json.RoundTrip
import RuleServer.Proofs.Json.Scalar
import RuleServer.Proofs.Json.Shape
import RuleServer.Proofs.Listener.Counting
import RuleServer.Proofs.Listener.Independence
import RuleServer.Proofs.Protocol.Diagnostic
import RuleServer.Proofs.Rpc.Classification
import RuleServer.Proofs.Rpc.Envelope
import RuleServer.Proofs.Rpc.Grammar
import RuleServer.Proofs.Rpc.Progress
import RuleServer.Proofs.Rpc.RoundTrip
import RuleServer.Proofs.Rpc.Sequence
import RuleServer.Proofs.Rule.Block
import RuleServer.Proofs.Rule.Marked
import RuleServer.Proofs.Rule.Numbered
import RuleServer.Proofs.Rule.Report
import RuleServer.Proofs.Rule.Surroundings
import RuleServer.Proofs.Session.Causality
import RuleServer.Proofs.Session.Diagnosis
import RuleServer.Proofs.Session.Effect
import RuleServer.Proofs.Session.Ending
import RuleServer.Proofs.Session.Failure
import RuleServer.Proofs.Session.History
import RuleServer.Proofs.Session.Lifecycle
import RuleServer.Proofs.Session.Notices
import RuleServer.Proofs.Session.Replies
import RuleServer.Proofs.Session.States
import RuleServer.Proofs.Session.Stream
import RuleServer.Proofs.Session.Trace
import RuleServer.Proofs.Session.Wire
import RuleServer.Proofs.Session.Workspace
import RuleServer.Proofs.Text.Blank
import RuleServer.Proofs.Text.Cut
import RuleServer.Proofs.Text.Lines
import RuleServer.Proofs.Text.Numeral
import RuleServer.Proofs.Text.Utf8
import RuleServer.Proofs.Toml.Line
import RuleServer.Proofs.Toml.Text
import RuleServer.Proofs.Uri.LocalFile
import RuleServer.Protocol.CompletionItem
import RuleServer.Protocol.Diagnostic
import RuleServer.Protocol.Params
import RuleServer.Protocol.Place
import RuleServer.Rpc.Frame
import RuleServer.Rpc.Message
import RuleServer.Rule.Block
import RuleServer.Rule.Report
import RuleServer.Server
import RuleServer.Session.Announce
import RuleServer.Session.Context
import RuleServer.Session.Dispatch
import RuleServer.Session.Handler
import RuleServer.Session.Method
import RuleServer.Session.Run
import RuleServer.Session.Settings
import RuleServer.Session.State
import RuleServer.Text.Alphanumeric
import RuleServer.Text.Blank
import RuleServer.Text.CharClass
import RuleServer.Text.Cut
import RuleServer.Text.Hexadecimal
import RuleServer.Text.Lines
import RuleServer.Text.Numeral
import RuleServer.Text.Printable
import RuleServer.Text.Quoted
import RuleServer.Text.Similar
import RuleServer.Text.Utf8
import RuleServer.Toml.Document
import RuleServer.Toml.Parser
import RuleServer.Toml.Printer
import RuleServer.Toml.Scalar
import RuleServer.Toml.Text
import RuleServer.Uri.Domain
import RuleServer.Uri.Reference
import RuleServer.Uri.Spelling
import RuleServer.Uri.Url
