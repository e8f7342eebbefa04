import Egress.Address
import Egress.Broadcast
import Egress.Channel
import Egress.Command.Basic
import Egress.Command.Context
import Egress.CommandLine.Arguments
import Egress.CommandLine.Filter
import Egress.CommandLine.Log
import Egress.CommandLine.Run
import Egress.Config.Basic
import Egress.Config.Decode
import Egress.Config.Error
import Egress.Config.Load
import Egress.Config.Settings
import Egress.Connectivity
import Egress.Decimal
import Egress.Directory.Basic
import Egress.Directory.Build
import Egress.Directory.Node
import Egress.Document.Assembly
import Egress.Document.Lexeme
import Egress.Document.Reader
import Egress.Document.Scalar
import Egress.Document.Value
import Egress.Failure
import Egress.Fault
import Egress.Host.Basic
import Egress.Host.Executable
import Egress.Host.FileStore.Basic
import Egress.Host.FileStore.Change
import Egress.Host.Path
import Egress.Host.Program.Basic
import Egress.Host.Program.Condition
import Egress.Host.Program.Echo
import Egress.Host.Program.Escape
import Egress.Host.Program.Files
import Egress.Host.Program.Lines
import Egress.Host.Program.Printf
import Egress.Host.Program.Table
import Egress.Host.Shell.Arithmetic
import Egress.Host.Shell.Builtin
import Egress.Host.Shell.Command
import Egress.Host.Shell.Evaluator
import Egress.Host.Shell.Expansion
import Egress.Host.Shell.Pattern
import Egress.Host.Shell.Reader.Grammar
import Egress.Host.Shell.Reader.Source
import Egress.Host.Shell.Reader.Word
import Egress.Host.Shell.Redirect
import Egress.Host.Shell.Run
import Egress.Host.Shell.Script
import Egress.Host.Shell.Session
import Egress.Json
import Egress.Keyed
import Egress.Machine
import Egress.Main
import Egress.Note
import Egress.Output.Format
import Egress.Output.Grid
import Egress.Procedure
import Egress.Proofs.Address
import Egress.Proofs.Command.Navigation
import Egress.Proofs.Config.Bounds
import Egress.Proofs.Config.Declared
import Egress.Proofs.Config.Defaults
import Egress.Proofs.Config.Fields
import Egress.Proofs.Config.Paths
import Egress.Proofs.Config.Views
import Egress.Proofs.Config.Written
import Egress.Proofs.Directory.Build
import Egress.Proofs.Directory.Commitment
import Egress.Proofs.Directory.Distinct
import Egress.Proofs.Directory.Endpoints
import Egress.Proofs.Directory.Entries
import Egress.Proofs.Directory.Faults
import Egress.Proofs.Directory.Grouping
import Egress.Proofs.Directory.Leaves
import Egress.Proofs.Directory.Lists
import Egress.Proofs.Directory.Locality
import Egress.Proofs.Directory.Mirror
import Egress.Proofs.Directory.Navigation
import Egress.Proofs.Directory.Noted
import Egress.Proofs.Directory.Outline
import Egress.Proofs.Directory.Reading
import Egress.Proofs.Directory.Resolution
import Egress.Proofs.Directory.Search
import Egress.Proofs.Directory.Stable
import Egress.Proofs.Document.Merge
import Egress.Proofs.Document.Ordered
import Egress.Proofs.Document.Read
import Egress.Proofs.Except
import Egress.Proofs.Following
import Egress.Proofs.Host.Filing
import Egress.Proofs.Host.Lawful
import Egress.Proofs.Host.Paths
import Egress.Proofs.Host.Run
import Egress.Proofs.Registry.History
import Egress.Proofs.Registry.Isolation
import Egress.Proofs.Registry.Schedule
import Egress.Proofs.Registry.Subscribers
import Egress.Proofs.Router.Command
import Egress.Proofs.Router.Installing
import Egress.Proofs.Router.Operation
import Egress.Proofs.Router.Outcome
import Egress.Proofs.Router.Sequence
import Egress.Proofs.Router.Shape
import Egress.Proofs.Router.Waiting
import Egress.Proofs.Router.Words
import Egress.Proofs.Session.Agreement
import Egress.Proofs.Session.Calls
import Egress.Proofs.Session.Course
import Egress.Proofs.Session.Evidence
import Egress.Proofs.Session.History
import Egress.Proofs.Session.Probes
import Egress.Proofs.Session.Readers
import Egress.Proofs.Session.Refused
import Egress.Proofs.Session.Rule
import Egress.Proofs.Session.Selecting
import Egress.Proofs.Session.Turns
import Egress.Proofs.Template.Fault
import Egress.Proofs.Template.Written
import Egress.Proofs.Text.ByteOrder
import Egress.Proofs.Text.Digits
import Egress.Proofs.Text.Words
import Egress.Proofs.Trace
import Egress.Registry
import Egress.Report
import Egress.Resolver
import Egress.Router.Access
import Egress.Router.Error
import Egress.Router.Script
import Egress.Router.Session
import Egress.Router.Traffic
import Egress.Router.Transport
import Egress.Service
import Egress.Template
import Egress.Text.Alphanumeric
import Egress.Text.Blank
import Egress.Text.Columns
import Egress.Text.Doubled
import Egress.Text.Emoji
import Egress.Text.Numeral
import Egress.Text.Piece
import Egress.Text.Printable
import Egress.Text.Quoted
import Egress.Text.Raw
import Egress.Text.Search
import Egress.Text.Utf8
import Egress.Text.Width
