import ScriptShell.Config.Default
import ScriptShell.Config.Error
import ScriptShell.Config.Load
import ScriptShell.Config.Locations
import ScriptShell.Config.Seed
import ScriptShell.Dispatch
import ScriptShell.Engine.Basic
import ScriptShell.Engine.Effects
import ScriptShell.Engine.Error
import ScriptShell.Event
import ScriptShell.Failure
import ScriptShell.History
import ScriptShell.Home
import ScriptShell.Invocation
import ScriptShell.Line.Arguments
import ScriptShell.Line.LeadingWord
import ScriptShell.Log.Filter
import ScriptShell.Log.Line
import ScriptShell.Loop
import ScriptShell.Main
import ScriptShell.Options
import ScriptShell.Posix.Disk
import ScriptShell.Posix.Errno
import ScriptShell.Posix.FileTree
import ScriptShell.Posix.Path
import ScriptShell.Posix.Signal
import ScriptShell.Posix.Walk
import ScriptShell.Program.Error
import ScriptShell.Program.Execute
import ScriptShell.Program.Format
import ScriptShell.Program.Installed
import ScriptShell.Program.Launch
import ScriptShell.Program.Process
import ScriptShell.Program.Search
import ScriptShell.Program.Tools
import ScriptShell.Program.Utility
import ScriptShell.Program.Wait
import ScriptShell.Proofs.Config.Loading
import ScriptShell.Proofs.Config.Seeded
import ScriptShell.Proofs.Config.Seeding
import ScriptShell.Proofs.Dispatch.OneAction
import ScriptShell.Proofs.Dispatch.Steps
import ScriptShell.Proofs.Engine.Performed
import ScriptShell.Proofs.Engine.Recorded
import ScriptShell.Proofs.Line.Composition
import ScriptShell.Proofs.Line.Grammar
import ScriptShell.Proofs.Line.LeadingArgument
import ScriptShell.Proofs.Line.LeadingCut
import ScriptShell.Proofs.Line.LeadingWord
import ScriptShell.Proofs.Line.Quoting
import ScriptShell.Proofs.Line.Rereading
import ScriptShell.Proofs.Line.Scan
import ScriptShell.Proofs.Loop.Fold
import ScriptShell.Proofs.Loop.Reports
import ScriptShell.Proofs.Posix.Ancestors
import ScriptShell.Proofs.Posix.Directories
import ScriptShell.Proofs.Posix.Disk
import ScriptShell.Proofs.Posix.PathText
import ScriptShell.Proofs.Posix.Tree
import ScriptShell.Proofs.Posix.Walk
import ScriptShell.Proofs.Posix.Writing
import ScriptShell.Proofs.Program.Launching
import ScriptShell.Proofs.Program.Search
import ScriptShell.Proofs.Program.SearchPath
import ScriptShell.Proofs.Program.Waiting
import ScriptShell.Proofs.Resolution.Alias
import ScriptShell.Proofs.Resolution.Order
import ScriptShell.Proofs.Script.Evaluating
import ScriptShell.Proofs.Script.Flow
import ScriptShell.Proofs.Script.Handlers
import ScriptShell.Proofs.Script.Heap
import ScriptShell.Proofs.Script.ModulePath
import ScriptShell.Proofs.Script.Registration
import ScriptShell.Proofs.Script.Running
import ScriptShell.Proofs.Session.Alike
import ScriptShell.Proofs.Session.Journal
import ScriptShell.Proofs.Session.Reports
import ScriptShell.Proofs.Session.Steps
import ScriptShell.Proofs.Shell.Tables
import ScriptShell.Resolution
import ScriptShell.Script.Argument
import ScriptShell.Script.Arithmetic
import ScriptShell.Script.Attribute
import ScriptShell.Script.Binding
import ScriptShell.Script.Builtin
import ScriptShell.Script.Builtin.Code
import ScriptShell.Script.Builtin.Item
import ScriptShell.Script.Builtin.Number
import ScriptShell.Script.Builtin.Object
import ScriptShell.Script.Call
import ScriptShell.Script.Catalogue
import ScriptShell.Script.Check
import ScriptShell.Script.Compare
import ScriptShell.Script.Construct
import ScriptShell.Script.Directive
import ScriptShell.Script.Engine
import ScriptShell.Script.Evaluation
import ScriptShell.Script.Evaluator
import ScriptShell.Script.Expression
import ScriptShell.Script.FormatField
import ScriptShell.Script.FormatSpec
import ScriptShell.Script.Grammar.Argument
import ScriptShell.Script.Grammar.Atom
import ScriptShell.Script.Grammar.Basic
import ScriptShell.Script.Grammar.Format
import ScriptShell.Script.Grammar.Operator
import ScriptShell.Script.Grammar.Pattern
import ScriptShell.Script.Grammar.Statement
import ScriptShell.Script.Handlers
import ScriptShell.Script.Host
import ScriptShell.Script.Import
import ScriptShell.Script.Iteration
import ScriptShell.Script.Lexer
import ScriptShell.Script.Literal
import ScriptShell.Script.Matching
import ScriptShell.Script.Method
import ScriptShell.Script.Method.Dictionary
import ScriptShell.Script.Method.Sequence
import ScriptShell.Script.Method.Set
import ScriptShell.Script.Method.Text
import ScriptShell.Script.Name
import ScriptShell.Script.Parser
import ScriptShell.Script.Reading
import ScriptShell.Script.Running
import ScriptShell.Script.Scope
import ScriptShell.Script.Setup
import ScriptShell.Script.Show
import ScriptShell.Script.Source
import ScriptShell.Script.Statement
import ScriptShell.Script.Syntax
import ScriptShell.Script.System
import ScriptShell.Script.Target
import ScriptShell.Script.Token
import ScriptShell.Script.Value
import ScriptShell.Session
import ScriptShell.Sh.Command
import ScriptShell.Sh.Expand
import ScriptShell.Sh.Run
import ScriptShell.Sh.State
import ScriptShell.Sh.Word
import ScriptShell.ShellState
import ScriptShell.Startup
import ScriptShell.Streams
import ScriptShell.Terminal.Editor
import ScriptShell.Terminal.Key
import ScriptShell.Terminal.Line
import ScriptShell.Terminal.Reading
import ScriptShell.Text.Bytes
import ScriptShell.Text.Case
import ScriptShell.Text.Decimal
import ScriptShell.Text.Identifier
import ScriptShell.Text.Pieces
import ScriptShell.Text.Printable
import ScriptShell.Text.Rounded
import ScriptShell.Text.Similarity
