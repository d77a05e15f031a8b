import VitaeShell.Text.Blank
import VitaeShell.Text.Lines
import VitaeShell.Text.Casing
import VitaeShell.Text.Search
import VitaeShell.Text.Quoted
import VitaeShell.Text.DigitTable
import VitaeShell.Number.Shortest
import VitaeShell.Number.Numeral
import VitaeShell.Json.Printer
import VitaeShell.Json.Reader
import VitaeShell.Payload.Reply
import VitaeShell.FileSystem
import VitaeShell.Line
import VitaeShell.Resume.Sample
import VitaeShell.Resume.Validation
import VitaeShell.Text.Utf8
import VitaeShell.Text.Source
import VitaeShell.Yaml.Fault
import VitaeShell.Yaml.Token
import VitaeShell.Yaml.Cursor
import VitaeShell.Yaml.Window
import VitaeShell.Yaml.Scalar
import VitaeShell.Yaml.Lexer
import VitaeShell.Yaml.Moment
import VitaeShell.Yaml.Tag
import VitaeShell.Yaml.Graph
import VitaeShell.Yaml.Document
import VitaeShell.Yaml.Datum
import VitaeShell.Text.Base64
import VitaeShell.Yaml.Construction
import VitaeShell.Folder
import VitaeShell.Resume.Draft
import VitaeShell.Notice
import VitaeShell.Resume.Filing
import VitaeShell.Clipboard
import VitaeShell.Command
import VitaeShell.Command.Builtin
import VitaeShell.History
import VitaeShell.Completion
import VitaeShell.Session
import VitaeShell.Screen
import VitaeShell.Screen.Grid
import VitaeShell.Screen.Search
import VitaeShell.Screen.Drawing
import VitaeShell.Template.Page
import VitaeShell.Template.Page.Text
import VitaeShell.Template.Page.Number
import VitaeShell.Template.Page.Collection
import VitaeShell.Template.Page.Kind
import VitaeShell.Template.Page.Operation
import VitaeShell.Template.Kind
import VitaeShell.Template.Part
import VitaeShell.Template.Layout
import VitaeShell.Template
import VitaeShell.Shell
import VitaeShell.Settings
import VitaeShell.Resume.Loading
import VitaeShell.Options
import VitaeShell.LogLevel
import VitaeShell.Output
import VitaeShell.Program
import VitaeShell.Main
import VitaeShell.Proofs.Json.Number
import VitaeShell.Proofs.Json.RoundTrip
import VitaeShell.Proofs.Payload.RoundTrip
import VitaeShell.Proofs.Command.Answer
import VitaeShell.Proofs.Command.Run
import VitaeShell.Proofs.Command.Reply
import VitaeShell.Proofs.Session.Residence
import VitaeShell.Proofs.Line
import VitaeShell.Proofs.Path
import VitaeShell.Proofs.Tree
import VitaeShell.Proofs.Resume.Filing
import VitaeShell.Proofs.Completion
import VitaeShell.Proofs.Session.Completion
import VitaeShell.Proofs.Path.Resolution
import VitaeShell.Proofs.Tree.Place
import VitaeShell.Proofs.Text
import VitaeShell.Proofs.Command.Search
import VitaeShell.Proofs.Line.Argument
import VitaeShell.Proofs.Command.Look
import VitaeShell.Proofs.Resume.Directories
import VitaeShell.Proofs.Session.Return
import VitaeShell.Proofs.Payload.Textual
import VitaeShell.Proofs.Screen.Drawing
import VitaeShell.Proofs.Shell
import VitaeShell.Proofs.Session.Trace
import VitaeShell.Proofs.Session.Typing
import VitaeShell.Proofs.Shell.Request
import VitaeShell.Proofs.Shell.Agreement
import VitaeShell.Proofs.Shell.Recall
import VitaeShell.Proofs.Json.Reading
import VitaeShell.Proofs.Payload.Reading
import VitaeShell.Proofs.Payload.Rewriting
import VitaeShell.Proofs.Payload.Refusal
import VitaeShell.Proofs.Program.Startup
import VitaeShell.Proofs.Program.Writing
import VitaeShell.Proofs.Path.Composition
import VitaeShell.Proofs.Session.Restart
import VitaeShell.Proofs.Command.Copying
import VitaeShell.Proofs.Session.Copying
import VitaeShell.Proofs.Json.Nesting
import VitaeShell.Proofs.Number.Binary64
import VitaeShell.Proofs.Resume.Loading
import VitaeShell.Proofs.Session.Control
import VitaeShell.Proofs.Resume.Unfit
import VitaeShell.Proofs.Resume.Schema
import VitaeShell.Proofs.Settings
import VitaeShell.Proofs.Text.Lowercase
import VitaeShell.Proofs.Command.Occurrence
import VitaeShell.Proofs.Shell.Record
import VitaeShell.Proofs.Screen.Search
import VitaeShell.Proofs.Outline
import VitaeShell.Proofs.History
import VitaeShell.Proofs.Path.Normal
import VitaeShell.Proofs.Text.Uppercase
import VitaeShell.Proofs.LogLevel
import VitaeShell.Proofs.Program.Level
import VitaeShell.Proofs.Screen.Grid
import VitaeShell.Proofs.Completion.FirstWord
import VitaeShell.Proofs.Number.Decimal
import VitaeShell.Proofs.Command.Matrix
import VitaeShell.Proofs.Path.Segment
