import BuildGate.Check
import BuildGate.Cli.App
import BuildGate.Cli.Commands
import BuildGate.Cli.Options
import BuildGate.Cli.Screen
import BuildGate.Cli.Session
import BuildGate.Cli.Spec
import BuildGate.ConfigError
import BuildGate.Console.Emoji
import BuildGate.Console.EmojiCodes
import BuildGate.Console.Markup
import BuildGate.Console.Panel
import BuildGate.Console.Style
import BuildGate.Console.Table
import BuildGate.Console.TagValue
import BuildGate.Console.Wrap
import BuildGate.Doctor
import BuildGate.Env
import BuildGate.Env.Refs
import BuildGate.EventLog
import BuildGate.Fault
import BuildGate.Fs
import BuildGate.Fs.Change
import BuildGate.Host.Builtins.Basic
import BuildGate.Host.Builtins.Control
import BuildGate.Host.Builtins.Dirs
import BuildGate.Host.Builtins.Input
import BuildGate.Host.Builtins.Lookup
import BuildGate.Host.Builtins.Signals
import BuildGate.Host.Builtins.Vars
import BuildGate.Host.Exec
import BuildGate.Host.Expand
import BuildGate.Host.Image
import BuildGate.Host.Job
import BuildGate.Host.Load
import BuildGate.Host.Machine
import BuildGate.Host.Process
import BuildGate.Host.Programs
import BuildGate.Host.Redirect
import BuildGate.Host.Script
import BuildGate.Host.ShellM
import BuildGate.Host.ShellState
import BuildGate.Host.SimpleCommand
import BuildGate.Host.Test
import BuildGate.Host.Tools
import BuildGate.Host.Tools.About
import BuildGate.Host.Tools.Cat
import BuildGate.Host.Tools.Echo
import BuildGate.Host.Tools.Env
import BuildGate.Host.Tools.Head
import BuildGate.Host.Tools.Mkdir
import BuildGate.Host.Tools.Sleep
import BuildGate.Host.Tools.Sort
import BuildGate.Host.Tools.SortKey
import BuildGate.Host.Tools.Tr
import BuildGate.Host.Tools.Wc
import BuildGate.Host.Words
import BuildGate.Ids
import BuildGate.Json.Read
import BuildGate.Json.Write
import BuildGate.Main
import BuildGate.Name
import BuildGate.Number.Binary64
import BuildGate.Number.Decimal
import BuildGate.Number.Floating
import BuildGate.Number.Text
import BuildGate.Path
import BuildGate.Pipeline
import BuildGate.Pipeline.Build
import BuildGate.Pipeline.File
import BuildGate.Pipeline.Shape
import BuildGate.Record
import BuildGate.Record.Check
import BuildGate.Run
import BuildGate.Seconds
import BuildGate.Shell.Arith
import BuildGate.Shell.Format
import BuildGate.Shell.Lex
import BuildGate.Shell.Parse
import BuildGate.Shell.Syntax
import BuildGate.Store
import BuildGate.Templates
import BuildGate.Text.CellWidth
import BuildGate.Text.Classes
import BuildGate.Text.Halves
import BuildGate.Text.Lines
import BuildGate.Text.Literal
import BuildGate.Text.Pattern
import BuildGate.Text.Raw
import BuildGate.Text.Similar
import BuildGate.Text.Utf8
import BuildGate.Value
import BuildGate.Value.Hash
import BuildGate.Value.Literal
import BuildGate.Value.Order
import BuildGate.Value.SetOrder
import BuildGate.Value.Spot
import BuildGate.Yaml.Construct
import BuildGate.Yaml.Event
import BuildGate.Yaml.Load
import BuildGate.Yaml.Mark
import BuildGate.Yaml.Node
import BuildGate.Yaml.Token
import BuildGate.Yaml.Token.Property
import BuildGate.Yaml.Token.Scalar
import BuildGate.Yaml.Token.Scan
import BuildGate.Yaml.Token.Stream
import BuildGate.Proofs.Run
import BuildGate.Proofs.Build
import BuildGate.Proofs.Json
import BuildGate.Proofs.Faults
import BuildGate.Proofs.Layers
import BuildGate.Proofs.Stored
import BuildGate.Proofs.Utf8
import BuildGate.Proofs.Written
import BuildGate.Proofs.ReportFile
import BuildGate.Proofs.Markup
import BuildGate.Proofs.CliSteps
import BuildGate.Proofs.RunCommand
import BuildGate.Proofs.Preflight
import BuildGate.Proofs.FailedStep
import BuildGate.Proofs.References
import BuildGate.Proofs.FileTree
import BuildGate.Proofs.LogFiles
import BuildGate.Proofs.Containment
import BuildGate.Proofs.Events
import BuildGate.Proofs.Rounding
import BuildGate.Proofs.Shortest
import BuildGate.Proofs.Numerals
import BuildGate.Proofs.ReadBack
import BuildGate.Proofs.NamePattern
import BuildGate.Proofs.Names
import BuildGate.Proofs.DoctorReport
import BuildGate.Proofs.Realpath
import BuildGate.Proofs.ReportReadBack
