import ClassNav.Character.Blank
import ClassNav.Character.Cased
import ClassNav.Character.Ranges
import ClassNav.Character.Recase
import ClassNav.Character.Uppercase
import ClassNav.Character.Word
import ClassNav.Command.Arguments
import ClassNav.Command.Form
import ClassNav.Command.Listing
import ClassNav.Command.Output
import ClassNav.Command.Reach
import ClassNav.Command.Run
import ClassNav.Debounce
import ClassNav.Document.Basic
import ClassNav.Document.Import
import ClassNav.Document.ImportLine
import ClassNav.Document.Imports
import ClassNav.Document.LineIndex
import ClassNav.Document.Missing
import ClassNav.Document.Reference
import ClassNav.Document.Usage
import ClassNav.Engine.Basic
import ClassNav.Engine.Create
import ClassNav.Engine.Report
import ClassNav.Error
import ClassNav.Json.Basic
import ClassNav.Json.Printer
import ClassNav.Json.Reader
import ClassNav.Main
import ClassNav.Naming.Camel
import ClassNav.Naming.Dashes
import ClassNav.Naming.Policy
import ClassNav.Naming.Words
import ClassNav.Note
import ClassNav.Path.Basic
import ClassNav.Path.Resolve
import ClassNav.Proofs.Character.Ascii
import ClassNav.Proofs.Document.Usages
import ClassNav.Proofs.Naming.Dashes
import ClassNav.Proofs.Naming.BasicLetters
import ClassNav.Proofs.Naming.WordEnds
import ClassNav.Proofs.Naming.Words
import ClassNav.Proofs.Stylesheet.Declared
import ClassNav.Proofs.Stylesheet.Located
import ClassNav.Proofs.Text.Lines
import ClassNav.Proofs.Text.Occurrence
import ClassNav.Settings.Basic
import ClassNav.Settings.Form
import ClassNav.Settings.Load
import ClassNav.Settings.Written
import ClassNav.Store.Basic
import ClassNav.Store.Edit
import ClassNav.Stylesheet.Block
import ClassNav.Stylesheet.ClassNames
import ClassNav.Stylesheet.Position
import ClassNav.Terminal.Color
import ClassNav.Terminal.Style
import ClassNav.Terminal.Table
import ClassNav.Text.Basic
import ClassNav.Text.Bytes
import ClassNav.Text.Lowercase
import ClassNav.Text.Trim
import ClassNav.Watch.Session
import ClassNav.Yaml.Node
import ClassNav.Yaml.Reader
import ClassNav.Yaml.Scalar
import ClassNav.Yaml.Tag
import ClassNav.Yaml.Token
import ClassNav.Yaml.Tokens
import ClassNav.Proofs.Document.CursorAtUsage
import ClassNav.Proofs.Engine.Answers
import ClassNav.Proofs.Engine.QuickFix
import ClassNav.Proofs.Engine.Completion
import ClassNav.Proofs.Stylesheet.Appended
import ClassNav.Proofs.Store.Grown
import ClassNav.Proofs.Engine.AppendOnly
import ClassNav.Proofs.Text.Runs
import ClassNav.Proofs.Document.ImportTail
import ClassNav.Proofs.Document.ImportPlaces
import ClassNav.Proofs.Engine.Imported
import ClassNav.Proofs.Distinct
import ClassNav.Proofs.Debounce
import ClassNav.Proofs.Watch.Rounds
import ClassNav.Proofs.Text.Bytes
import ClassNav.Proofs.Document.Token
import ClassNav.Proofs.Engine.Repeated
import ClassNav.Proofs.Text.LineEnds
import ClassNav.Proofs.Document.ImportLineEnds
import ClassNav.Proofs.Document.LineEnds
import ClassNav.Proofs.Stylesheet.LineEnds
import ClassNav.Proofs.Store.Kinds
import ClassNav.Proofs.Store.LineEnds
import ClassNav.Proofs.Engine.LineEnds
import ClassNav.Proofs.Engine.Reports
import ClassNav.Proofs.Path.Places
import ClassNav.Proofs.Store.Places
import ClassNav.Proofs.Engine.Sources
import ClassNav.Proofs.Watch.World
import ClassNav.Proofs.Settings.Layers
import ClassNav.Proofs.Settings.RoundTrip
import ClassNav.Proofs.Command.Options
import ClassNav.Proofs.Command.Settings
import ClassNav.Proofs.Json.Grammar
import ClassNav.Proofs.Command.Outcome
import ClassNav.Proofs.Document.LineIndex
import ClassNav.Proofs.Document.CursorAtPlace
import ClassNav.Proofs.Document.References
import ClassNav.Proofs.Stylesheet.Search
import ClassNav.Proofs.Stylesheet.Separators
import ClassNav.Proofs.Stylesheet.Listing
import ClassNav.Proofs.Document.ImportExtent
import ClassNav.Document.TokenScan
import ClassNav.Proofs.Document.TokenAtOffset
import ClassNav.Proofs.Document.TokenScan
import ClassNav.Document.ImportExpression
import ClassNav.Path.Normalize
import ClassNav.Proofs.Path.Components
import ClassNav.Proofs.Path.Resolve
import ClassNav.Proofs.Document.ImportExpression
import ClassNav.Proofs.Document.ImportGrammar
import ClassNav.Proofs.Naming.DashNeighbors
import ClassNav.Proofs.Terminal.Painted
import ClassNav.Proofs.Engine.Inert
import ClassNav.Proofs.Command.ColorOption
import ClassNav.Proofs.Command.Inert
import ClassNav.Proofs.Command.Color
