import ReportPress.Artifact.Outcome
import ReportPress.Artifact.Paths
import ReportPress.Artifact.Regenerate
import ReportPress.Artifact.Save
import ReportPress.Binary64
import ReportPress.Binary64.Decimal
import ReportPress.Command
import ReportPress.Command.Arguments
import ReportPress.Command.Markup
import ReportPress.Command.Markup.Color
import ReportPress.Command.Markup.Expression
import ReportPress.Command.Markup.Expression.Fault
import ReportPress.Command.Markup.Expression.Grammar
import ReportPress.Command.Markup.Expression.Quoted
import ReportPress.Command.Markup.Expression.Reader
import ReportPress.Command.Markup.Expression.Token
import ReportPress.Command.Markup.Expression.Tree
import ReportPress.Command.Markup.Handler
import ReportPress.Command.Markup.Style
import ReportPress.Command.Screen
import ReportPress.Json
import ReportPress.Json.Display
import ReportPress.Json.Printer
import ReportPress.Json.Reader
import ReportPress.Main
import ReportPress.Markdown.Blocks
import ReportPress.Markdown.Document
import ReportPress.Markdown.FirstPage
import ReportPress.Markdown.Label
import ReportPress.Markdown.Statistics
import ReportPress.Markdown.Table
import ReportPress.Record.Check
import ReportPress.Record.Field
import ReportPress.Record.Message
import ReportPress.Report
import ReportPress.Report.Dump
import ReportPress.Report.Fields
import ReportPress.Report.Reading
import ReportPress.Report.Style
import ReportPress.Rounding
import ReportPress.Schema.Extraction
import ReportPress.Schema.InnerPage
import ReportPress.Schema.Load
import ReportPress.Schema.Prompt
import ReportPress.Schema.Strict
import ReportPress.Settings
import ReportPress.Settings.EnvFile
import ReportPress.Text.Blank
import ReportPress.Text.CharacterName
import ReportPress.Text.CharacterName.Names
import ReportPress.Text.Digit
import ReportPress.Text.Emoji
import ReportPress.Text.Emoji.Names
import ReportPress.Text.Hex
import ReportPress.Text.Identifier
import ReportPress.Text.LetterCase
import ReportPress.Text.Line
import ReportPress.Text.LooseText
import ReportPress.Text.LowerCase
import ReportPress.Text.Numeral
import ReportPress.Text.Printable
import ReportPress.Text.Quoted
import ReportPress.Text.Runs
import ReportPress.Text.UpperCase
import ReportPress.Text.Utf8
import ReportPress.Text.Width
import ReportPress.Usage.Pricing
import ReportPress.Usage.Tokens
import ReportPress.Workspace
import ReportPress.Workspace.Changes
import ReportPress.Workspace.Files
import ReportPress.Workspace.Path
import ReportPress.Proofs.Artifact.Agreement
import ReportPress.Proofs.Artifact.Calls
import ReportPress.Proofs.Artifact.Commuting
import ReportPress.Proofs.Artifact.Idempotence
import ReportPress.Proofs.Artifact.Independence
import ReportPress.Proofs.Artifact.Layout
import ReportPress.Proofs.Artifact.Load
import ReportPress.Proofs.Artifact.Paths
import ReportPress.Proofs.Artifact.Processed
import ReportPress.Proofs.Artifact.Reading
import ReportPress.Proofs.Artifact.Regenerate
import ReportPress.Proofs.Artifact.Rendering
import ReportPress.Proofs.Artifact.Runs
import ReportPress.Proofs.Artifact.Save
import ReportPress.Proofs.Binary64.Decimal
import ReportPress.Proofs.Binary64.Distance
import ReportPress.Proofs.Binary64.Nearest
import ReportPress.Proofs.Binary64.Places
import ReportPress.Proofs.Binary64.Shortest
import ReportPress.Proofs.Command.Escape
import ReportPress.Proofs.Command.Markup
import ReportPress.Proofs.Command.Refusal
import ReportPress.Proofs.Command.Rejection
import ReportPress.Proofs.Command.Render
import ReportPress.Proofs.Command.Words
import ReportPress.Proofs.Except
import ReportPress.Proofs.Json.Display
import ReportPress.Proofs.Json.Float
import ReportPress.Proofs.Json.Limits
import ReportPress.Proofs.Json.LineEnds
import ReportPress.Proofs.Json.Members
import ReportPress.Proofs.Json.Nesting
import ReportPress.Proofs.Json.Numeral
import ReportPress.Proofs.Json.Reading
import ReportPress.Proofs.Json.Reordered
import ReportPress.Proofs.Json.RoundTrip
import ReportPress.Proofs.Json.Shown
import ReportPress.Proofs.Json.Throughout
import ReportPress.Proofs.Markdown.Cost
import ReportPress.Proofs.Markdown.Declared
import ReportPress.Proofs.Markdown.Figures
import ReportPress.Proofs.Markdown.Finite
import ReportPress.Proofs.Markdown.Markers
import ReportPress.Proofs.Markdown.PageCount
import ReportPress.Proofs.Markdown.RawBlocks
import ReportPress.Proofs.Markdown.Recovery
import ReportPress.Proofs.Markdown.Search
import ReportPress.Proofs.Markdown.Shown
import ReportPress.Proofs.Markdown.Statistics
import ReportPress.Proofs.Markdown.Table
import ReportPress.Proofs.Markdown.WholeNumbers
import ReportPress.Proofs.Option
import ReportPress.Proofs.Record.Agreement
import ReportPress.Proofs.Record.Bounds
import ReportPress.Proofs.Record.Check
import ReportPress.Proofs.Record.Codec
import ReportPress.Proofs.Record.Faithful
import ReportPress.Proofs.Record.Input
import ReportPress.Proofs.Record.Shape
import ReportPress.Proofs.Record.Slots
import ReportPress.Proofs.Report.Declared
import ReportPress.Proofs.Report.Inside
import ReportPress.Proofs.Report.RoundTrip
import ReportPress.Proofs.Report.Shape
import ReportPress.Proofs.Schema.Acceptance
import ReportPress.Proofs.Schema.Depth
import ReportPress.Proofs.Schema.Exactness
import ReportPress.Proofs.Schema.InnerPage
import ReportPress.Proofs.Schema.Paragraphs
import ReportPress.Proofs.Schema.Prompt
import ReportPress.Proofs.Schema.StrictForm
import ReportPress.Proofs.Settings.Pricing
import ReportPress.Proofs.Text.Line
import ReportPress.Proofs.Text.LooseText
import ReportPress.Proofs.Text.Marks
import ReportPress.Proofs.Text.Numeral
import ReportPress.Proofs.Text.Whole
import ReportPress.Proofs.Workspace.Descent
import ReportPress.Proofs.Workspace.Directories
import ReportPress.Proofs.Workspace.Files
import ReportPress.Proofs.Workspace.Growth
import ReportPress.Proofs.Workspace.Listing
import ReportPress.Proofs.Workspace.Path
