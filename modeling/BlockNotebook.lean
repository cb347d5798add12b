import BlockNotebook.Block.Basic
import BlockNotebook.Block.Fault
import BlockNotebook.Block.Kind
import BlockNotebook.Block.Shape
import BlockNotebook.Block.TableState
import BlockNotebook.Calendar
import BlockNotebook.Code.Block
import BlockNotebook.Code.Display
import BlockNotebook.Code.Input
import BlockNotebook.Code.Literal
import BlockNotebook.Code.Name
import BlockNotebook.CommandLine.Arguments
import BlockNotebook.CommandLine.Command
import BlockNotebook.CommandLine.FileName
import BlockNotebook.CommandLine.Run
import BlockNotebook.CommandLine.Sections
import BlockNotebook.CommandLine.Session
import BlockNotebook.Console.Columns
import BlockNotebook.Console.Emoji
import BlockNotebook.Console.Markup
import BlockNotebook.Console.Message
import BlockNotebook.Console.Sequence
import BlockNotebook.Console.Shortcode
import BlockNotebook.Document.Basic
import BlockNotebook.Document.Finding
import BlockNotebook.Json.Reader
import BlockNotebook.Json.Text
import BlockNotebook.Log.Logger
import BlockNotebook.Log.Record
import BlockNotebook.Main
import BlockNotebook.Markdown.Address
import BlockNotebook.Markdown.Block
import BlockNotebook.Markdown.Image
import BlockNotebook.Markdown.Text
import BlockNotebook.Notebook.Basic
import BlockNotebook.Notebook.Compile
import BlockNotebook.Notebook.Render
import BlockNotebook.Notebook.SortingKey
import BlockNotebook.Number.Binary64
import BlockNotebook.Number.Reading
import BlockNotebook.Number.Shortest
import BlockNotebook.Schema.Export
import BlockNotebook.Schema.Issue
import BlockNotebook.Schema.Scalar
import BlockNotebook.Schema.Shape
import BlockNotebook.Settings.Basic
import BlockNotebook.Settings.Environment
import BlockNotebook.Text.Base64
import BlockNotebook.Text.Blank
import BlockNotebook.Text.Case
import BlockNotebook.Text.Cased
import BlockNotebook.Text.CodePoint
import BlockNotebook.Text.Digit
import BlockNotebook.Text.Lines
import BlockNotebook.Text.Printable
import BlockNotebook.Text.Quoted
import BlockNotebook.Text.Ranges
import BlockNotebook.Text.Split
import BlockNotebook.Text.Unencodable
import BlockNotebook.Text.Utf8
import BlockNotebook.Text.Word
import BlockNotebook.Value.Basic
import BlockNotebook.Value.Shown
import BlockNotebook.Yaml.Cursor
import BlockNotebook.Yaml.Event
import BlockNotebook.Yaml.Fault
import BlockNotebook.Yaml.Load
import BlockNotebook.Yaml.Made
import BlockNotebook.Yaml.Node
import BlockNotebook.Yaml.Scalar
import BlockNotebook.Yaml.Tag
import BlockNotebook.Yaml.Token.Basic
import BlockNotebook.Yaml.Token.Scalar
import BlockNotebook.Yaml.Token.Stream
import BlockNotebook.Yaml.Token.Tag
import BlockNotebook.Proofs.Notebook.Order
import BlockNotebook.Proofs.Notebook.Skip
import BlockNotebook.Proofs.Block.Form
import BlockNotebook.Proofs.Code.Literal
import BlockNotebook.Proofs.Code.Reading
import BlockNotebook.Proofs.Code.Stored
import BlockNotebook.Proofs.Code.Source
import BlockNotebook.Proofs.Json.Written
import BlockNotebook.Proofs.Schema.Exported
import BlockNotebook.Proofs.Block.Stop
import BlockNotebook.Proofs.Notebook.Completion
import BlockNotebook.Proofs.Schema.Route
import BlockNotebook.Proofs.Document.Finding
import BlockNotebook.Proofs.Schema.Below
import BlockNotebook.Proofs.Document.Block
import BlockNotebook.Proofs.Schema.Reload
import BlockNotebook.Proofs.Document.Reload
import BlockNotebook.Proofs.Yaml.Outcome
import BlockNotebook.Proofs.Yaml.Token
import BlockNotebook.Proofs.Yaml.Event
import BlockNotebook.Proofs.Yaml.Node
import BlockNotebook.Proofs.Yaml.Made
import BlockNotebook.Proofs.Number.Reading
import BlockNotebook.Proofs.Schema.Refusal
import BlockNotebook.Proofs.Text.Split
import BlockNotebook.Proofs.Yaml.Scalar.Digits
import BlockNotebook.Proofs.Yaml.Scalar.Float
import BlockNotebook.Proofs.Yaml.Scalar.Int
import BlockNotebook.Proofs.Yaml.Scalar.Plain
import BlockNotebook.Proofs.Yaml.Load
import BlockNotebook.Proofs.Document.Failure
import BlockNotebook.Proofs.Notebook.Context
import BlockNotebook.Proofs.Schema.Part
import BlockNotebook.Proofs.Block.Undeclared
import BlockNotebook.Proofs.Value.Keyed
import BlockNotebook.Proofs.Document.Apart
import BlockNotebook.Proofs.Block.Dispatch
import BlockNotebook.Proofs.Console.Sequence
import BlockNotebook.Proofs.Log.Run
import BlockNotebook.Proofs.Notebook.SortingKey
import BlockNotebook.Proofs.Console.Markup
import BlockNotebook.Proofs.CommandLine.Job
import BlockNotebook.Proofs.Text.Physical
import BlockNotebook.Proofs.CommandLine.Compile
import BlockNotebook.Proofs.CommandLine.Heading
import BlockNotebook.Proofs.Notebook.Numeral
import BlockNotebook.Proofs.Notebook.Rearranged
import BlockNotebook.Proofs.Code.Name
import BlockNotebook.Proofs.Text.Lines
import BlockNotebook.Proofs.Text.Trim
import BlockNotebook.Proofs.Notebook.Script
import BlockNotebook.Proofs.Text.WholeLine
import BlockNotebook.Proofs.Notebook.Fence
import BlockNotebook.Proofs.Json.Returned
import BlockNotebook.Proofs.Code.Data
import BlockNotebook.Proofs.Schema.WithoutNulls
import BlockNotebook.Proofs.Schema.Returned
import BlockNotebook.Proofs.Block.TableState
import BlockNotebook.Proofs.Markdown.Image
import BlockNotebook.Proofs.Markdown.Escape
import BlockNotebook.Proofs.Markdown.Plain
import BlockNotebook.Proofs.Markdown.Address
import BlockNotebook.Proofs.Calendar.Figures
import BlockNotebook.Proofs.Calendar.Date
import BlockNotebook.Proofs.Code.DateRange
import BlockNotebook.Proofs.Document.References
import BlockNotebook.Proofs.Schema.Names
import BlockNotebook.Proofs.Document.Hint
import BlockNotebook.Proofs.Code.Assigned
import BlockNotebook.Proofs.Code.Numeral
import BlockNotebook.Proofs.Code.Slider
import BlockNotebook.Proofs.Code.Identifier
import BlockNotebook.Proofs.Code.Title
import BlockNotebook.Proofs.Settings.Expansion
import BlockNotebook.Proofs.Yaml.Merge
import BlockNotebook.Proofs.Yaml.Reach
import BlockNotebook.Proofs.Yaml.Timestamp
import BlockNotebook.Proofs.Yaml.Complete
import BlockNotebook.Proofs.Yaml.Untagged
import BlockNotebook.Proofs.Yaml.Undated
