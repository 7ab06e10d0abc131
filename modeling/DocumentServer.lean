import DocumentServer.Association
import DocumentServer.Calendar.Pattern
import DocumentServer.CommandLine.Cataloging
import DocumentServer.Document.Compiler
import DocumentServer.Download.Desk
import DocumentServer.Download.Store
import DocumentServer.Fault
import DocumentServer.Files.Listing
import DocumentServer.Files.Static
import DocumentServer.Formatting.Dates
import DocumentServer.Formatting.Numbers
import DocumentServer.Json.Reader
import DocumentServer.Json.Writer
import DocumentServer.Main
import DocumentServer.Number.Formatted
import DocumentServer.Number.Power
import DocumentServer.Page.Browser
import DocumentServer.Page.PrintOptions
import DocumentServer.Registry.Schedule
import DocumentServer.Settings.Basic
import DocumentServer.Settings.Kept
import DocumentServer.Settings.LogLevel
import DocumentServer.Text.Blank
import DocumentServer.Text.Digit
import DocumentServer.Text.Integer
import DocumentServer.Text.Letter
import DocumentServer.Text.Printable
import DocumentServer.Text.Quoted
import DocumentServer.Text.Utf8
import DocumentServer.Text.Word
import DocumentServer.Value.Arithmetic
import DocumentServer.Value.Equality
import DocumentServer.Value.Order
import DocumentServer.Value.Printer
import DocumentServer.Value.Sequence
import DocumentServer.Web.Answer
import DocumentServer.Web.Traffic
import DocumentServer.Proofs.Association
import DocumentServer.Proofs.Download.Delivery
import DocumentServer.Proofs.Download.Desk
import DocumentServer.Proofs.Download.History
import DocumentServer.Proofs.Download.Store
import DocumentServer.Proofs.Files.Listing
import DocumentServer.Proofs.Files.Location
import DocumentServer.Proofs.Files.Static
import DocumentServer.Proofs.Registry.Callers
import DocumentServer.Proofs.Registry.Cancellation
import DocumentServer.Proofs.Registry.Consistency
import DocumentServer.Proofs.Registry.Failing
import DocumentServer.Proofs.Registry.Freshness
import DocumentServer.Proofs.Registry.Generation
import DocumentServer.Proofs.Registry.Joining
import DocumentServer.Proofs.Registry.Outcome
import DocumentServer.Proofs.Registry.Phase
import DocumentServer.Proofs.Registry.Sharing
import DocumentServer.Proofs.Registry.Step
import DocumentServer.Proofs.Text.Base64
import DocumentServer.Proofs.Web.Delivery
import DocumentServer.Proofs.Web.Downloads
import DocumentServer.Proofs.Web.Guard
import DocumentServer.Proofs.Web.Percent
import DocumentServer.Proofs.Fault
import DocumentServer.Proofs.Page.Config
import DocumentServer.Proofs.Settings.Fields
import DocumentServer.Proofs.Settings.Priority
import DocumentServer.Proofs.Calendar.Deadline
import DocumentServer.Proofs.Web.DocumentRequest
import DocumentServer.Proofs.Web.Rendering
import DocumentServer.Proofs.Registry.Rebuilding
import DocumentServer.Proofs.Web.Reach
import DocumentServer.Proofs.Markup.StaticUrl
import DocumentServer.Proofs.Template.Literal
import DocumentServer.Proofs.Template.Marks
import DocumentServer.Proofs.Template.Lexer
import DocumentServer.Proofs.Template.Tokens
import DocumentServer.Proofs.Template.Stream
import DocumentServer.Proofs.Template.Expression
import DocumentServer.Proofs.Template.Statement
import DocumentServer.Proofs.Template.Compiled
import DocumentServer.Proofs.Document.Rewriting
import DocumentServer.Proofs.Registry.Populating
import DocumentServer.Proofs.Registry.Rewriting
import DocumentServer.Proofs.Number.Double
import DocumentServer.Proofs.Web.Expiry
import DocumentServer.Proofs.Files.Slug
import DocumentServer.Proofs.Registry.Stopping
import DocumentServer.Proofs.Registry.Undisturbed
import DocumentServer.Proofs.Catalog.Writer
import DocumentServer.Proofs.Download.Balance
import DocumentServer.Proofs.Files.Enumeration
import DocumentServer.Proofs.Web.StaticFile
import DocumentServer.Proofs.Document.Metadata
import DocumentServer.Proofs.Calendar.Civil
import DocumentServer.Proofs.Calendar.Iso
import DocumentServer.Proofs.Text.Numeral
import DocumentServer.Proofs.Formatting.Shift
import DocumentServer.Proofs.Formatting.Formats
import DocumentServer.Proofs.Formatting.NormalForm
import DocumentServer.Proofs.Formatting.Reading
import DocumentServer.Proofs.Number.Rounding
import DocumentServer.Proofs.Number.Layout
import DocumentServer.Proofs.Formatting.Amount
import DocumentServer.Proofs.Text.Runs
import DocumentServer.Proofs.Page.Size
import DocumentServer.Proofs.Text.Integer
import DocumentServer.Proofs.Number.WholePart
import DocumentServer.Proofs.Formatting.Whole
import DocumentServer.Proofs.Calendar.Clock
import DocumentServer.Proofs.Formatting.Epoch
import DocumentServer.Proofs.Markup.References
import DocumentServer.Proofs.Markup.Stylesheet
import DocumentServer.Proofs.Document.Styling
