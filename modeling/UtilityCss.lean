import UtilityCss.Build
import UtilityCss.Calendar
import UtilityCss.Color.Hex
import UtilityCss.Color.Palette
import UtilityCss.Command.Arguments
import UtilityCss.Command.Grid
import UtilityCss.Command.Run
import UtilityCss.Command.Style
import UtilityCss.Command.Styled
import UtilityCss.Config.Basic
import UtilityCss.Config.Cache
import UtilityCss.Config.Load
import UtilityCss.Config.Schema
import UtilityCss.Content
import UtilityCss.Datum
import UtilityCss.Document.Flaw
import UtilityCss.Document.Format
import UtilityCss.Document.Host
import UtilityCss.Document.Json
import UtilityCss.Document.Readers
import UtilityCss.Document.Toml.Statement
import UtilityCss.Document.Toml.Table
import UtilityCss.Document.Toml.Value
import UtilityCss.Document.Yaml.Cursor
import UtilityCss.Document.Yaml.Graph
import UtilityCss.Document.Yaml.Kind
import UtilityCss.Document.Yaml.Mark
import UtilityCss.Document.Yaml.Merge
import UtilityCss.Document.Yaml.Object
import UtilityCss.Document.Yaml.Outline
import UtilityCss.Document.Yaml.Read
import UtilityCss.Document.Yaml.ScalarText
import UtilityCss.Document.Yaml.Value
import UtilityCss.Fault
import UtilityCss.Files.Glob
import UtilityCss.Files.Path
import UtilityCss.Files.Tree
import UtilityCss.Generation
import UtilityCss.Markup
import UtilityCss.Moment
import UtilityCss.Number.Binary64
import UtilityCss.Number.Printer
import UtilityCss.Number.Reader
import UtilityCss.Number.Rounding
import UtilityCss.Number.Whole
import UtilityCss.Pattern.Braces
import UtilityCss.Pattern.Name
import UtilityCss.Resolver
import UtilityCss.Rule
import UtilityCss.Selector
import UtilityCss.Stylesheet.Layout
import UtilityCss.Stylesheet.Minify
import UtilityCss.Stylesheet.Statistics
import UtilityCss.Stylesheet.Text
import UtilityCss.Table
import UtilityCss.Text.Base64
import UtilityCss.Text.Blank
import UtilityCss.Text.Case
import UtilityCss.Text.Cased
import UtilityCss.Text.Cut
import UtilityCss.Text.Digit
import UtilityCss.Text.Hidden
import UtilityCss.Text.Lines
import UtilityCss.Text.Pictograph
import UtilityCss.Text.Quoted
import UtilityCss.Text.Width
import UtilityCss.Text.Word
import UtilityCss.Text.Wrap
import UtilityCss.Theme.Basic
import UtilityCss.Theme.Defaults
import UtilityCss.Theme.Merge
import UtilityCss.Theme.Properties
import UtilityCss.Token
import UtilityCss.Utility.Defaults
import UtilityCss.Utility.Entry
import UtilityCss.Utility.Family
import UtilityCss.Utility.Registry
import UtilityCss.Utility.Value
import UtilityCss.Version
import UtilityCss.Vocabulary
import UtilityCss.Watch
import UtilityCss.Main
import UtilityCss.Proofs.Expansion.Step
import UtilityCss.Proofs.Expansion.Chain
import UtilityCss.Proofs.Expansion.Guard
import UtilityCss.Proofs.Token.Prefixes
import UtilityCss.Proofs.Token.Parts
import UtilityCss.Proofs.Expansion.Distribution
import UtilityCss.Proofs.Utility.Registry
import UtilityCss.Proofs.Number.Range
import UtilityCss.Proofs.Refusal.Value
import UtilityCss.Proofs.Refusal.Color
import UtilityCss.Proofs.Refusal.Family
import UtilityCss.Proofs.Refusal.Tokens
import UtilityCss.Proofs.Number.Order
import UtilityCss.Proofs.Number.Reading
import UtilityCss.Proofs.Rule.Merging
import UtilityCss.Proofs.Stylesheet.Breakpoints
import UtilityCss.Proofs.Text.Pieces
import UtilityCss.Proofs.Stylesheet.Rows
import UtilityCss.Proofs.Selector.Spelling
import UtilityCss.Proofs.Stylesheet.Emission
import UtilityCss.Proofs.Stylesheet.Sheet
import UtilityCss.Proofs.Selector.Escape
import UtilityCss.Proofs.Selector.Shape
import UtilityCss.Proofs.Number.Plain
import UtilityCss.Proofs.Utility.Declarations
import UtilityCss.Proofs.Expansion.Collection
import UtilityCss.Proofs.Expansion.Origins
import UtilityCss.Proofs.Stylesheet.Restriction
import UtilityCss.Proofs.Stylesheet.Distinct
import UtilityCss.Proofs.Stylesheet.Contexts
import UtilityCss.Proofs.Expansion.Characters
import UtilityCss.Proofs.Stylesheet.Rendering
import UtilityCss.Proofs.Stylesheet.Selectors
import UtilityCss.Proofs.Stylesheet.Findings
import UtilityCss.Proofs.Stylesheet.Isolation
import UtilityCss.Proofs.Text.Squeeze
import UtilityCss.Proofs.Stylesheet.Minified
import UtilityCss.Proofs.Selector.Glyphs
import UtilityCss.Proofs.Selector.Reading
import UtilityCss.Proofs.Stylesheet.Calm
import UtilityCss.Proofs.Selector.Names
import UtilityCss.Proofs.Selector.Identifier
import UtilityCss.Proofs.Stylesheet.Meaning
import UtilityCss.Proofs.Files.Stamps
import UtilityCss.Proofs.Files.Locality
import UtilityCss.Proofs.Files.Outline
import UtilityCss.Proofs.Content.Files
import UtilityCss.Proofs.Content.Union
import UtilityCss.Proofs.Config.Exhaustion
import UtilityCss.Proofs.Config.Loading
import UtilityCss.Proofs.Config.Caching
import UtilityCss.Proofs.Watch.Agreement
import UtilityCss.Proofs.Watch.Building
import UtilityCss.Proofs.Watch.Looks
import UtilityCss.Proofs.Watch.Vigil
import UtilityCss.Proofs.Expansion.Families
import UtilityCss.Proofs.Expansion.Sign
import UtilityCss.Proofs.Cascade.References
import UtilityCss.Proofs.Cascade.Style
import UtilityCss.Proofs.Cascade.Stops
import UtilityCss.Proofs.Cascade.Sections
import UtilityCss.Proofs.Cascade.Gradient
import UtilityCss.Proofs.Pattern.Expansion
import UtilityCss.Proofs.Color.Lookup
import UtilityCss.Proofs.Theme.Leaves
import UtilityCss.Proofs.Color.Opacity
import UtilityCss.Proofs.Utility.Literal
import UtilityCss.Proofs.Expansion.Literals
import UtilityCss.Proofs.Utility.Dispatch
import UtilityCss.Proofs.Text.Words
import UtilityCss.Proofs.Markup.Attributes
import UtilityCss.Proofs.Stylesheet.Comments
import UtilityCss.Proofs.Stylesheet.Deletion
import UtilityCss.Proofs.Theme.Merging
import UtilityCss.Proofs.Rule.Grouping
import UtilityCss.Proofs.Files.Order
import UtilityCss.Proofs.Watch.Reports
import UtilityCss.Proofs.Text.Search
import UtilityCss.Proofs.Statistics.Heads
import UtilityCss.Proofs.Statistics.Sheet
import UtilityCss.Proofs.Statistics.States
import UtilityCss.Proofs.Statistics.Names
import UtilityCss.Proofs.Statistics.Classes
import UtilityCss.Proofs.Stylesheet.Tidied
import UtilityCss.Proofs.Statistics.Collected
import UtilityCss.Proofs.Statistics.Queries
import UtilityCss.Proofs.Statistics.Declared
import UtilityCss.Proofs.Statistics.Squeezed
import UtilityCss.Proofs.Statistics.Figures
