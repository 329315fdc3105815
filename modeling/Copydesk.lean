import Copydesk.Alert
import Copydesk.Blueprint.Basic
import Copydesk.Blueprint.Document
import Copydesk.Blueprint.Selector
import Copydesk.Cli.Arguments
import Copydesk.Cli.Run
import Copydesk.Comment.Basic
import Copydesk.Comment.Extract
import Copydesk.Comment.Language
import Copydesk.Comment.LineScanner
import Copydesk.Config.Basic
import Copydesk.Config.Reader
import Copydesk.Data.Decimal
import Copydesk.Data.Json
import Copydesk.Data.Toml.Document
import Copydesk.Data.Toml.Scalar
import Copydesk.Data.Value
import Copydesk.Data.Yaml.Node
import Copydesk.Data.Yaml.Resolve
import Copydesk.Data.Yaml.Token
import Copydesk.Data.Yaml.Typed
import Copydesk.Error
import Copydesk.FileTree
import Copydesk.Filter.Basic
import Copydesk.Filter.Expr
import Copydesk.Filter.Token
import Copydesk.Format
import Copydesk.Glob.Basic
import Copydesk.Glob.Syntax
import Copydesk.Html.Entity
import Copydesk.Html.NamedCharacter
import Copydesk.Html.Token
import Copydesk.Html.Walker
import Copydesk.Level
import Copydesk.Linter
import Copydesk.Main
import Copydesk.Markdown.Block
import Copydesk.Markdown.Emphasis
import Copydesk.Markdown.Inline
import Copydesk.Markdown.Line
import Copydesk.Markdown.Reference
import Copydesk.Markdown.Render
import Copydesk.Markdown.Table
import Copydesk.Markdown.Tag
import Copydesk.Markup.Neutralize
import Copydesk.Markup.Prepare
import Copydesk.Org
import Copydesk.Path
import Copydesk.Position.Anchored
import Copydesk.Position.Cursor
import Copydesk.Position.Locator
import Copydesk.Position.Value
import Copydesk.Proofs.Alert
import Copydesk.Proofs.Blueprint.Descent
import Copydesk.Proofs.Blueprint.Document
import Copydesk.Proofs.Blueprint.Selector
import Copydesk.Proofs.Blueprint.Spelling
import Copydesk.Proofs.Comment.LineScanner
import Copydesk.Proofs.Comment.Padding
import Copydesk.Proofs.Comment.Runs
import Copydesk.Proofs.Comment.Scopes
import Copydesk.Proofs.Config.Sufficient
import Copydesk.Proofs.Config.Valid
import Copydesk.Proofs.Data.Alike
import Copydesk.Proofs.Data.Object
import Copydesk.Proofs.Data.Written
import Copydesk.Proofs.FileTree
import Copydesk.Proofs.Filter
import Copydesk.Proofs.Filter.Derivation
import Copydesk.Proofs.Filter.LevelFields
import Copydesk.Proofs.Filter.Lexemes
import Copydesk.Proofs.Filter.Reading
import Copydesk.Proofs.Filter.Spelling
import Copydesk.Proofs.Html.Content
import Copydesk.Proofs.Html.Elements
import Copydesk.Proofs.Html.Nesting
import Copydesk.Proofs.Html.Order
import Copydesk.Proofs.Html.Origin
import Copydesk.Proofs.Html.Walker
import Copydesk.Proofs.Html.Written
import Copydesk.Proofs.Linter.Block
import Copydesk.Proofs.Linter.Detection
import Copydesk.Proofs.Linter.Ending
import Copydesk.Proofs.Linter.ExactHits
import Copydesk.Proofs.Linter.Exclusion
import Copydesk.Proofs.Linter.Extraction
import Copydesk.Proofs.Linter.Floor
import Copydesk.Proofs.Linter.Interference
import Copydesk.Proofs.Linter.Levels
import Copydesk.Proofs.Linter.LineEnding
import Copydesk.Proofs.Linter.Member
import Copydesk.Proofs.Linter.Paragraphs
import Copydesk.Proofs.Linter.RoundTrip
import Copydesk.Proofs.Linter.Trace
import Copydesk.Proofs.Linter.Value
import Copydesk.Proofs.Markup.Bytes
import Copydesk.Proofs.Markup.CodeSpans
import Copydesk.Proofs.Markup.CommentDelimiters
import Copydesk.Proofs.Markup.FenceRoles
import Copydesk.Proofs.Markup.Fences
import Copydesk.Proofs.Markup.FrontMatter
import Copydesk.Proofs.Markup.InfoString
import Copydesk.Proofs.Markup.KeptFences
import Copydesk.Proofs.Markup.Labels
import Copydesk.Proofs.Markup.Mask
import Copydesk.Proofs.Markup.Neutralize
import Copydesk.Proofs.Markup.SpanBytes
import Copydesk.Proofs.Org.Listing
import Copydesk.Proofs.Org.Nesting
import Copydesk.Proofs.Outcome
import Copydesk.Proofs.Path
import Copydesk.Proofs.Position.Assignment
import Copydesk.Proofs.Position.Column
import Copydesk.Proofs.Position.Each
import Copydesk.Proofs.Position.Locator
import Copydesk.Proofs.Position.Missing
import Copydesk.Proofs.Position.OneByOne
import Copydesk.Proofs.Position.Remap
import Copydesk.Proofs.Position.Requests
import Copydesk.Proofs.Position.Run
import Copydesk.Proofs.Position.Search
import Copydesk.Proofs.Position.Standing
import Copydesk.Proofs.Regex.Alternatives
import Copydesk.Proofs.Regex.Erase
import Copydesk.Proofs.Regex.Folded
import Copydesk.Proofs.Regex.Literal
import Copydesk.Proofs.Regex.Reach
import Copydesk.Proofs.Regex.Repeat
import Copydesk.Proofs.Regex.Shift
import Copydesk.Proofs.Regex.Surroundings.Alternation
import Copydesk.Proofs.Regex.Surroundings.Basic
import Copydesk.Proofs.Regex.Surroundings.Items
import Copydesk.Proofs.Regex.Words
import Copydesk.Proofs.Report.Batch
import Copydesk.Proofs.Report.JsonLines
import Copydesk.Proofs.Rule.Attribution
import Copydesk.Proofs.Rule.Findings
import Copydesk.Proofs.Rule.Occurrence
import Copydesk.Proofs.Rule.Options
import Copydesk.Proofs.Rule.Repetition
import Copydesk.Proofs.Rule.Style
import Copydesk.Proofs.Rule.Vocabulary
import Copydesk.Proofs.RuleSet
import Copydesk.Proofs.RuleSet.Assembly
import Copydesk.Proofs.RuleSet.Collect
import Copydesk.Proofs.RuleSet.Draft
import Copydesk.Proofs.RuleSet.Filter
import Copydesk.Proofs.RuleSet.Origin
import Copydesk.Proofs.RuleSet.Preference
import Copydesk.Proofs.Text.Decimal
import Copydesk.Proofs.Text.Line
import Copydesk.Proofs.Text.Offset
import Copydesk.Proofs.Text.Order
import Copydesk.Proofs.Text.Replace
import Copydesk.Proofs.Text.Split
import Copydesk.Proofs.Text.Trim
import Copydesk.Proofs.Walk.Detector
import Copydesk.Regex.Basic
import Copydesk.Regex.Matcher
import Copydesk.Regex.Parser
import Copydesk.Regex.Syntax
import Copydesk.Renderer
import Copydesk.Report.Basic
import Copydesk.Report.Human
import Copydesk.Report.JsonLines
import Copydesk.Report.RuleList
import Copydesk.Rule.Builtin
import Copydesk.Rule.Capitalization
import Copydesk.Rule.Check
import Copydesk.Rule.Counting
import Copydesk.Rule.Definition
import Copydesk.Rule.Pattern
import Copydesk.Rule.Style
import Copydesk.Rule.Substitution
import Copydesk.RuleSet
import Copydesk.Scope
import Copydesk.Source.Brace
import Copydesk.Source.Indented
import Copydesk.Source.Kind
import Copydesk.Source.Node
import Copydesk.Source.Query
import Copydesk.Text.Basic
import Copydesk.Text.Classes
import Copydesk.Text.Quoted
import Copydesk.Text.Sentence
import Copydesk.Tool.Basic
import Copydesk.Tool.Shell.Basic
import Copydesk.Tool.Shell.Builtin
import Copydesk.Tool.Shell.Command
import Copydesk.Tool.Shell.State
import Copydesk.Tool.Shell.Word
import Copydesk.Unicode.Case
import Copydesk.Unicode.Category
import Copydesk.Unicode.Fold
import Copydesk.Unicode.Property
import Copydesk.Unicode.SentenceClass
import Copydesk.Unicode.StepTable
import Copydesk.Walk.Basic
import Copydesk.Walk.Ignore
