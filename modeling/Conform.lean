import Conform.Config.Basic
import Conform.Config.File
import Conform.Config.Path
import Conform.Constraint
import Conform.Environment
import Conform.Fault
import Conform.Journal
import Conform.Json.Extraction
import Conform.Json.Reader
import Conform.Logging.Basic
import Conform.Logging.Directive
import Conform.Logging.Template
import Conform.Metrics
import Conform.ModelOutput
import Conform.Number.Digits
import Conform.Number.Double
import Conform.Number.Notation
import Conform.Number.Numeral
import Conform.Number.Shortest
import Conform.Number.Whole
import Conform.Pattern.Basic
import Conform.Pattern.Expression
import Conform.Pattern.Item
import Conform.Pattern.Reader
import Conform.Pattern.Search
import Conform.Pattern.Token
import Conform.Proofs.Accounts
import Conform.Proofs.Admission
import Conform.Proofs.Alternatives
import Conform.Proofs.Assembly
import Conform.Proofs.Attainment
import Conform.Proofs.BasePath
import Conform.Proofs.Canonical
import Conform.Proofs.Choices
import Conform.Proofs.Closing
import Conform.Proofs.Codes
import Conform.Proofs.CompactForm
import Conform.Proofs.Components
import Conform.Proofs.Conformity
import Conform.Proofs.Conversions
import Conform.Proofs.Counters
import Conform.Proofs.Decimals
import Conform.Proofs.Decoding
import Conform.Proofs.Documents
import Conform.Proofs.Embedding
import Conform.Proofs.Enforcement
import Conform.Proofs.Evidence
import Conform.Proofs.Exactness
import Conform.Proofs.Expressibility
import Conform.Proofs.Extension
import Conform.Proofs.Faults
import Conform.Proofs.FieldOrder
import Conform.Proofs.Flattening
import Conform.Proofs.FormFlaws
import Conform.Proofs.Grammar
import Conform.Proofs.Groupings
import Conform.Proofs.Idempotence
import Conform.Proofs.Inference
import Conform.Proofs.Inhabitation
import Conform.Proofs.ItemBounds
import Conform.Proofs.Keys
import Conform.Proofs.Limits
import Conform.Proofs.Locations
import Conform.Proofs.Lookups
import Conform.Proofs.Numerals
import Conform.Proofs.Payload
import Conform.Proofs.PlainData
import Conform.Proofs.Portability
import Conform.Proofs.Range
import Conform.Proofs.Reading
import Conform.Proofs.Rebuilding
import Conform.Proofs.Recording
import Conform.Proofs.Refinding
import Conform.Proofs.Refusals
import Conform.Proofs.Relabelling
import Conform.Proofs.Rerooting
import Conform.Proofs.Retention
import Conform.Proofs.Reviews
import Conform.Proofs.Scalars
import Conform.Proofs.Scan
import Conform.Proofs.Schedules
import Conform.Proofs.SelfCheck
import Conform.Proofs.Series
import Conform.Proofs.SingleValues
import Conform.Proofs.Soundness
import Conform.Proofs.Stages
import Conform.Proofs.Strictness
import Conform.Proofs.Summaries
import Conform.Proofs.SymbolTables
import Conform.Proofs.Tally
import Conform.Proofs.Verdicts
import Conform.Schema.Basic
import Conform.Schema.Definition
import Conform.Schema.Document
import Conform.Schema.Inference
import Conform.SymbolTable
import Conform.Text.Casing
import Conform.Text.CharSet
import Conform.Text.CharacterName
import Conform.Text.Classes
import Conform.Text.Identifier
import Conform.Text.Lowercase
import Conform.Text.Names.Alphabets
import Conform.Text.Names.EastAsian
import Conform.Text.Names.Historic
import Conform.Text.Names.Pictographs
import Conform.Text.Names.Symbols
import Conform.Text.Printable
import Conform.Text.Quoted
import Conform.TypeSpec.Check
import Conform.TypeSpec.Coercion
import Conform.TypeSpec.Flaw
import Conform.TypeSpec.Form
import Conform.Validation.Basic
import Conform.Validation.Hook
import Conform.Validation.Schedule
import Conform.Validation.Series
import Conform.Validation.Single
import Conform.Validation.Trace
import Conform.Value.Access
import Conform.Value.Basic
import Conform.Value.Copy
import Conform.Value.Equality
import Conform.Value.Literal
import Conform.Value.Order
import Conform.Violation.Basic
import Conform.Violation.Format
import Conform.Violation.Portable
import Conform.Violation.Summary
import Conform.Yaml.Document
import Conform.Yaml.Node
import Conform.Yaml.Scalar
import Conform.Yaml.Tag
import Conform.Yaml.Token
