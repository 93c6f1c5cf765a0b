import FluentSql.Calendar
import FluentSql.Compile.Assemble
import FluentSql.Compile.Binder
import FluentSql.Compile.Build
import FluentSql.Compile.Expand
import FluentSql.Config
import FluentSql.Error
import FluentSql.Execution.Event
import FluentSql.Execution.Executor
import FluentSql.Execution.Hook
import FluentSql.Execution.Program
import FluentSql.Execution.Query
import FluentSql.Execution.Transaction
import FluentSql.Ident
import FluentSql.Json
import FluentSql.Json.Reader
import FluentSql.Members
import FluentSql.Naming
import FluentSql.Numeral.Binary64
import FluentSql.Numeral.Digits
import FluentSql.Numeral.FloatText
import FluentSql.Numeral.Shortest
import FluentSql.Payload
import FluentSql.Proofs.AcceptedShorthand
import FluentSql.Proofs.AliasLifting
import FluentSql.Proofs.AttributeGroups
import FluentSql.Proofs.Batches
import FluentSql.Proofs.Bracketing
import FluentSql.Proofs.ByteSegments
import FluentSql.Proofs.ColumnOrder
import FluentSql.Proofs.Columns
import FluentSql.Proofs.DerivedNames
import FluentSql.Proofs.Drafts
import FluentSql.Proofs.Framing
import FluentSql.Proofs.HandledBlocks
import FluentSql.Proofs.HookProtocol
import FluentSql.Proofs.HookViews
import FluentSql.Proofs.Identifiers
import FluentSql.Proofs.InsertionOrder
import FluentSql.Proofs.Keywords
import FluentSql.Proofs.LockStep
import FluentSql.Proofs.Markers
import FluentSql.Proofs.NameWords
import FluentSql.Proofs.NamingPaths
import FluentSql.Proofs.Nesting
import FluentSql.Proofs.OptionOrder
import FluentSql.Proofs.Outcomes
import FluentSql.Proofs.Pagination
import FluentSql.Proofs.PatchFilter
import FluentSql.Proofs.Pieces
import FluentSql.Proofs.Predicates
import FluentSql.Proofs.PrimaryKeys
import FluentSql.Proofs.Punctuation
import FluentSql.Proofs.QueryTypes
import FluentSql.Proofs.QuotedText
import FluentSql.Proofs.References
import FluentSql.Proofs.Relexing
import FluentSql.Proofs.Runs
import FluentSql.Proofs.Scanning
import FluentSql.Proofs.Shorthand
import FluentSql.Proofs.StringLiterals
import FluentSql.Proofs.Substitution
import FluentSql.Proofs.TableLayout
import FluentSql.Proofs.Truncation
import FluentSql.Proofs.Variants
import FluentSql.Proofs.WellFormed
import FluentSql.Record
import FluentSql.Record.Attribute
import FluentSql.Record.Declaration
import FluentSql.Schema.Column
import FluentSql.Schema.Key
import FluentSql.Schema.Literal
import FluentSql.Schema.Table
import FluentSql.Statement.Basic
import FluentSql.Statement.Clause
import FluentSql.Statement.Describe
import FluentSql.Statement.Fluent
import FluentSql.Statement.Kind
import FluentSql.Statement.Predicate
import FluentSql.Statement.Shorthand
import FluentSql.Template.Segment
import FluentSql.Text.Alphanumeric
import FluentSql.Text.Blank
import FluentSql.Text.CaseTable
import FluentSql.Text.Escaped
import FluentSql.Text.LetterCase
import FluentSql.Text.Printable
import FluentSql.Text.Truncate
import FluentSql.Toml.Basic
import FluentSql.Toml.Reader
import FluentSql.Toml.Scalar
import FluentSql.Value
