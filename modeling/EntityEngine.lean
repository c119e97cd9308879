import EntityEngine.Engine.Basic
import EntityEngine.Engine.Definitions
import EntityEngine.Engine.Records
import EntityEngine.Entity.Definition
import EntityEngine.Entity.Draft
import EntityEngine.Entity.Form
import EntityEngine.Entity.Identifier
import EntityEngine.Entity.Kind
import EntityEngine.Entity.Validation
import EntityEngine.Fault
import EntityEngine.Http.Address
import EntityEngine.Http.MediaType
import EntityEngine.Http.Request
import EntityEngine.Http.Response
import EntityEngine.Json.Basic
import EntityEngine.Json.Number
import EntityEngine.Json.Reading
import EntityEngine.Json.Shape
import EntityEngine.Json.Text
import EntityEngine.Main
import EntityEngine.Number.Binary64
import EntityEngine.Number.Extended
import EntityEngine.Number.Numeral
import EntityEngine.Number.Overflow
import EntityEngine.Number.Shortest
import EntityEngine.Proofs.Engine.Agreement
import EntityEngine.Proofs.Engine.Coherence
import EntityEngine.Proofs.Engine.Definitions
import EntityEngine.Proofs.Engine.Invariant
import EntityEngine.Proofs.Engine.Making
import EntityEngine.Proofs.Engine.Records
import EntityEngine.Proofs.Engine.Run
import EntityEngine.Proofs.Identifier
import EntityEngine.Proofs.Number.Numeral
import EntityEngine.Proofs.Outcome
import EntityEngine.Proofs.Registry
import EntityEngine.Proofs.Sql.Characters
import EntityEngine.Proofs.Sql.ColumnType
import EntityEngine.Proofs.Sql.Delimited
import EntityEngine.Proofs.Sql.LastColumn
import EntityEngine.Proofs.Sql.Lexing
import EntityEngine.Proofs.Sql.Locality
import EntityEngine.Proofs.Sql.Piece
import EntityEngine.Proofs.Sql.Placeholders
import EntityEngine.Proofs.Sql.Statement
import EntityEngine.Proofs.Sql.Whole
import EntityEngine.Proofs.Store.Definitions
import EntityEngine.Proofs.Store.Fit
import EntityEngine.Proofs.Store.OwnStatements
import EntityEngine.Proofs.Store.RowFrame
import EntityEngine.Proofs.Store.Schema
import EntityEngine.Proofs.Store.Uniqueness
import EntityEngine.Query.Filter
import EntityEngine.Query.Filter.Parser
import EntityEngine.Query.Literal
import EntityEngine.Query.Options
import EntityEngine.Query.Order
import EntityEngine.Query.Plan
import EntityEngine.Record.Basic
import EntityEngine.Record.Preparation
import EntityEngine.Record.Statistics
import EntityEngine.Registry
import EntityEngine.Settings
import EntityEngine.Sql.Affinity
import EntityEngine.Sql.Collation
import EntityEngine.Sql.EngineTables
import EntityEngine.Sql.Evaluation
import EntityEngine.Sql.Expression
import EntityEngine.Sql.Fault
import EntityEngine.Sql.Function
import EntityEngine.Sql.Function.Clock
import EntityEngine.Sql.Function.Format
import EntityEngine.Sql.Function.Json
import EntityEngine.Sql.Function.Text
import EntityEngine.Sql.Keyword
import EntityEngine.Sql.Like
import EntityEngine.Sql.Node
import EntityEngine.Sql.Operator
import EntityEngine.Sql.Parser
import EntityEngine.Sql.Resolution
import EntityEngine.Sql.Selection
import EntityEngine.Sql.Setting
import EntityEngine.Sql.TableSpec
import EntityEngine.Sql.TableSpec.Parser
import EntityEngine.Sql.TableText
import EntityEngine.Sql.Term
import EntityEngine.Sql.Term.Parser
import EntityEngine.Sql.Token
import EntityEngine.Sql.Value
import EntityEngine.Store.Catalog
import EntityEngine.Store.Consequence
import EntityEngine.Store.Constraint
import EntityEngine.Store.Database
import EntityEngine.Store.Declaration
import EntityEngine.Store.Definitions
import EntityEngine.Store.Documents
import EntityEngine.Store.EngineRows
import EntityEngine.Store.Estimate
import EntityEngine.Store.Path
import EntityEngine.Store.Reference
import EntityEngine.Store.RowText
import EntityEngine.Store.Rows
import EntityEngine.Store.Schema
import EntityEngine.Store.Sequence
import EntityEngine.Store.Table
import EntityEngine.Store.Write
import EntityEngine.Text.Ascii
import EntityEngine.Text.Blank
import EntityEngine.Text.CharacterRanges
import EntityEngine.Text.Quoted
import EntityEngine.Text.Utf8
import EntityEngine.Time.Calendar
import EntityEngine.Time.Rfc3339
import EntityEngine.Proofs.Query.FilterText
import EntityEngine.Proofs.Query.Parameters
import EntityEngine.Proofs.Query.TextEquality
import EntityEngine.Proofs.Engine.Ownership
import EntityEngine.Proofs.Engine.Retention
import EntityEngine.Proofs.Engine.Separation
import EntityEngine.Proofs.Engine.TextQuery
import EntityEngine.Proofs.Query.StatementText
import EntityEngine.Proofs.Engine.Paging
import EntityEngine.Proofs.Engine.Refusal
import EntityEngine.Proofs.Store.ColumnValue
import EntityEngine.Proofs.Store.Versions
import EntityEngine.Proofs.Engine.Versions
import EntityEngine.Proofs.Engine.Documents
import EntityEngine.Proofs.Json.RoundTrip
import EntityEngine.Proofs.Store.RowValues
import EntityEngine.Proofs.Engine.Rows
import EntityEngine.Proofs.Time.StoredReading
import EntityEngine.Proofs.Store.EngineRows
import EntityEngine.Proofs.Engine.ReadBack
import EntityEngine.Proofs.Engine.Recovery
import EntityEngine.Proofs.Sql.StoredValue
import EntityEngine.Proofs.Store.KeptRows
import EntityEngine.Proofs.Store.RowKeys
import EntityEngine.Proofs.Store.OneRow
import EntityEngine.Proofs.Store.RowAddress
import EntityEngine.Proofs.Engine.RowKeys
import EntityEngine.Proofs.Engine.RowAddress
import EntityEngine.Proofs.Query.PageNumbers
import EntityEngine.Proofs.Query.ColumnNames
import EntityEngine.Proofs.Store.RowAnswer
import EntityEngine.Proofs.Engine.RowAnswer
import EntityEngine.Proofs.Store.Layout
import EntityEngine.Proofs.Store.Sequence
import EntityEngine.Proofs.Engine.Deletion
import EntityEngine.Proofs.Sql.Pattern
import EntityEngine.Proofs.Query.TextTest
import EntityEngine.Proofs.Engine.Listing
import EntityEngine.Proofs.Record.Preparation
import EntityEngine.Proofs.Store.NullRefusal
import EntityEngine.Proofs.Store.FieldNull
import EntityEngine.Proofs.Engine.NotNull
import EntityEngine.Proofs.Store.IndexName
import EntityEngine.Proofs.Engine.Indexes
import EntityEngine.Proofs.Sql.WrittenNumber
import EntityEngine.Proofs.Json.Reread
import EntityEngine.Proofs.Store.ShownValues
import EntityEngine.Proofs.Query.Comparisons
import EntityEngine.Proofs.Engine.Comparisons
import EntityEngine.Proofs.Engine.Operands
import EntityEngine.Proofs.Engine.Projection
import EntityEngine.Proofs.Time.ShownText
import EntityEngine.Proofs.Engine.DocumentWrites
import EntityEngine.Proofs.Engine.ShownTimes
import EntityEngine.Proofs.Text.Parts
import EntityEngine.Proofs.Query.OrderGrammar
import EntityEngine.Proofs.Engine.FieldReplacement
import EntityEngine.Proofs.Engine.Fitting
import EntityEngine.Proofs.Engine.RowIds
import EntityEngine.Proofs.Registry.History
import EntityEngine.Proofs.Time.StoredText
import EntityEngine.Proofs.Sql.Quoting
import EntityEngine.Proofs.Query.FilterFaults
import EntityEngine.Proofs.Record.Statistics
