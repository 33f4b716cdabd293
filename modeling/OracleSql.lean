import OracleSql.Binary64.Basic
import OracleSql.Binary64.Layout
import OracleSql.Binary64.Reader
import OracleSql.Binary64.Shortest
import OracleSql.Calendar
import OracleSql.ColumnList.Modifier
import OracleSql.ColumnList.Parser
import OracleSql.CommandLine.Arguments
import OracleSql.CommandLine.Files
import OracleSql.CommandLine.Listing
import OracleSql.CommandLine.Run
import OracleSql.Compile
import OracleSql.Config
import OracleSql.ConfigFile
import OracleSql.Descriptor.Config
import OracleSql.Descriptor.OutValue
import OracleSql.Descriptor.Query
import OracleSql.Descriptor.Schema
import OracleSql.Descriptor.Value
import OracleSql.Descriptor.Write
import OracleSql.Dictionary.Query
import OracleSql.Dictionary.Report
import OracleSql.Dictionary.Row
import OracleSql.Error
import OracleSql.Identifier.Basic
import OracleSql.Identifier.Generated
import OracleSql.Identifier.Shorten
import OracleSql.Json.Basic
import OracleSql.Json.Fields
import OracleSql.Json.Number
import OracleSql.Json.Printer
import OracleSql.Json.Reader
import OracleSql.Literal
import OracleSql.Main
import OracleSql.Options
import OracleSql.Procedure.Basic
import OracleSql.Procedure.Compile
import OracleSql.Proofs.ColumnList.Modifiers
import OracleSql.Proofs.ColumnList.Positions
import OracleSql.Proofs.ColumnList.Reading
import OracleSql.Proofs.ColumnList.RoundTrip
import OracleSql.Proofs.ColumnList.Written
import OracleSql.Proofs.Condition.Atoms
import OracleSql.Proofs.Condition.Compiled
import OracleSql.Proofs.Condition.Fragments
import OracleSql.Proofs.Condition.Lists
import OracleSql.Proofs.Condition.Meaning
import OracleSql.Proofs.Condition.Names
import OracleSql.Proofs.Condition.Nesting
import OracleSql.Proofs.Condition.Reader
import OracleSql.Proofs.Condition.Rows
import OracleSql.Proofs.Condition.Subqueries
import OracleSql.Proofs.Condition.Tokens
import OracleSql.Proofs.Descriptor.Config
import OracleSql.Proofs.Descriptor.Query
import OracleSql.Proofs.Descriptor.Record
import OracleSql.Proofs.Descriptor.RoundTrip
import OracleSql.Proofs.Descriptor.Schema
import OracleSql.Proofs.Descriptor.Value
import OracleSql.Proofs.Descriptor.Write
import OracleSql.Proofs.Dictionary.Indexes
import OracleSql.Proofs.Dictionary.KeyCase
import OracleSql.Proofs.Identifier.Composing
import OracleSql.Proofs.Identifier.Levels
import OracleSql.Proofs.Identifier.LiteralFree
import OracleSql.Proofs.Identifier.Qualified
import OracleSql.Proofs.Identifier.Quotes
import OracleSql.Proofs.Identifier.References
import OracleSql.Proofs.Identifier.ReservedWords
import OracleSql.Proofs.Identifier.SelfContained
import OracleSql.Proofs.Identifier.Shortening
import OracleSql.Proofs.Procedure.Binds
import OracleSql.Proofs.Query.Alignment
import OracleSql.Proofs.Query.Collected
import OracleSql.Proofs.Query.Inlining
import OracleSql.Proofs.Query.Operators
import OracleSql.Proofs.Query.Page
import OracleSql.Proofs.Query.Probe
import OracleSql.Proofs.Query.Rules
import OracleSql.Proofs.Query.Texts
import OracleSql.Proofs.Schema.Accepted
import OracleSql.Proofs.Schema.ColumnPlaces
import OracleSql.Proofs.Schema.CommandTexts
import OracleSql.Proofs.Schema.DroppedByName
import OracleSql.Proofs.Schema.DynamicSql
import OracleSql.Proofs.Schema.FlaggedKey
import OracleSql.Proofs.Schema.FullTextNames
import OracleSql.Proofs.Schema.MarkedPlan
import OracleSql.Proofs.Schema.Names
import OracleSql.Proofs.Schema.NumberedKey
import OracleSql.Proofs.Schema.TextLiterals
import OracleSql.Proofs.Session.DrawnKeys
import OracleSql.Proofs.Session.DrawnRow
import OracleSql.Proofs.Session.Exchanges
import OracleSql.Proofs.Session.Introspection
import OracleSql.Proofs.Session.LargeObjects
import OracleSql.Proofs.Session.Locks
import OracleSql.Proofs.Session.Numbering
import OracleSql.Proofs.Session.Owner
import OracleSql.Proofs.Session.Refusals
import OracleSql.Proofs.Session.SequenceNumbers
import OracleSql.Proofs.Session.Settled
import OracleSql.Proofs.Session.TableFirst
import OracleSql.Proofs.Session.Transactions
import OracleSql.Proofs.Statement.Inlining
import OracleSql.Proofs.Statement.Lexemes
import OracleSql.Proofs.Statement.Literals
import OracleSql.Proofs.Statement.Placeholders
import OracleSql.Proofs.Text.Calendar
import OracleSql.Proofs.Text.Case
import OracleSql.Proofs.Text.Ends
import OracleSql.Proofs.Text.Reading
import OracleSql.Proofs.Write.Accepted
import OracleSql.Proofs.Write.Alignment
import OracleSql.Proofs.Write.Batch
import OracleSql.Proofs.Write.Collected
import OracleSql.Proofs.Write.Inlining
import OracleSql.Proofs.Write.Operators
import OracleSql.Proofs.Write.Outputs
import OracleSql.Proofs.Write.RawValues
import OracleSql.Proofs.Write.Rules
import OracleSql.Query.Basic
import OracleSql.Query.Compile
import OracleSql.Query.Page
import OracleSql.Schema.AutoIncrement
import OracleSql.Schema.Blueprint
import OracleSql.Schema.Column
import OracleSql.Schema.ColumnSql
import OracleSql.Schema.FullText
import OracleSql.Schema.Plan
import OracleSql.Schema.Sequence
import OracleSql.Schema.Table
import OracleSql.Session.Command
import OracleSql.Session.Connection
import OracleSql.Session.Dictionary
import OracleSql.Session.Rows
import OracleSql.Session.Schema
import OracleSql.Session.Step
import OracleSql.SessionOptions
import OracleSql.Statement
import OracleSql.Text.Alphanumeric
import OracleSql.Text.Basic
import OracleSql.Text.Blank
import OracleSql.Text.Case
import OracleSql.Text.CaseContext
import OracleSql.Text.CaseTable
import OracleSql.Toml.Basic
import OracleSql.Toml.Moment
import OracleSql.Toml.Printer
import OracleSql.Toml.Reader
import OracleSql.Toml.Scalar
import OracleSql.Value
import OracleSql.Write.Basic
import OracleSql.Write.Compile
