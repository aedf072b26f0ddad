import Conform.Text.Blank
import Conform.Text.Case
import Conform.Text.Percent
import Conform.Text.Quoted
import Conform.Text.Scan
import Conform.Text.Utf8
import Conform.Text.Word
import Conform.Number.Decimal
import Conform.Json.Printer
import Conform.Json.Parser
import Conform.Schema.Order
import Conform.Schema.Source
import Conform.Schema.Document
import Conform.Dialect.Sqlite
import Conform.Dialect.Postgres
import Conform.Plan
import Conform.Gate
import Conform.Rehearsal.Backend
import Conform.Rehearsal.Server
import Conform.Rehearsal.Workspace
import Conform.Postgres.Backend
import Conform.Location
import Conform.Sqlite.Connection
import Conform.Sqlite.Location
import Conform.Sqlite.Storage
import Conform.Main
import Conform.Number.Extended
import Conform.Number.Scaled
import Conform.Number.Written
import Conform.Sqlite.Function.Format
import Conform.Sqlite.Moment
import Conform.Sqlite.Moment.Reader
import Conform.Sqlite.Moment.Printer
import Conform.Sqlite.Document
import Conform.Sqlite.Document.Reader
import Conform.Sqlite.Function.Text
import Conform.Sqlite.Document.Binary
import Conform.Sqlite.Document.Path
import Conform.Sqlite.Function.Basic
import Conform.Sqlite.Function.Document
import Conform.Sqlite.Function.Moment
import Conform.Sqlite.Function.Number
import Conform.Sqlite.Function
import Conform.Proofs.Session
import Conform.Proofs.Run.Gated
import Conform.Proofs.Run.Honest
import Conform.Proofs.Schema.Order
import Conform.Proofs.Run.Fatal
import Conform.Proofs.Plan.Effect
import Conform.Proofs.Plan.Unchanged
import Conform.Proofs.Plan.Converges
import Conform.Proofs.Plan.Ability
import Conform.Proofs.Plan.Retyping
import Conform.Proofs.Plan.Kept
import Conform.Proofs.Plan.Named
import Conform.Proofs.Schema.Source
import Conform.Proofs.Plan.Unique
import Conform.Proofs.Rebuild.Rows
import Conform.Proofs.Json.ReadBack
import Conform.Proofs.Schema.Document
import Conform.Proofs.Schema.Normal
import Conform.Proofs.Rebuild.Others
import Conform.Proofs.Schema.SecondPass
import Conform.Proofs.Schema.Accepted
import Conform.Proofs.Rebuild.Count
import Conform.Proofs.Run.Account
import Conform.Proofs.Run.Dry
import Conform.Proofs.Run.Isolated
import Conform.Proofs.Run.Reported
import Conform.Proofs.Sqlite.Transaction
import Conform.Proofs.Sqlite.ReadBack
import Conform.Proofs.Postgres.ReadBack
import Conform.Proofs.Plan.ReadBack
import Conform.Proofs.Postgres.Effect
import Conform.Proofs.Run.Cascade
import Conform.Proofs.Schema.Folded
import Conform.Proofs.Plan.IndexNames
import Conform.Proofs.Plan.ConstraintNames
import Conform.Proofs.Plan.References
import Conform.Proofs.Live.Schema
import Conform.Proofs.Text.Letter
import Conform.Proofs.Sqlite.Visible
import Conform.Proofs.Sqlite.StoredDefinition
import Conform.Proofs.Sql.Lexeme
import Conform.Proofs.Sql.Written
import Conform.Proofs.Sql.Reading
import Conform.Proofs.Sql.Told
import Conform.Proofs.Dialect.Quotes
import Conform.Proofs.Run.Issued
import Conform.Proofs.Sqlite.RowOrder
import Conform.Proofs.Text.Blank
import Conform.Proofs.Text.Search
import Conform.Proofs.Schema.Layout
import Conform.Proofs.Schema.Canonical
import Conform.Proofs.Schema.Attribute
import Conform.Proofs.Schema.ReadBack
import Conform.Proofs.Schema.Comment
import Conform.Proofs.Schema.Declared
import Conform.Proofs.Schema.Ignored
import Conform.Proofs.Schema.Arrangement
import Conform.Proofs.AnyOrder
import Conform.Proofs.Schema.Reordered
import Conform.Proofs.Schema.Derived
import Conform.Proofs.Plan.CatalogOrder
import Conform.Proofs.Gate
import Conform.Proofs.Text.Offset
import Conform.Proofs.Schema.Offset
import Conform.Proofs.Schema.Marker
