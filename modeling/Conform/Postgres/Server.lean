import Conform.Error
import Conform.Postgres.Catalog
import Conform.Sql.Statement

/-! What is asked of a PostgreSQL server. -/
namespace Conform.Postgres

inductive Request where
  /-- The names of all tables. -/
  | tables
  | tableExists (table : String)
  | primaryKey (table : String)
  | columns (table : String)
  | indexes (table : String)
  | foreignKeys (table : String)
  | count (table : String)
  | statement (s : Sql.Statement)
  | begin
  | deferConstraints
  | commit
  | rollback
  deriving DecidableEq, Repr

abbrev Request.Answer : Request → Type
  | tables => List String
  | tableExists _ => Bool
  | primaryKey _ => List KeyRow
  | columns _ => List ColumnRow
  | indexes _ => List IndexRow
  | foreignKeys _ => List ForeignKeyRow
  | count _ => Nat
  | statement _ => Unit
  | begin => Unit
  | deferConstraints => Unit
  | commit => Unit
  | rollback => Unit

/-- The text of a count. -/
def countQuery (table : String) : String := "SELECT COUNT(*) AS n FROM " ++ Sql.quote table

/-- The statement that a request sends, if it is no query of the catalog. -/
def Request.sql? : Request → Option String
  | statement s => some s.sql
  | count table => some (countQuery table)
  | begin => some "BEGIN"
  | deferConstraints => some "SET CONSTRAINTS ALL DEFERRED"
  | commit => some "COMMIT"
  | rollback => some "ROLLBACK"
  | tables | tableExists _ | primaryKey _ | columns _ | indexes _ | foreignKeys _ => none

/-- A server with states of type `σ`. -/
structure Server (σ : Type) where
  answer : (r : Request) → σ → Except Failure r.Answer × σ

end Conform.Postgres
