import Conform.Session
import Conform.Sqlite.Listing
import Conform.Sqlite.Transaction

/-! A connection to a database, with at most one transaction open, and the backend that talks
through it. The connection keeps its queries. A kept query still expects the columns that its table
had at first, and the first row with more of them than that costs the connection. -/
namespace Conform.Sqlite

structure Connection where
  database : Database := {}
  /-- The state to which an open transaction rolls back. -/
  saved : Option Database := none
  enforced : Bool := true
  /-- Is every change refused? -/
  readOnly : Bool := false
  /-- The kept queries by the name of their table as they wrote it, each with its columns. -/
  queries : List (String × Nat) := []
  isLost : Bool := false

/-- What a refusal is to the caller. -/
def Refusal.failure (r : Refusal) : Failure := .reported r.message

/-- Does the statement find everything as it would make it? -/
def Database.alreadyHas (db : Database) : Sql.Statement → Bool
  | .createTable table true => (db.table? table.name).isSome
  | .dropTable name true _ => (db.table? name).isNone
  | .dropIndex name true => (db.index? name).isNone
  | .comment _ => true
  | _ => false

namespace Connection

/-- Executes a single statement. -/
def executeOne (s : Connection) (statement : Sql.Statement) : Except Failure Unit × Connection :=
  if s.readOnly && !s.database.alreadyHas statement then (.error Refusal.readOnly.failure, s)
  else match s.database.execute s.enforced statement with
    | .ok database => (.ok (), { s with database })
    | .error refusal => (.error refusal.failure, s)

/-- Executes statements in order up to the first that is refused. -/
def executeAll (s : Connection) : List Sql.Statement → Except Failure Unit × Connection
  | [] => (.ok (), s)
  | statement :: rest => match s.executeOne statement with
    | (.ok (), s) => s.executeAll rest
    | failed => failed

/-- Executes a statement. A given text may hold several. -/
def execute (s : Connection) : Sql.Statement → Except Failure Unit × Connection
  | .given text => s.executeAll ((statementsOf text).map .given)
  | statement => s.executeOne statement

/-- What the connection does, unless it has been lost. -/
def guarded (s : Connection) (act : Connection → Except Failure α × Connection) :
    Except Failure α × Connection :=
  if s.isLost then (.error .workerCrashed, s) else act s

/-- Inserts a row that gives a value for every column but the generated ones. -/
def insert (s : Connection) (table : String) (values : List Value) :
    Except Failure Unit × Connection :=
  s.guarded fun s => match s.database.insert s.enforced table values with
    | .ok database => (.ok (), { s with database })
    | .error refusal => (.error refusal.failure, s)

/-- All rows of a table. The connection is lost as soon as a row has more columns than expected,
and then no rows are answered. -/
def rows (s : Connection) (table : String) : Except Failure (List (List Value)) × Connection :=
  s.guarded fun s => match s.database.rows table with
    | .error refusal => (.error refusal.failure, s)
    | .ok rows => match s.database.width? table, s.queries.lookup table with
      | none, _ => (.ok rows, s)
      | some width, none => (.ok rows, { s with queries := (table, width) :: s.queries })
      | some width, some expected =>
        if expected < width && !rows.isEmpty then (.ok [], { s with isLost := true })
        else (.ok rows, s)

/-- Commands to the database of the connection. Enforcement does not change while a transaction
is open. -/
def channel : Channel Connection where
  perform
    | .enforceForeignKeys on, s =>
      (.ok (), if s.saved.isSome then s else { s with enforced := on })
    | .begin, s => match s.saved with
      | none => (.ok (), { s with saved := some s.database })
      | some _ => (.error (.reported "cannot start a transaction within a transaction"), s)
    | .commit, s => match s.saved with
      | some _ => (.ok (), { s with saved := none })
      | none => (.error (.reported "cannot commit - no transaction is active"), s)
    | .rollback, s => match s.saved with
      | some database => (.ok (), { s with database, saved := none })
      | none => (.error (.reported "cannot rollback - no transaction is active"), s)
    | .statement statement, s => s.execute statement
    | .checkForeignKeys table, s =>
      ((s.database.checkForeignKeys table).mapError (·.failure), s)

end Connection

/-- What a connection that is not lost answers to a call. -/
def Connection.answer : (c : Call) → Connection → c.Result × Connection
  | .existingSchema, s => (.ok s.database.catalog.existingSchema, s)
  | .existingTable name, s => (.ok (s.database.catalog.existingTable name), s)
  | .execute statement, s =>
    let (result, s) := s.execute statement
    (result.mapError (.ofStatement statement.sql), s)
  | .rowCount table, s =>
    ((s.database.rowCount table).mapError fun r => .database r.failure, s)
  | .previousDefinition table target, s => (s.database.catalog.previousDefinition table target, s)
  | .executeRebuild table statements, s => Connection.channel.rebuild table statements s

def backend : Backend Connection where
  dialect := .sqlite
  answer c s := if s.isLost then (.error (.database .workerCrashed), s) else s.answer c

end Conform.Sqlite
