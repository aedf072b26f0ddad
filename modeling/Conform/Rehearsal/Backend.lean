import Conform.Reconcile
import Conform.Text.Scan

/-! A backend for rehearsals. It answers from a script, changes nothing, fails where the script
says so, and writes down every call. -/
namespace Conform.Rehearsal

/-- The calls as a script names them. A rebuild makes calls of its own. -/
inductive CallKind where
  | existingSchema
  | existingTable
  | execute
  | rowCount
  | previousDefinition
  | beginRebuild
  | commitRebuild
  deriving DecidableEq, Repr

def CallKind.name : CallKind → String
  | existingSchema => "existing_schema"
  | existingTable => "existing_table"
  | execute => "execute"
  | rowCount => "row_count"
  | previousDefinition => "previous_definition"
  | beginRebuild => "begin_rebuild"
  | commitRebuild => "commit_rebuild"

/-- Calls of the name whose argument holds `part` fail. -/
structure Mishap where
  call : String
  part : String
  failure : Failure
  deriving DecidableEq, Repr

structure Script where
  tables : List Live.Table := []
  rows : List (String × Nat) := []
  mishaps : List Mishap := []

/-- The script and the calls made so far. -/
structure Stage where
  script : Script
  calls : List String := []

def Script.mishap? (s : Script) (kind : CallKind) (argument : String) : Option Failure :=
  (s.mishaps.find? fun m =>
    m.call == kind.name && Text.contains m.part.toList argument.toList).map (·.failure)

/-- Writes a call down and meets its mishap, if the script has one for it. -/
def Stage.enter (s : Stage) (kind : CallKind) (argument : String) : Option Failure × Stage :=
  let line := if argument.isEmpty then kind.name else kind.name ++ " " ++ argument
  (s.script.mishap? kind argument, { s with calls := s.calls ++ [line] })

/-- One call with its answer, unless it fails. -/
def Stage.perform (s : Stage) (kind : CallKind) (argument : String) (answer : α) :
    Except Error α × Stage :=
  match s.enter kind argument with
  | (some failure, s) => (.error (.database failure), s)
  | (none, s) => (.ok answer, s)

def Stage.execute (s : Stage) (statement : Sql.Statement) : Except Error Unit × Stage :=
  match s.enter .execute statement.sql with
  | (some failure, s) => (.error (.ofStatement statement.sql failure), s)
  | (none, s) => (.ok (), s)

def Stage.executeAll (s : Stage) : List Sql.Statement → Except Error Unit × Stage
  | [] => (.ok (), s)
  | statement :: rest => match s.execute statement with
    | (.ok (), s) => s.executeAll rest
    | failed => failed

def Stage.rebuild (s : Stage) (table : String) (statements : List Sql.Statement) :
    Except Error Unit × Stage :=
  match s.perform .beginRebuild table () with
  | (.ok (), s) => match s.executeAll statements with
    | (.ok (), s) => s.perform .commitRebuild table ()
    | failed => failed
  | failed => failed

/-- The backend that plays the script in a dialect. -/
def backend (dialect : Dialect) : Backend Stage where
  dialect
  answer
    | .existingSchema, s => s.perform .existingSchema "" (Live.Schema.ofList s.script.tables)
    | .existingTable name, s =>
      s.perform .existingTable name (s.script.tables.find? (·.name == name))
    | .execute statement, s => s.execute statement
    | .rowCount table, s => s.perform .rowCount table ((s.script.rows.lookup table).getD 0)
    | .previousDefinition table target, s =>
      s.perform .previousDefinition (table ++ " " ++ target)
        ("PREVIOUS " ++ table ++ " AS " ++ target)
    | .executeRebuild table statements, s => s.rebuild table statements

end Conform.Rehearsal
