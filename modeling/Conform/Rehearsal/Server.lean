import Conform.Postgres.Server
import Conform.Text.Scan

/-! A PostgreSQL server for rehearsals. It answers catalog queries from a given catalog, accepts
every statement without effect, fails where it is told to, and writes down what it was sent. -/
namespace Conform.Rehearsal

open Postgres

structure CatalogTable where
  name : String
  columns : List ColumnRow := []
  key : List KeyRow := []
  indexes : List IndexRow := []
  foreignKeys : List ForeignKeyRow := []
  rows : Nat := 0

/-- What happens to a message that holds `part`: it is refused, or the connection closes. -/
structure Interruption where
  part : String
  closes : Bool

structure ServerState where
  catalog : List CatalogTable := []
  interruptions : List Interruption := []
  sent : List String := []
  closed : Bool := false

/-- A request as it is written down. -/
def message (r : Request) : String :=
  let query (name : String) (table : String) : String :=
    if table.isEmpty then "catalog " ++ name else "catalog " ++ name ++ " " ++ table
  match r with
  | .tables => "catalog tables"
  | .tableExists table => query "exists" table
  | .primaryKey table => query "primary_key" table
  | .columns table => query "columns" table
  | .indexes table => query "indexes" table
  | .foreignKeys table => query "foreign_keys" table
  | r => r.sql?.getD ""

namespace ServerState

def table? (s : ServerState) (name : String) : Option CatalogTable :=
  s.catalog.find? (·.name == name)

def answerOf (s : ServerState) : (r : Request) → r.Answer
  | .tables => (s.catalog.map (·.name)).mergeSort fun a b => !decide (b < a)
  | .tableExists table => (s.table? table).isSome
  | .primaryKey table => (s.table? table).elim [] (·.key)
  | .columns table => (s.table? table).elim [] (·.columns)
  | .indexes table => (s.table? table).elim [] (·.indexes)
  | .foreignKeys table => (s.table? table).elim [] (·.foreignKeys)
  | .count table => (s.table? table).elim 0 (·.rows)
  | .statement _ => ()
  | .begin => ()
  | .deferConstraints => ()
  | .commit => ()
  | .rollback => ()

/-- Takes a message down and meets the first interruption that it holds. Nothing more is sent
over a closed connection, and a rollback is not written down. -/
def receive (s : ServerState) (message : String) : Option Failure × ServerState :=
  if s.closed then (some (.io "closed"), s)
  else if message = "ROLLBACK" then (none, s)
  else
    let s := { s with sent := s.sent ++ [message] }
    match s.interruptions.find? fun i => Text.contains i.part.toList message.toList with
    | none => (none, s)
    | some i => if i.closes then (some (.io "closed"), { s with closed := true })
      else (some (.reported "refused"), s)

end ServerState

/-- The server that plays its state. -/
def server : Server ServerState where
  answer r s := match s.receive (message r) with
    | (some failure, s) => (.error failure, s)
    | (none, s) => (.ok (s.answerOf r), s)

end Conform.Rehearsal
