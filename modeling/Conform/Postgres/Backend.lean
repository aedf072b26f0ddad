import Conform.Postgres.Server
import Conform.Session

/-! The backend that talks to a PostgreSQL server. -/
namespace Conform.Postgres

namespace Server

variable {σ : Type}

/-- Sends a request; `wrap` makes an error of its failure. -/
def send (server : Server σ) (r : Request) (wrap : Failure → Error) :
    ExceptT Error (StateM σ) r.Answer := fun s =>
  let reply := server.answer r s
  (reply.1.mapError wrap, reply.2)

/-- Sends a request whose failure is no refusal of a statement. -/
def ask (server : Server σ) (r : Request) : ExceptT Error (StateM σ) r.Answer :=
  server.send r .database

def execute (server : Server σ) (s : Sql.Statement) : ExceptT Error (StateM σ) Unit :=
  server.send (.statement s) (.ofStatement s.sql)

def readTable (server : Server σ) (name : String) : ExceptT Error (StateM σ) Live.Table := do
  let key ← server.ask (.primaryKey name)
  let columns ← server.ask (.columns name)
  let indexes ← server.ask (.indexes name)
  let foreignKeys ← server.ask (.foreignKeys name)
  return Postgres.readTable name key columns indexes foreignKeys

def existingSchema (server : Server σ) : ExceptT Error (StateM σ) Live.Schema := do
  let names ← server.ask .tables
  return .ofList (← names.mapM server.readTable)

def existingTable (server : Server σ) (name : String) :
    ExceptT Error (StateM σ) (Option Live.Table) := do
  if ← server.ask (.tableExists name) then return some (← server.readTable name)
  else return none

/-- Sends statements in order up to the first that fails. -/
def executeAll (server : Server σ) : List Sql.Statement → ExceptT Error (StateM σ) Unit
  | [] => return
  | s :: rest => do
    server.execute s
    server.executeAll rest

/-- Rolls back what is open, and fails. -/
def abandon (server : Server σ) (e : Error) : ExceptT Error (StateM σ) α := fun s =>
  (.error e, (server.answer .rollback s).2)

/-- Sends the statements in one transaction, with all constraints that can wait checked at its
end. -/
def rebuild (server : Server σ) (statements : List Sql.Statement) :
    ExceptT Error (StateM σ) Unit := do
  server.ask .begin
  tryCatch (do
    server.ask .deferConstraints
    server.executeAll statements
    server.send .commit (.ofStatement "COMMIT")) server.abandon

/-- A statement that creates `target` like `table`; the server works out the columns. -/
def previousDefinition (table target : String) : String :=
  "CREATE TABLE " ++ Sql.quote target ++ " (LIKE " ++ Sql.quote table ++ " INCLUDING ALL)"

end Server

def backend (server : Server σ) : Backend σ where
  dialect := .postgres
  answer
    | .existingSchema => server.existingSchema
    | .existingTable name => server.existingTable name
    | .execute s => server.execute s
    | .rowCount table => server.ask (.count table)
    | .previousDefinition table target => fun s => (.ok (Server.previousDefinition table target), s)
    | .executeRebuild _ statements => server.rebuild statements

end Conform.Postgres
