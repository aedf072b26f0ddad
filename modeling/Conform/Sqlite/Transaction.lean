import Conform.Error
import Conform.Sql.Statement

/-! Rebuilding a table in one transaction. Foreign keys are not enforced meanwhile, and checked
once before the end. The channel is whatever performs the commands, and may fail at any of them. -/
namespace Conform.Sqlite

inductive Command where
  | enforceForeignKeys (on : Bool)
  | begin
  | commit
  | rollback
  | statement (s : Sql.Statement)
  /-- Counts the missing parents of the rows of a table. -/
  | checkForeignKeys (table : String)
  deriving DecidableEq, Repr

abbrev Command.Answer : Command → Type
  | enforceForeignKeys _ => Unit
  | begin => Unit
  | commit => Unit
  | rollback => Unit
  | statement _ => Unit
  | checkForeignKeys _ => Nat

structure Channel (σ : Type) where
  perform : (c : Command) → σ → Except Failure c.Answer × σ

/-- The text of the check. -/
def foreignKeyQuery (table : String) : String :=
  "PRAGMA foreign_key_check(" ++ Sql.quote table ++ ")"

namespace Channel

variable {σ : Type}

/-- Performs a command; `wrap` makes an error of its failure. -/
def send (ch : Channel σ) (c : Command) (wrap : Failure → Error) :
    ExceptT Error (StateM σ) c.Answer := fun s =>
  let reply := ch.perform c s
  (reply.1.mapError wrap, reply.2)

/-- Performs statements in order up to the first that fails. -/
def sendAll (ch : Channel σ) : List Sql.Statement → ExceptT Error (StateM σ) Unit
  | [] => return
  | s :: rest => do
    ch.send (.statement s) (.ofStatement s.sql)
    ch.sendAll rest

/-- Rolls back what is open, and fails. -/
def abandon (ch : Channel σ) (e : Error) : ExceptT Error (StateM σ) α := fun s =>
  (.error e, (ch.perform .rollback s).2)

/-- Performs the statements in one transaction, which is given up at the first failure, or if a
row of the table then references a missing parent. -/
def transact (ch : Channel σ) (table : String) (statements : List Sql.Statement) :
    ExceptT Error (StateM σ) Unit := do
  ch.send .begin .database
  let missing ← tryCatch (do
    ch.sendAll statements
    ch.send (.checkForeignKeys table) (.ofStatement (foreignKeyQuery table))) ch.abandon
  if 0 < missing then
    ch.send .rollback .database
    throw (.violation (foreignKeyQuery table)
      s!"{missing} row(s) of {table} reference missing parent rows")
  tryCatch (ch.send .commit .database) ch.abandon

/-- Performs the statements in one transaction while foreign keys are not enforced. -/
def rebuild (ch : Channel σ) (table : String) (statements : List Sql.Statement) :
    ExceptT Error (StateM σ) Unit := do
  ch.send (.enforceForeignKeys false) .database
  fun s =>
    let (result, s) := ch.transact table statements s
    let (restored, s) := ch.send (.enforceForeignKeys true) .database s
    (result.bind fun _ => restored, s)

end Channel

end Conform.Sqlite
