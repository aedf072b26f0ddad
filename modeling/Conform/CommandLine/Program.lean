import Conform.CommandLine.Arguments
import Conform.CommandLine.World
import Conform.Location
import Conform.Reconcile
import Conform.Schema.Document
import Conform.Schema.Source
import Conform.Sqlite.Connection
import Conform.Sqlite.Location
import Conform.Sqlite.Storage

/-! The program of the command line, in any world. -/
namespace Conform.CommandLine

/-- How the program is called. -/
def usage : String := "Usage: conform [SWITCHES] COMMAND

Brings SQLite and PostgreSQL databases in line with a declared schema.

Commands:
  push    bring the database in line with the schema
            --force-reset       drop and recreate every declared table first
            -y, --yes           answer yes to every question
            --dry-run           show the statements and execute none
  dump    write the schema as its two documents
            -o, --out-dir DIR   directory to write to, by default the current one
  help    show this text

Switches:
  -d, --database URL   file or connection string, by default a database in memory
      --debug          say more
  -s, --schema FILE    schema text
      --tables FILE    document with the table definitions
      --enums FILE     document with the enumerations
  -h, --help           show this text
  -V, --version        show this text
"

/-- A message with what is behind it. -/
def withCause (message cause : String) : String := message ++ "\n\nCaused by:\n    " ++ cause

variable {m : Type → Type} [Monad m]

namespace World

/-- Does something with files; `wrap` says what failed. -/
def attempt (wrap : FileFault → String) (action : m (Except FileFault α)) : ExceptT String m α :=
  ExceptT.mk do return (← action).mapError wrap

def loadSchema (world : World m) : SchemaSource → ExceptT String m Schema.Model
  | .unstated => throw "No schema given: use --schema or --tables with --enums"
  | .text path => do
    let failed := withCause ("Failed to load schema " ++ path)
    let text ← attempt (fun fault => failed ("IO error: " ++ fault.message)) (world.readFile path)
    ExceptT.mk (pure ((Schema.Model.ofSource text).mapError fun fault =>
      failed (Error.malformedSchema fault).message))
  | .documents tables enums => do
    let failed := withCause ("Failed to load schema " ++ tables ++ " / " ++ enums)
    let read (path : String) :=
      attempt (fun fault => failed ("IO error: " ++ fault.message)) (world.readFile path)
    let tableText ← read tables
    let enumText ← read enums
    ExceptT.mk (pure ((Schema.Model.ofDocuments tableText enumText).mapError fun fault =>
      failed (Error.malformedSchema fault).message))

/-- The failure to open a database. -/
def openingFailure (code : Nat) (finding : String) : String :=
  (Error.database (Sqlite.openingFailure code finding)).message

def cannotOpen : String := openingFailure 14 "unable to open database file"

def ioFailure (code : Nat) : String := openingFailure code "disk I/O error"

/-- Is anything to be found under the path? -/
def finds (world : World m) (path : String) : m Bool := do
  match ← world.readFile path with
  | .ok _ | .error .isDirectory => return true
  | .error _ => return false

/-- The longest path to a database. -/
def pathLimit : Nat := 504

/-- Opens the database in a file. A missing file is made, if that is allowed. A directory can be
opened to be read, and then it cannot be. -/
def openFile (world : World m) (l : Sqlite.Location) (path : String) :
    ExceptT String m Sqlite.Database := do
  let content ← world.readFile path
  let isReachable := match content with
    | .ok _ | .error .missing | .error .isDirectory => path.utf8ByteSize ≤ pathLimit
    | .error _ => false
  if !isReachable then throw cannotOpen
  if let some pattern := l.pattern then
    if !(← world.finds pattern) then throw (ioFailure 1802)
  match content with
  | .ok text => match Sqlite.Database.ofText? text with
    | some db => return db
    | none => throw (openingFailure 26 "file is not a database")
  | .error .missing =>
    if l.access != .create then throw cannotOpen
    attempt (fun _ => cannotOpen) (world.writeFile path "")
    return {}
  | .error .isDirectory => throw (if l.access = .read then ioFailure 266 else cannotOpen)
  | .error _ => throw cannotOpen

/-- Runs work with the operator at the gate: whenever a question has no answer yet, it is put, and
the work runs again from the start with one answer more. The first argument bounds the number of
questions. -/
def converse (world : World m) (work : Run σ α) : Nat → Session σ →
    m (Except Error α × Session σ)
  | 0, s => return Run.from work s
  | n + 1, s => do
    let (result, later) := Run.from work s
    match later.asked.drop s.gate.answers.length with
    | [] => return (result, later)
    | question :: _ =>
      let line ← world.ask (question ++ " [y]es/[n]o/[a]ll: ")
      let answers := s.gate.answers ++ [.ofLine line.toList]
      world.converse work n { s with gate := { s.gate with answers } }

/-- Brings an SQLite database in line with a schema, and keeps what became of it, if anything. -/
def pushSqlite (world : World m) (l : Sqlite.Location) (model : Schema.Model) (gate : Gate)
    (options : Options) : ExceptT String m Report := do
  let database ← match l.file with
    | none => pure {}
    | some path => world.openFile l path
  let start : Session Sqlite.Connection := { state := { database, readOnly := l.readOnly }, gate }
  let (result, s) ← world.converse (Sqlite.backend.reconcile model options)
    (2 * model.tables.length) start
  if let some path := l.file then
    let text := s.state.database.toText
    if text != database.toText then
      attempt (fun _ => cannotOpen) (world.writeFile path text)
  ExceptT.mk (pure (result.mapError (·.message)))

/-- What a run comes to: a dry run shows its statements, and failures are told by table. -/
def conclude (world : World m) (r : Report) : ExceptT String m Unit := do
  if r.dryRun then
    for statement in r.statements do
      world.print (statement.sql ++ ";\n")
  if r.hasFailures then
    throw ("Could not reconcile: " ++ ", ".intercalate (r.failures.map (·.1)))

def push (world : World m) (database : String) (model : Schema.Model)
    (forceReset yes dryRun : Bool) : ExceptT String m Unit := do
  match ← ExceptT.mk (pure ((BackendKind.ofUrl database).mapError (·.message))) with
  | .sqlite =>
    let gate := if yes then .preAuthorized else {}
    let located := (Sqlite.Location.ofUrl database).mapError fun failure =>
      (Error.database failure).message
    let l ← ExceptT.mk (pure located)
    world.conclude (← world.pushSqlite l model gate { forceReset, dryRun })
  | .postgres => throw ((Error.database (.io "Connection refused (os error 111)")).message)

/-- The path that leads to a path, unless it is a root or leads nowhere. -/
def parent? (path : String) : Option String :=
  let isAbsolute := path.toList.head? = some '/'
  let names := (Text.pieces (· == '/') path.toList).zipIdx.filterMap fun (name, i) =>
    if name.isEmpty ∨ (name = ['.'] ∧ (isAbsolute ∨ i ≠ 0)) then none else some name
  if names.isEmpty then none
  else
    let before := ['/'].intercalate names.dropLast
    some (String.ofList (if isAbsolute then '/' :: before else before))

/-- Makes a directory and all that lead to it. The first argument bounds their number. -/
def makeDirectories (world : World m) : Nat → (path : String) → m (Except FileFault Unit)
  | 0, _ => return .error .missing
  | n + 1, path => do
    if path.isEmpty then return .ok ()
    let orExisting (fault : FileFault) : m (Except FileFault Unit) := do
      return if ← world.isDirectory path then .ok () else .error fault
    match ← world.makeDirectory path with
    | .ok () => return .ok ()
    | .error .missing =>
      match parent? path with
      | none => return .error .missing
      | some before =>
        match ← makeDirectories world n before with
        | .error fault => return .error fault
        | .ok () =>
          match ← world.makeDirectory path with
          | .ok () => return .ok ()
          | .error fault => orExisting fault
    | .error fault => orExisting fault

/-- A path below a directory. -/
def below (directory name : String) : String :=
  if directory.toList.getLast? = some '/' then directory ++ name else directory ++ "/" ++ name

def dump (world : World m) (model : Schema.Model) (directory : String) :
    ExceptT String m Unit := do
  attempt FileFault.message (world.makeDirectories (directory.length + 1) directory)
  attempt FileFault.message
    (world.writeFile (below directory "schema.json") (Schema.tableDocument model.tables))
  attempt FileFault.message
    (world.writeFile (below directory "schema.enum.json") (Schema.enumDocument model.enums))

def perform (world : World m) (a : Arguments) : ExceptT String m Unit := do
  let model ← world.loadSchema a.source
  match a.command with
  | .push forceReset yes dryRun => world.push a.database model forceReset yes dryRun
  | .dump directory => world.dump model directory

/-- Runs the program and gives its exit code. -/
def run (world : World m) (environment : List (String × String)) (arguments : List String) :
    m Nat := do
  match Arguments.read environment arguments with
  | .error .information => do
    world.print usage
    return 0
  | .error (.misuse misuse) => do
    world.complain ("error: " ++ misuse.message ++ "\n\n" ++ usage)
    return 2
  | .ok a => do
    match ← (world.perform a).run with
    | .ok () => return 0
    | .error message => do
      world.complain ("Error: " ++ message ++ "\n")
      return 1

end World

end Conform.CommandLine
