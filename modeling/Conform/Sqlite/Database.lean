import Conform.Sqlite.Table.Row

/-! The tables of a database. Names of tables and indexes match whatever the case of their letters.
The greatest numbers of tables that never give a number again are kept in a table of their own. -/
namespace Conform.Sqlite

open Text (sameLetters)

/-- The tables in the order of their creation. -/
structure Database where
  tables : List Table := []
  pages : Pages := {}
  /-- How often tables or indexes were made, changed or dropped. -/
  version : Nat := 0
  deriving Inhabited

/-- The table of the greatest numbers. -/
def sequenceTable : String := "sqlite_sequence"

/-- The catalog of all tables and indexes, which statements can only read. -/
def isCatalog (name : String) : Bool :=
  sameLetters name "sqlite_master" || sameLetters name "sqlite_schema"

namespace Database

def table? (db : Database) (name : String) : Option Table :=
  db.tables.find? fun t => sameLetters t.name name

def requireTable (db : Database) (name : String) : Except Refusal Table :=
  match db.table? name with
  | some t => .ok t
  | none => .error (.noSuchTable name)

/-- The table that has the index, and the index. -/
def index? (db : Database) (name : String) : Option (Table × Index) :=
  db.tables.findSome? fun t =>
    (t.indexes.find? fun index => sameLetters index.name name).map (t, ·)

/-- Replaces a table by its new state. -/
def put (db : Database) (t : Table) : Database :=
  { db with tables := db.tables.map fun old => if sameLetters old.name t.name then t else old }

/-- The database with a new table, which gets its pages. -/
def add (db : Database) (t : Table) : Database :=
  let (t, pages) := t.takePages db.pages
  { db with tables := db.tables ++ [t], pages }

/-- The database without a table, whose pages are given back. -/
def erase (db : Database) (t : Table) : Database :=
  { db with
    tables := db.tables.filter fun other => !sameLetters other.name t.name
    pages := t.givePages db.pages }

/-- The database after a change of its tables or indexes. -/
def changed (db : Database) : Database := { db with version := db.version + 1 }

/-! ### Greatest numbers -/

/-- The definition of the table of the greatest numbers. -/
def sequenceDefinition : Definition where
  name := sequenceTable
  columns := [{ name := "name" }, { name := "seq" }]
  opening := "sqlite_sequence(name,seq"
  ending := ")"

/-- The database with a table for the greatest numbers. -/
def withSequences (db : Database) : Database :=
  if (db.table? sequenceTable).isSome then db
  else ((Table.ofDefinition sequenceDefinition).toOption).elim db db.add

/-- The row that keeps the greatest number of a table. -/
def sequenceRow? (db : Database) (table : String) : Option Row :=
  (db.table? sequenceTable).bind fun t =>
    t.allRows.find? fun r => r.value 0 == .ofString table

/-- The greatest number that a table has given so far. -/
def lastNumber (db : Database) (table : String) : Int :=
  (db.sequenceRow? table).elim 0 fun r => (r.value 1).asInteger

/-- Keeps a number of a table if it is greater than the one kept, which is zero at first. -/
def noteNumber (db : Database) (table : String) (number : Int) : Database :=
  match db.table? sequenceTable with
  | none => db
  | some t =>
    let values := [.ofString table, .integer (max number (db.lastNumber table))]
    let id := match db.sequenceRow? table with
      | some r => r.id
      | none => (t.rows.maxKey?).elim 1 (· + 1)
    db.put (t.put ⟨id, values⟩)

/-- Forgets the greatest number of a table. -/
def forgetNumber (db : Database) (table : String) : Database :=
  match db.table? sequenceTable with
  | none => db
  | some t =>
    db.put ((t.allRows.filter fun r => r.value 0 == .ofString table).foldl Table.remove t)

end Database

end Conform.Sqlite
