import Conform.Sqlite.Index
import Conform.Sqlite.Page
import Conform.Sqlite.Refusal

/-! Tables with their rows. Names of columns match whatever the case of their letters. A primary
key of one INTEGER column is the number of the row itself; any other key is kept by a unique
index. -/
namespace Conform.Sqlite

open Text (sameLetters)

/-- How the values of a column come from the others of a row. -/
structure Generated where
  value : Expression
  stored : Bool := false
  deriving Repr, Inhabited

structure Column where
  name : String
  type : ColumnType
  collation : Collation := .binary
  /-- What is done about a null, unless nulls may stand in the column. -/
  notNull : Option Resolution := none
  default : Option Default := none
  generated : Option Generated := none
  deriving Inhabited

structure ForeignKey where
  columns : List Nat
  reference : Reference
  deferred : Bool := false
  deriving DecidableEq, Repr, Inhabited

structure Table where
  definition : Definition
  columns : List Column := []
  /-- The columns of the primary key. -/
  key : List Nat := []
  /-- The column that holds the number of the row. -/
  numberColumn : Option Nat := none
  numberResolution : Option Resolution := none
  numberDescends : Bool := false
  /-- Are numbers of deleted rows never given again? -/
  autoincrement : Bool := false
  /-- Do the rows have numbers that expressions can name? -/
  isNumbered : Bool := true
  /-- Does every column hold values of its own type alone? -/
  isStrict : Bool := false
  checks : List Expression := []
  /-- The newest first, but those that replace rows last. -/
  indexes : List Index := []
  /-- The page with which the rows begin. -/
  root : Nat := 0
  /-- The last declared first. -/
  foreignKeys : List ForeignKey := []
  rows : Std.TreeMap Int (List Value) := ∅
  deriving Inhabited

/-- Names that a statement may not give to a table or an index. -/
def isReserved (name : String) : Bool :=
  (Text.after "sqlite_".toList (name.toList.map Char.toLower)).isSome

namespace Table

def name (t : Table) : String := t.definition.name

def position? (t : Table) (column : String) : Option Nat :=
  t.columns.findIdx? fun c => sameLetters c.name column

def requirePosition (t : Table) (column : String) : Except Refusal Nat :=
  match t.position? column with
  | some position => .ok position
  | none => .error (.noSuchColumn t.name column)

def columnName (t : Table) (position : Nat) : String :=
  ((t.columns[position]?).map (·.name)).getD ""

def affinityAt (t : Table) (position : Nat) : Affinity :=
  ((t.columns[position]?).map (·.type.affinity)).getD .blob

def collationAt (t : Table) (position : Nat) : Collation :=
  ((t.columns[position]?).map (·.collation)).getD .binary

/-- What names mean in the checks of the table. -/
def scope (t : Table) : Scope where
  table := t.name
  columns := t.columns.map fun c => ⟨c.name, c.type.affinity, c.collation⟩
  seesNumber := t.isNumbered

/-! ### Indexes -/

/-- The indexes with a new one before the others. Those that replace rows stay behind. -/
def withIndex (index : Index) (indexes : List Index) : List Index :=
  let all := index :: indexes
  let isLast (i : Index) : Bool := i.resolution == some .replace
  all.filter (!isLast ·) ++ all.filter isLast

/-- The index that a statement makes. A name that is none of a column stands for a constant, until
a column of that name is added. -/
def indexOf (t : Table) (declared : Sql.Index) : Index where
  name := declared.name
  unique := declared.unique
  entries := declared.columns.map fun column =>
    match t.position? column with
    | some position => { term := .column position, collation := t.collationAt position }
    | none => { term := .constant column }
  declared := some declared

/-- Two unique constraints over the same columns with the same collations are one. -/
def sameEntries (a b : Index) : Bool :=
  a.entries.map (fun e => (e.term, e.collation)) == b.entries.map fun e => (e.term, e.collation)

/-- The names of the indexes that are made for constraints, in the order in which they are made. -/
def constraintIndexName (t : Table) (position : Nat) : String :=
  s!"sqlite_autoindex_{t.name}_{position + 1}"

/-- The indexes with one for a unique constraint. -/
def addConstraintIndex (t : Table) (entries : List IndexEntry) (primary : Bool)
    (resolution : Option Resolution) : Except Refusal Table := do
  let fresh : Index := {
    name := t.constraintIndexName t.indexes.length
    unique := true
    entries, resolution, primary }
  match t.indexes.find? (sameEntries fresh) with
  | none => return { t with indexes := withIndex fresh t.indexes }
  | some old =>
    if old.resolution.isSome && resolution.isSome && old.resolution != resolution then
      throw .conflictingResolutions
    let merged := { old with
      resolution := old.resolution.or resolution
      primary := old.primary || primary }
    let others := t.indexes.map fun i => if i.name == old.name then merged else i
    let isLast (i : Index) : Bool := i.resolution == some .replace
    return { t with indexes := others.filter (!isLast ·) ++ others.filter isLast }

/-- The indexes that the catalog lists. The primary key of a table without numbers is the table. -/
def listedIndexes (t : Table) : List Index :=
  if t.isNumbered then t.indexes else t.indexes.filter (!·.primary)

/-! ### Pages -/

def setRoot (t : Table) (index : String) (root : Nat) : Table :=
  { t with indexes := t.indexes.map fun i => if i.name == index then { i with root } else i }

/-- A new table with a page for itself and then one for each of its indexes. -/
def takePages (t : Table) (p : Pages) : Table × Pages :=
  let (root, p) := p.take
  let listed := t.listedIndexes.map (·.name)
  let names := (List.range t.indexes.length).map t.constraintIndexName
  (names.filter listed.contains).foldl (fun (t, p) name =>
    let (root, p) := Pages.take p
    (t.setRoot name root, p)) ({ t with root }, p)

/-- The table begins where another did, and so do its indexes. -/
def withPagesOf (t old : Table) : Table :=
  old.indexes.foldl (fun t i => t.setRoot i.name i.root) { t with root := old.root }

/-- Gives back the pages of a table that goes, from the last to the first. -/
def givePages (t : Table) (p : Pages) : Pages :=
  let roots := t.root :: t.listedIndexes.map (·.root)
  (roots.mergeSort fun a b => b ≤ a).foldl Pages.give p

/-! ### Rows -/

def row? (t : Table) (id : Int) : Option Row := (t.rows[id]?).map fun values => ⟨id, values⟩

/-- The rows by increasing number. -/
def allRows (t : Table) : List Row := t.rows.toList.map fun (id, values) => ⟨id, values⟩

def put (t : Table) (r : Row) : Table :=
  { t with
    rows := t.rows.insert r.id r.values
    indexes := t.indexes.map fun i => if i.unique then i.hold r else i }

def remove (t : Table) (r : Row) : Table :=
  { t with
    rows := t.rows.erase r.id
    indexes := t.indexes.map fun i => if i.unique then i.release r else i }

/-- The table with another index over its rows, unless two of them have one key in it. -/
def addIndex (t : Table) (index : Index) : Except Refusal Table := do
  let index ← t.allRows.foldlM (fun (index : Index) r =>
    if (index.holder? r.values).isSome then 
      throw (.notUnique t.name (index.entries.filterMap fun e => e.column?.map t.columnName))
    else return index.hold r) index
  return { t with indexes := withIndex index t.indexes }

end Table

end Conform.Sqlite
