import Conform.Sql.Statement
import Conform.Sqlite.Definition
import Conform.Sqlite.Expression.Scope
import Std.Data.TreeMap

/-! Rows and the indexes over them. A unique index holds the row of every key without nulls. -/
namespace Conform.Sqlite

structure Row where
  id : Int
  values : List Value
  deriving DecidableEq, Repr, Inhabited

namespace Row

def value (r : Row) (position : Nat) : Value := (r.values[position]?).getD .null

def read (r : Row) : Place → Value
  | .column position => r.value position
  | .number => .integer r.id

end Row

/-- The values of some columns of one row, in their canonical forms. -/
abbrev Key := List Value

def Key.compare : Key → Key → Ordering
  | [], [] => .eq
  | [], _ :: _ => .lt
  | _ :: _, [] => .gt
  | v :: k, w :: l => (v.compare w).then (Key.compare k l)

/-- A key with a null in it is equal to no other. -/
def Key.hasNull (k : Key) : Bool := k.any (·.isNull)

/-- What an index holds of a row: the value of a column, or a text where no column has its name. -/
inductive IndexTerm where
  | column (position : Nat)
  | constant (text : String)
  deriving DecidableEq, Repr, Inhabited

structure IndexEntry where
  term : IndexTerm
  collation : Collation := .binary
  descending : Bool := false
  deriving DecidableEq, Repr, Inhabited

namespace IndexEntry

def column? (entry : IndexEntry) : Option Nat :=
  match entry.term with
  | .column position => some position
  | .constant _ => none

/-- What the entry holds of a row with these values, in its canonical form. -/
def read (entry : IndexEntry) (values : List Value) : Value :=
  entry.collation.canonical <| match entry.term with
    | .column position => (values[position]?).getD .null
    | .constant text => .ofString text

end IndexEntry

structure Index where
  name : String
  unique : Bool
  entries : List IndexEntry
  /-- What is done about equal keys, if the definition says so. -/
  resolution : Option Resolution := none
  /-- What the statement that made the index says. One that is made for a constraint of its table
  has none, and is gone only with the table. -/
  declared : Option Sql.Index := none
  primary : Bool := false
  /-- The page with which the index begins. -/
  root : Nat := 0
  /-- The row of every key without nulls, if the index is unique. -/
  holders : Std.TreeMap Key Int Key.compare := ∅
  /-- The rows that the index holds by keys of before, when what is a column now was a text. Such
  a row is not found again by its key. -/
  stale : List (Int × Key) := []
  deriving Inhabited

namespace Index

def ofConstraint (index : Index) : Bool := index.declared.isNone

/-- The key of a row. -/
def key (index : Index) (values : List Value) : Key := index.entries.map (·.read values)

/-- The key by which the index holds a row. -/
def heldKey (index : Index) (r : Row) : Key :=
  (index.stale.lookup r.id).getD (index.key r.values)

/-- Is the row held by a key that is its own no more? -/
def isStale (index : Index) (r : Row) : Bool := (index.stale.lookup r.id).isSome

/-- The row that has the key of the given values. -/
def holder? (index : Index) (values : List Value) : Option Int :=
  let k := index.key values
  if index.unique && !k.hasNull then index.holders[k]? else none

def hold (index : Index) (r : Row) : Index :=
  let k := index.heldKey r
  if index.unique && !k.hasNull then { index with holders := index.holders.insert k r.id }
  else index

def release (index : Index) (r : Row) : Index :=
  let k := index.heldKey r
  if index.unique && !k.hasNull then { index with holders := index.holders.erase k }
  else index

/-- The index as it is when its table has another column. It keeps the keys of before. -/
def widened (index : Index) (entries : List IndexEntry) (rows : List Row) : Index :=
  { index with
    entries
    stale := if entries = index.entries then index.stale else rows.map fun r =>
      (r.id, (entries.zip (index.heldKey r)).map fun (entry, v) => entry.collation.canonical v) }

end Index

end Conform.Sqlite
