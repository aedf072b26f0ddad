import Conform.Sqlite.Database

/-! What foreign keys compare: the columns of a row with the number or with a unique key of the
rows of another table. -/
namespace Conform.Sqlite

open Text (sameLetters)

/-- What a foreign key compares its columns with. -/
inductive ParentKey where
  /-- One column with the number of a row. -/
  | number (child : Nat)
  /-- Columns, in the order of a unique index, with the keys in it. -/
  | index (children : List Nat) (index : Index)
  deriving Inhabited

/-- The number of a row that a value can stand for. -/
def Value.rowNumber? (v : Value) : Option Int :=
  match Affinity.numeric.apply v with
  | .integer n => some n
  | _ => none

namespace ForeignKey

/-- Is this the name of the table that the key references? -/
def targets (k : ForeignKey) (table : String) : Bool := sameLetters k.reference.table table

/-- The columns of the key in the order of a unique index over the columns that it references,
if that is such an index. Collations other than those of the columns spoil it. -/
def columnsFor? (k : ForeignKey) (parent : Table) (i : Index) : Option (List Nat) :=
  if !i.unique || i.entries.length != k.columns.length then none
  else if k.reference.columns.isEmpty then (if i.primary then some k.columns else none)
  else i.entries.mapM fun entry => do
    let position ← entry.column?
    if entry.collation != parent.collationAt position then none
    let name := parent.columnName position
    let place ← k.reference.columns.findIdx? fun column => sameLetters column name
    k.columns[place]?

/-- What the key compares with, if the parent table has anything of the kind. -/
def parentKey? (k : ForeignKey) (parent : Table) : Option ParentKey :=
  match k.columns, parent.numberColumn with
  | [child], some number =>
    if k.reference.columns.all fun column => sameLetters column (parent.columnName number) then
      some (.number child)
    else byIndex
  | _, _ => byIndex
where
  byIndex : Option ParentKey :=
    parent.indexes.findSome? fun i => (k.columnsFor? parent i).map (.index · i)

/-- Does a change of these columns of its own table matter to the key? -/
def childChanges (k : ForeignKey) (changed : List Nat) : Bool := k.columns.any changed.contains

/-- Does a change of these columns of the parent table matter to the key? -/
def parentChanges (k : ForeignKey) (parent : Table) (changed : List Nat) : Bool :=
  changed.any fun position =>
    if k.reference.columns.isEmpty then parent.key.contains position
    else k.reference.columns.any fun column => sameLetters column (parent.columnName position)

end ForeignKey

namespace ParentKey

/-- The columns of the child in the order of the key. -/
def children : ParentKey → List Nat
  | number child => [child]
  | index children _ => children

/-- Has the row a null in the key? -/
def hasNull (p : ParentKey) (child : Row) : Bool := p.children.any fun c => (child.value c).isNull

/-- The key in the form in which the index of the parent is asked for it. A number that the column
of the parent would round is not found. -/
def keyOf (children : List Nat) (index : Index) (parent : Table) (child : Row) : Key :=
  (children.zip index.entries).map fun (c, entry) =>
    entry.collation.canonical
      ((entry.column?.elim .blob parent.affinityAt).sought.apply (child.value c))

/-- Does a row without nulls in the key have a parent? -/
def hasParent (p : ParentKey) (parent : Table) (child : Row) : Bool :=
  match p with
  | number c => (child.value c).rowNumber?.any parent.rows.contains
  | index children i => i.holders.contains (keyOf children i parent child)

/-- Is a row without nulls in the key its own parent? -/
def isOwnParent (p : ParentKey) (child : Row) : Bool :=
  match p with
  | number c => (child.value c).rowNumber? == some child.id
  | index children i => (children.zip i.entries).all fun (c, entry) =>
    entry.column?.any fun position =>
      !(child.value position).isNull &&
        Collation.binary.compare (child.value c) (child.value position) == .eq

/-- The value of a parent that a column of a child is compared with, with affinity and
collation. -/
def parentValues (p : ParentKey) (parent : Table) (r : Row) :
    List (Nat × Value × Affinity × Collation) :=
  match p with
  | number c => [(c, .integer r.id, .integer, .binary)]
  | index children i => (children.zip i.entries).map fun (c, entry) =>
    let position := entry.column?.getD 0
    (c, r.value position, parent.affinityAt position, parent.collationAt position)

/-- The rows whose columns are equal to some values of a parent, which have collations and may
have affinities. -/
def equalRows (child : Table) (keys : List (Nat × Value × Option Affinity × Collation)) :
    List Row :=
  child.allRows.filter fun row => keys.all fun (c, v, affinity, collation) =>
    Expression.ordering? collation affinity (some (child.affinityAt c)) v (row.value c) ==
      some .eq

/-- The rows of the child table that reference a row of the parent table. -/
def childrenOf (p : ParentKey) (parent child : Table) (r : Row) : List Row :=
  equalRows child ((p.parentValues parent r).map fun (c, v, affinity, collation) =>
    (c, v, some affinity, collation))

/-- The rows of the child table that an action works on, when a row of the parent table goes. The
columns of the parent have no affinity then, but its number has. -/
def affectedRows (p : ParentKey) (parent child : Table) (r : Row) : List Row :=
  let isNumber := match p with
    | number _ => true
    | index .. => false
  equalRows child ((p.parentValues parent r).map fun (c, v, affinity, collation) =>
    (c, v, if isNumber then some affinity else none, collation))

end ParentKey

namespace Database

/-- The foreign keys of all tables that reference the given one, each with its own table: the
newest first. -/
def keysTo (db : Database) (parent : String) : List (String × ForeignKey) :=
  db.tables.reverse.flatMap fun child =>
    (child.foreignKeys.filter (·.targets parent)).map (child.name, ·)

/-- The parent table of a key and what the key compares with in it. -/
def parentOf (db : Database) (child : String) (k : ForeignKey) :
    Except Refusal (Table × ParentKey) := do
  let parent ← db.requireTable k.reference.table
  match k.parentKey? parent with
  | some p => return (parent, p)
  | none => throw (.foreignKeyMismatch child parent.name)

/-- The rows of a table that lack a parent by a key. No row has a parent in a missing table; an
existing one has to have what the key references. -/
def orphans (db : Database) (child : Table) (k : ForeignKey) : Except Refusal (List Row) := do
  let isMissing : Row → Bool ← match db.table? k.reference.table with
    | none => pure fun r => k.columns.all fun c => !(r.value c).isNull
    | some _ => do
      let (parent, p) ← db.parentOf child.name k
      pure fun r => !p.hasNull r && !p.hasParent parent r
  return child.allRows.filter isMissing

/-- The number of missing parents of all rows of a table, key by key. -/
def checkForeignKeys (db : Database) (table : String) : Except Refusal Nat := do
  let child ← db.requireTable table
  child.foreignKeys.foldlM (fun missing k => return missing + (← db.orphans child k).length) 0

/-! ### What can be done at all

A statement is refused, whatever rows there are, if some deletion or update that it may lead to
meets a foreign key without a parent table or without anything to compare with. -/

/-- A deletion in a table, or an update of some of its columns. -/
inductive Reach where
  | delete (table : String)
  | update (table : String) (columns : List Nat)
  deriving DecidableEq

/-- What the action of a key does to the rows of its own table. -/
def reachOf (child : String) (k : ForeignKey) (action : Option Schema.ReferentialAction)
    (deletes : Bool) : Option Reach :=
  match action with
  | some .cascade => some (if deletes then .delete child else .update child k.columns)
  | some .setNull | some .setDefault => some (.update child k.columns)
  | some .restrict | some .noAction | none => none

/-- The columns that a change concerns; all of them for a deletion. -/
def Reach.concerns (r : Reach) (db : Database) : List (String × ForeignKey) × List ForeignKey :=
  match r with
  | .delete table => (db.keysTo table, ((db.table? table).map (·.foreignKeys)).getD [])
  | .update table columns => match db.table? table with
    | none => ([], [])
    | some t =>
      let upward := t.foreignKeys.filter fun k => k.childChanges columns || k.targets table
      let downward := (db.keysTo table).filter fun (_, k) => k.parentChanges t columns
      if downward.isEmpty && !upward.any (·.childChanges columns) then ([], [])
      else (downward, upward)

/-- What a foreign key does when a row that it references is deleted, or else updated. -/
structure Effect where
  child : String
  key : ForeignKey
  ofDeletion : Bool
  deriving DecidableEq

namespace Effect

def action (e : Effect) : Option Schema.ReferentialAction :=
  if e.ofDeletion then e.key.reference.onDelete else e.key.reference.onUpdate

/-- The change that the effect makes. To refuse is an effect without a change. -/
def reach? (e : Effect) : Option Reach := reachOf e.child e.key e.action e.ofDeletion

end Effect

/-- The effects that a change may have by itself. -/
def Reach.effects (r : Reach) (db : Database) : List Effect :=
  let ofDeletion := match r with
    | .delete _ => true
    | .update .. => false
  ((r.concerns db).1.map fun (child, key) => ⟨child, key, ofDeletion⟩).filter fun e =>
    e.action.any (· != .noAction)

/-- All effects that a change may lead to, each followed by those that it leads to in turn, and
none twice. `fuel` bounds how far one leads to another. -/
def allEffects (db : Database) : (fuel : Nat) → (found : List Effect) → Reach → List Effect
  | 0, found, _ => found
  | fuel + 1, found, r => (r.effects db).foldl (fun found e =>
    if found.contains e then found
    else match e.reach? with
      | some next => allEffects db fuel (found ++ [e]) next
      | none => found ++ [e]) found

/-- All effects of a change. A foreign key has at most two, so that no chain of them is longer. -/
def effectsOf (db : Database) (r : Reach) : List Effect :=
  db.allEffects (2 * (db.tables.flatMap (·.foreignKeys)).length + 1) [] r

/-- Refuses a change that meets a foreign key without a counterpart. -/
def Reach.require (r : Reach) (db : Database) : Except Refusal Unit := do
  let (table, columns) := match r with
    | .delete table => (table, [])
    | .update table columns => (table, columns)
  let t ← db.requireTable table
  for position in columns do
    if ((t.columns[position]?).bind (·.generated)).isSome then
      throw (.misplacedGenerated (t.columnName position))
  let (downward, upward) := r.concerns db
  for k in upward do
    let _ ← db.parentOf table k
  if !(downward.isEmpty && upward.isEmpty) then
    for (child, k) in db.keysTo table do
      let _ ← db.parentOf child k

/-- Refuses a change if it, or any that it leads to, meets a foreign key without a counterpart. -/
def requireReach (db : Database) (r : Reach) : Except Refusal Unit := do
  for next in r :: (db.effectsOf r).filterMap (·.reach?) do
    next.require db

/-- Does a new row of the table need a parent by the key, where rows that are in its way are
replaced? It does, unless the last of the effects of that is to set the key itself to null. -/
def needsParent (db : Database) (table : String) (k : ForeignKey) : Bool :=
  match (db.effectsOf (.delete table)).getLast? with
  | some e => !(e.child == table && e.key == k && e.action == some .setNull)
  | none => true

end Database

end Conform.Sqlite
