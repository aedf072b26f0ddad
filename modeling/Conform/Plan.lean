import Conform.Dialect.Basic
import Conform.Live.Basic

/-! Planning compares a declared table with its live state. Each divergence becomes an operation
where the dialect can make the change in place, and otherwise a reason to rebuild the table. -/
namespace Conform

/-- Why a table has to be rebuilt. -/
inductive Reason where
  | columnType (column oldType newType : String)
  | primaryKey (oldKey newKey : List String)
  | foreignKey (name : String)
  deriving DecidableEq, Repr, Inhabited

def Reason.text : Reason → String
  | columnType column oldType newType =>
    "column " ++ column ++ " changes from " ++ oldType ++ " to " ++ newType
  | primaryKey oldKey newKey =>
    "primary key changes from (" ++ ", ".intercalate oldKey ++ ") to (" ++
      ", ".intercalate newKey ++ ")"
  | foreignKey name => "foreign key " ++ name ++ " is missing"

/-- How a table is created anew and which columns its old rows keep. -/
structure Rebuild where
  create : Operation
  indexes : List Operation := []
  copyColumns : List String := []
  deriving DecidableEq, Repr, Inhabited

inductive Plan where
  | create (operations : List Operation)
  | alter (operations : List Operation)
  | rebuild (reasons : List Reason) (steps : Rebuild)
  deriving DecidableEq, Repr, Inhabited

/-- One divergence and how it is met. -/
inductive Change where
  | inPlace (operation : Operation)
  | byRebuild (reason : Reason)
  deriving DecidableEq, Repr

def Change.operation? : Change → Option Operation
  | inPlace operation => some operation
  | byRebuild _ => none

def Change.reason? : Change → Option Reason
  | inPlace _ => none
  | byRebuild reason => some reason

namespace Dialect

/-- The columns of a declared table in the types of the backend. -/
def desiredColumns (d : Dialect) (t : Schema.Table) : Except Error (List Sql.Column) :=
  t.columns.mapM fun f => (d.columnType f).map fun type => ⟨f.name, type⟩

/-- What one declared column needs. A type that differs may only change to one that holds all its
values. -/
def columnChange (d : Dialect) (table : String) (live : Live.Table) (column : Sql.Column) :
    Except Error (Option Change) :=
  match live.column? column.name with
  | none => .ok (some (.inPlace (.addColumn table column)))
  | some current =>
    let oldType := d.canonicalType current.type
    if Text.sameLetters oldType column.type then .ok none
    else if !canConvert oldType column.type then
      .error (.lossyConversion table column.name oldType column.type)
    else if d.altersColumns then
      .ok (some (.inPlace (.alterColumnType table column.name oldType column.type)))
    else .ok (some (.byRebuild (.columnType column.name oldType column.type)))

end Dialect

/-- What one declared index needs: a live index of its name that differs goes first. -/
def indexChanges (t : Schema.Table) (live : Live.Table) (index : Schema.Index) : List Change :=
  let definition := t.indexDefinition index
  match live.index? definition.name with
  | none => [.inPlace (.createIndex definition)]
  | some current =>
    if current.columns == definition.columns && current.unique == definition.unique then []
    else [.inPlace (.dropIndex definition.name true), .inPlace (.createIndex definition)]

def Dialect.primaryKeyChange (d : Dialect) (t : Schema.Table) (live : Live.Table) :
    Option Change :=
  if live.primaryKey == t.idFields then none
  else if d.addsConstraints then
    some (.inPlace (.setPrimaryKey t.name t.idFields live.primaryKeyName))
  else some (.byRebuild (.primaryKey live.primaryKey t.idFields))

def Dialect.foreignKeyChange (d : Dialect) (t : Schema.Table) (live : Live.Table)
    (r : Schema.Relation) : Option Change :=
  if live.hasForeignKey r then none
  else if d.addsConstraints then
    some (.inPlace (.addForeignKey t.name (t.foreignKeyDefinition r)))
  else some (.byRebuild (.foreignKey (t.foreignKeyName r)))

/-- All divergences of a live table: columns, indexes, primary key, foreign keys. -/
def Dialect.changes (d : Dialect) (t : Schema.Table) (live : Live.Table)
    (columns : List Sql.Column) : Except Error (List Change) := do
  let columnChanges ← columns.mapM (d.columnChange t.name live)
  return columnChanges.filterMap id ++ t.indexes.flatMap (indexChanges t live) ++
    (d.primaryKeyChange t live).toList ++ t.foreignKeys.filterMap (d.foreignKeyChange t live)

/-- The plan that brings the live state of a table in line with its declaration. One reason to
rebuild is enough to give up all changes in place. -/
def Dialect.plan (d : Dialect) (t : Schema.Table) (live : Option Live.Table) :
    Except Error Plan := do
  let columns ← d.desiredColumns t
  let create := Operation.createTable (t.definition columns) true
  match live with
  | none => return .create (create :: t.createIndexes)
  | some live =>
    let changes ← d.changes t live columns
    match changes.filterMap (·.reason?) with
    | [] => return .alter (changes.filterMap (·.operation?))
    | reasons => return .rebuild reasons {
        create
        indexes := t.createIndexes
        copyColumns := (columns.filter fun c => (live.column? c.name).isSome).map (·.name) }

end Conform
