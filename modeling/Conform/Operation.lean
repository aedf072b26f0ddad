import Conform.Sql.Statement

/-! The changes that a plan is made of. An operation says what is to change; a dialect says in
which statements. -/
namespace Conform

inductive Operation where
  | createTable (table : Sql.Table) (ifNotExists : Bool)
  | dropTable (name : String) (ifExists : Bool)
  | addColumn (table : String) (column : Sql.Column)
  | alterColumnType (table column oldType newType : String)
  | createIndex (index : Sql.Index)
  | dropIndex (name : String) (ifExists : Bool)
  /-- Makes `columns` the key, after dropping the constraint that it `replaces`. -/
  | setPrimaryKey (table : String) (columns : List String) (replaces : Option String)
  | addForeignKey (table : String) (key : Sql.ForeignKey)
  deriving DecidableEq, Repr, Inhabited

/-- One line on what the operation does. -/
def Operation.describe : Operation → String
  | createTable table _ => "create table " ++ table.name
  | dropTable name _ => "drop table " ++ name
  | addColumn table column => "add column " ++ table ++ "." ++ column.name
  | alterColumnType table column oldType newType =>
    "alter column " ++ table ++ "." ++ column ++ " " ++ oldType ++ " -> " ++ newType
  | createIndex index => "create index " ++ index.name
  | dropIndex name _ => "drop index " ++ name
  | setPrimaryKey table columns _ =>
    "set primary key " ++ table ++ "(" ++ ", ".intercalate columns ++ ")"
  | addForeignKey _ key => "add foreign key " ++ key.name

namespace Schema.Table

/-- The constraint that a relation of the table declares. -/
def foreignKeyDefinition (t : Table) (r : Relation) : Sql.ForeignKey where
  name := t.foreignKeyName r
  columns := r.fields
  table := r.referencedTable
  references := r.references
  onDelete := r.onDelete
  onUpdate := r.onUpdate

/-- The table as it is created, given its columns in the types of a backend. -/
def definition (t : Table) (columns : List Sql.Column) : Sql.Table where
  name := t.name
  columns := columns
  primaryKey := t.idFields
  foreignKeys := t.foreignKeys.map t.foreignKeyDefinition

def indexDefinition (t : Table) (index : Index) : Sql.Index where
  name := t.indexName index
  table := t.name
  columns := index.fields
  unique := t.indexIsUnique index

/-- One operation for every declared index. -/
def createIndexes (t : Table) : List Operation :=
  t.indexes.map fun index => .createIndex (t.indexDefinition index)

end Schema.Table

end Conform
