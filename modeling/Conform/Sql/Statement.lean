import Conform.Schema.Basic
import Conform.Sql.Identifier

/-! The statements that are sent to a database, and their text. -/
namespace Conform.Sql

structure Column where
  name : String
  type : String
  deriving DecidableEq, Repr, Inhabited

structure ForeignKey where
  name : String
  columns : List String
  table : String
  references : List String
  onDelete : Option Schema.ReferentialAction := none
  onUpdate : Option Schema.ReferentialAction := none
  deriving DecidableEq, Repr, Inhabited

/-- All that a table is created with. -/
structure Table where
  name : String
  columns : List Column := []
  primaryKey : List String := []
  foreignKeys : List ForeignKey := []
  deriving DecidableEq, Repr, Inhabited

structure Index where
  name : String
  table : String
  columns : List String
  unique : Bool := false
  deriving DecidableEq, Repr, Inhabited

inductive Statement where
  | createTable (table : Table) (ifNotExists : Bool)
  /-- Creates the empty table `target` like `source`, in words that the backend chose. -/
  | createLike (source target : String) (text : String)
  | dropTable (name : String) (ifExists cascade : Bool)
  | addColumn (table : String) (column : Column)
  | alterColumnType (table column type : String)
  | createIndex (index : Index)
  | dropIndex (name : String) (ifExists : Bool)
  | dropConstraint (table name : String)
  | addPrimaryKey (table : String) (columns : List String)
  | addForeignKey (table : String) (key : ForeignKey)
  /-- Copies all rows of `source` into `target`, column by column. -/
  | copyRows (source target : String)
  /-- Copies the named columns of all rows of `source` into `target`. -/
  | copyColumns (source target : String) (columns : List String)
  /-- A remark on what the backend cannot do. It is not to be executed. -/
  | comment (text : String)
  /-- A statement that is known by its text alone. -/
  | given (text : String)
  deriving DecidableEq, Repr, Inhabited

def Column.sql (c : Column) : String := quote c.name ++ " " ++ c.type

def ForeignKey.sql (key : ForeignKey) : String :=
  "CONSTRAINT " ++ quote key.name ++ " FOREIGN KEY (" ++ columnList key.columns ++
    ") REFERENCES " ++ quote key.table ++ " (" ++ columnList key.references ++ ")" ++
    key.onDelete.elim "" (" ON DELETE " ++ ·.keywords) ++
    key.onUpdate.elim "" (" ON UPDATE " ++ ·.keywords)

/-- The columns and constraints of a table, in the order in which they are written. -/
def Table.parts (t : Table) : List String :=
  t.columns.map (·.sql) ++
  (if t.primaryKey.isEmpty then [] else ["PRIMARY KEY (" ++ columnList t.primaryKey ++ ")"]) ++
  t.foreignKeys.map (·.sql)

def Table.sql (t : Table) (ifNotExists : Bool) : String :=
  "CREATE TABLE " ++ (if ifNotExists then "IF NOT EXISTS " else "") ++ quote t.name ++ " (\n  " ++
    ",\n  ".intercalate t.parts ++ "\n)"

def Index.sql (i : Index) : String :=
  "CREATE " ++ (if i.unique then "UNIQUE " else "") ++ "INDEX " ++ quote i.name ++ " ON " ++
    quote i.table ++ " (" ++ columnList i.columns ++ ")"

/-- The text that is sent. -/
def Statement.sql : Statement → String
  | createTable table ifNotExists => table.sql ifNotExists
  | createLike _ _ text => text
  | dropTable name ifExists cascade =>
    "DROP TABLE " ++ (if ifExists then "IF EXISTS " else "") ++ quote name ++
      (if cascade then " CASCADE" else "")
  | addColumn table column => "ALTER TABLE " ++ quote table ++ " ADD COLUMN " ++ column.sql
  | alterColumnType table column type =>
    "ALTER TABLE " ++ quote table ++ " ALTER COLUMN " ++ quote column ++ " TYPE " ++ type ++
      " USING " ++ quote column ++ "::" ++ type
  | createIndex index => index.sql
  | dropIndex name ifExists =>
    "DROP INDEX " ++ (if ifExists then "IF EXISTS " else "") ++ quote name
  | dropConstraint table name => "ALTER TABLE " ++ quote table ++ " DROP CONSTRAINT " ++ quote name
  | addPrimaryKey table columns =>
    "ALTER TABLE " ++ quote table ++ " ADD PRIMARY KEY (" ++ columnList columns ++ ")"
  | addForeignKey table key => "ALTER TABLE " ++ quote table ++ " ADD " ++ key.sql
  | copyRows source target => "INSERT INTO " ++ quote target ++ " SELECT * FROM " ++ quote source
  | copyColumns source target columns =>
    "INSERT INTO " ++ quote target ++ " (" ++ columnList columns ++ ") SELECT " ++
      columnList columns ++ " FROM " ++ quote source
  | comment text => "-- " ++ text
  | given text => text

def Statement.isComment : Statement → Bool
  | comment _ => true
  | _ => false

end Conform.Sql
