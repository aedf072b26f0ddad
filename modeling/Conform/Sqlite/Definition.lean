import Conform.Schema.Basic
import Conform.Sqlite.Expression.Basic

/-! The definition of a table, as a CREATE TABLE statement gives it: columns with their
constraints, then the constraints of the table. The text itself is kept in two halves, so that a
column can be added between them. -/
namespace Conform.Sqlite

/-- What is done about a row that breaks a constraint. -/
inductive Resolution where
  | rollback
  | abort
  | fail
  | ignore
  | replace
  deriving DecidableEq, Repr, Inhabited

/-- What a foreign key points at. Without columns it is the primary key. -/
structure Reference where
  table : String
  columns : List String := []
  onDelete : Option Schema.ReferentialAction := none
  onUpdate : Option Schema.ReferentialAction := none
  deriving DecidableEq, Repr, Inhabited

/-- A default with its text. -/
structure Default where
  value : Expression
  text : String
  deriving Repr, Inhabited

inductive ColumnConstraint where
  | default (d : Default)
  | nullable
  | notNull (resolution : Option Resolution)
  | primaryKey (descending autoincrement : Bool) (resolution : Option Resolution)
  | unique (resolution : Option Resolution)
  | check (e : Expression)
  | references (r : Reference)
  /-- Says of the last foreign key whether it is checked only at the end of a transaction. -/
  | deferral (deferred : Bool)
  | collate (name : String)
  /-- The word says whether the values are stored. -/
  | generated (e : Expression) (word : Option String)
  deriving Repr, Inhabited

structure ColumnDefinition where
  name : String
  type : ColumnType := {}
  constraints : List ColumnConstraint := []
  deriving Repr, Inhabited

/-- An entry in the list of a key. -/
structure KeyColumn where
  /-- The column, if the entry is one. -/
  name : Option String
  collation : Option String := none
  descending : Bool := false
  deriving DecidableEq, Repr, Inhabited

inductive TableConstraint where
  | primaryKey (columns : List KeyColumn) (autoincrement : Bool) (resolution : Option Resolution)
  | unique (columns : List KeyColumn) (resolution : Option Resolution)
  | check (e : Expression)
  | foreignKey (columns : List String) (reference : Reference) (deferred : Bool)
  deriving Repr, Inhabited

/-- What is said of a table after its parentheses. -/
inductive TableOption where
  /-- Every column has one of the types that are known by name, and holds nothing else. -/
  | strict
  /-- The rows have no numbers, only their primary key. -/
  | unnumbered
  deriving DecidableEq, Repr, Inhabited

structure Definition where
  name : String
  ifNotExists : Bool := false
  columns : List ColumnDefinition
  constraints : List TableConstraint := []
  options : List TableOption := []
  /-- The text from the name up to where a column can be added: right before the comma or the
  parenthesis that ends the columns. -/
  opening : String
  /-- The rest of the text. -/
  ending : String
  deriving Repr, Inhabited

namespace Definition

/-- The statement as it is stored. -/
def text (d : Definition) : String := "CREATE TABLE " ++ d.opening ++ d.ending

/-- The statement with one more column after the others. -/
def textWithColumn (d : Definition) (column : String) : String :=
  "CREATE TABLE " ++ d.opening ++ ", " ++ column ++ d.ending

end Definition

end Conform.Sqlite
