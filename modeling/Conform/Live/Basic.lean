import Conform.Schema.Basic

/-! What a database holds: its tables with their columns, keys and indexes, as a backend reads them
from the catalog. Types are in the backend's own spelling. -/
namespace Conform.Live

structure Column where
  name : String
  type : String
  notNull : Bool := false
  default : Option String := none
  primaryKey : Bool := false
  deriving DecidableEq, Repr, Inhabited

structure Index where
  name : String
  columns : List String
  unique : Bool := false
  deriving DecidableEq, Repr, Inhabited

/-- A foreign key; not every backend keeps its name. -/
structure ForeignKey where
  name : Option String := none
  columns : List String
  table : String
  references : List String
  deriving DecidableEq, Repr, Inhabited

/-- The key stands for the relation: same columns, same table, same referenced columns. -/
def ForeignKey.realizes (key : ForeignKey) (r : Schema.Relation) : Bool :=
  key.table == r.referencedTable && key.columns == r.fields && key.references == r.references

structure Table where
  name : String
  columns : List Column := []
  indexes : List Index := []
  foreignKeys : List ForeignKey := []
  primaryKey : List String := []
  primaryKeyName : Option String := none
  deriving DecidableEq, Repr, Inhabited

namespace Table

def column? (t : Table) (name : String) : Option Column := t.columns.find? (·.name == name)

def index? (t : Table) (name : String) : Option Index := t.indexes.find? (·.name == name)

def hasForeignKey (t : Table) (r : Schema.Relation) : Bool := t.foreignKeys.any (·.realizes r)

end Table

/-- The tables of a database, one of each name. -/
structure Schema where
  tables : List Table := []
  deriving DecidableEq, Repr, Inhabited

namespace Schema

def find? (s : Schema) (name : String) : Option Table := s.tables.find? (·.name == name)

def erase (s : Schema) (name : String) : Schema := { tables := s.tables.filter (·.name != name) }

/-- Adds a table in place of one of the same name. -/
def insert (s : Schema) (t : Table) : Schema := { tables := (s.erase t.name).tables ++ [t] }

def ofList (tables : List Table) : Schema := tables.foldl insert {}

end Schema

end Conform.Live
