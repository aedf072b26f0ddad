import Conform.Text.Blank

/-! The declared schema: tables with their fields, relations, keys and indexes, and enumerations.
A field that stands for a relation has no column of its own. -/
namespace Conform.Schema

/-- What happens to referencing rows when the row they reference goes or changes. -/
inductive ReferentialAction where
  | cascade
  | restrict
  | noAction
  | setNull
  | setDefault
  deriving DecidableEq, Repr

namespace ReferentialAction

/-- The spelling of an action in a schema. -/
def name : ReferentialAction → String
  | cascade => "Cascade"
  | restrict => "Restrict"
  | noAction => "NoAction"
  | setNull => "SetNull"
  | setDefault => "SetDefault"

/-- The key words of an action in a statement. -/
def keywords : ReferentialAction → String
  | cascade => "CASCADE"
  | restrict => "RESTRICT"
  | noAction => "NO ACTION"
  | setNull => "SET NULL"
  | setDefault => "SET DEFAULT"

def all : List ReferentialAction := [cascade, restrict, noAction, setNull, setDefault]

/-- The action spelled `spelling`, white space around it aside. Any other word is no action. -/
def ofName? (spelling : String) : Option ReferentialAction :=
  all.find? fun action => action.name.toList == Text.trim spelling.toList

end ReferentialAction

/-- The two sides of a relation. It owns a foreign key when it lists local columns; the opposite
side of a relation lists none. -/
structure Relation where
  field : String := ""
  referencedTable : String := ""
  fields : List String := []
  references : List String := []
  onDelete : Option ReferentialAction := none
  onUpdate : Option ReferentialAction := none
  deriving DecidableEq, Repr, Inhabited

def Relation.ownsForeignKey (r : Relation) : Bool := !r.fields.isEmpty

structure Field where
  name : String
  type : String
  isArray : Bool := false
  isOptional : Bool := false
  isUnique : Bool := false
  isEnum : Bool := false
  isRelation : Bool := false
  isObjectId : Bool := false
  isId : Bool := false
  relation : Option Relation := none
  deriving DecidableEq, Repr, Inhabited

def Field.isColumn (f : Field) : Bool := !f.isRelation

/-- The foreign key that a relation field brings, if it brings one. -/
def Field.foreignKey? (f : Field) : Option Relation :=
  if f.isRelation then f.relation.filter (·.ownsForeignKey) else none

structure UniqueConstraint where
  fields : List String
  deriving DecidableEq, Repr, Inhabited

structure Index where
  fields : List String
  deriving DecidableEq, Repr, Inhabited

structure Table where
  name : String
  fields : List Field := []
  uniqueConstraints : List UniqueConstraint := []
  indexes : List Index := []
  idFields : List String := []
  deriving DecidableEq, Repr, Inhabited

namespace Table

def field? (t : Table) (name : String) : Option Field := t.fields.find? (·.name == name)

def columns (t : Table) : List Field := t.fields.filter (·.isColumn)

def foreignKeys (t : Table) : List Relation := t.fields.filterMap (·.foreignKey?)

/-- The tables that the foreign keys point at, one entry a key. -/
def referencedTables (t : Table) : List String := t.foreignKeys.map (·.referencedTable)

/-- An index is unique when it covers all fields of some unique constraint. -/
def indexIsUnique (t : Table) (index : Index) : Bool :=
  t.uniqueConstraints.any fun u => u.fields.all (index.fields.contains ·)

def indexName (t : Table) (index : Index) : String :=
  "idx_" ++ t.name ++ "_" ++ "_".intercalate index.fields

def foreignKeyName (t : Table) (r : Relation) : String := "fk_" ++ t.name ++ "_" ++ r.field

end Table

structure Enumeration where
  name : String
  values : List String
  deriving DecidableEq, Repr, Inhabited

/-- A whole schema, in the order of its declarations. -/
structure Model where
  tables : List Table := []
  enums : List Enumeration := []
  deriving DecidableEq, Repr, Inhabited

namespace Model

def tableNames (m : Model) : List String := m.tables.map (·.name)

def table? (m : Model) (name : String) : Option Table := m.tables.find? (·.name == name)

def enum? (m : Model) (name : String) : Option Enumeration := m.enums.find? (·.name == name)

end Model

end Conform.Schema
