import Conform.Json.Parser
import Conform.Json.Printer
import Conform.Schema.Normal

/-! Schemas as two JSON documents, the table definitions and the enumeration definitions. All
members are written, but a relation only where there is one; a reader supplies what is missing,
names and types apart. -/
namespace Conform.Schema

open Json

def texts (items : List String) : Json := .array (items.map .string)

def texts? (j : Json) : Option (List String) := j.listOf? string?

def ReferentialAction.toJson : Option ReferentialAction → Json
  | none => .null
  | some action => .string action.name

/-- Words that name no action read as none. -/
def ReferentialAction.ofJson? (j : Json) : Option (Option ReferentialAction) :=
  (j.nullable? string?).map (·.bind ReferentialAction.ofName?)

namespace Relation

def keys : List String :=
  ["field", "referencedTable", "fields", "references", "onDelete", "onUpdate"]

def toJson (r : Relation) : Json :=
  .object (keys.zip [.string r.field, .string r.referencedTable, texts r.fields,
    texts r.references, ReferentialAction.toJson r.onDelete, ReferentialAction.toJson r.onUpdate])

def ofJson? (j : Json) : Option Relation := do
  let [field, referencedTable, fields, references, onDelete, onUpdate] ← j.record? keys | none
  return {
    field := ← orElse? string? "" field
    referencedTable := ← orElse? string? "" referencedTable
    fields := ← orElse? texts? [] fields
    references := ← orElse? texts? [] references
    onDelete := ← orElse? ReferentialAction.ofJson? none onDelete
    onUpdate := ← orElse? ReferentialAction.ofJson? none onUpdate }

end Relation

namespace Field

def keys : List String :=
  ["name", "type", "isArray", "isOptional", "isUnique", "isEnum", "isRelation", "isObjectId",
    "isId", "relation"]

def toJson (f : Field) : Json :=
  .object (keys.zip ([.string f.name, .string f.type, .bool f.isArray, .bool f.isOptional,
    .bool f.isUnique, .bool f.isEnum, .bool f.isRelation, .bool f.isObjectId, .bool f.isId] ++
    (f.relation.map Relation.toJson).toList))

def ofJson? (j : Json) : Option Field := do
  let [name, type, isArray, isOptional, isUnique, isEnum, isRelation, isObjectId, isId, relation]
    ← j.record? keys | none
  return {
    name := ← required? string? name
    type := ← required? string? type
    isArray := ← orElse? bool? false isArray
    isOptional := ← orElse? bool? false isOptional
    isUnique := ← orElse? bool? false isUnique
    isEnum := ← orElse? bool? false isEnum
    isRelation := ← orElse? bool? false isRelation
    isObjectId := ← orElse? bool? false isObjectId
    isId := ← orElse? bool? false isId
    relation := ← orElse? (nullable? Relation.ofJson?) none relation }

end Field

/-- Unique constraints and indexes are records of one field list. -/
def fieldsOnly (fields : List String) : Json := .object [("fields", texts fields)]

def fieldsOnly? (j : Json) : Option (List String) := do
  let [fields] ← j.record? ["fields"] | none
  required? texts? fields

namespace Table

def keys : List String := ["name", "fields", "uniqueConstraints", "indexes", "idFields"]

def toJson (t : Table) : Json :=
  .object (keys.zip [.string t.name, .array (t.fields.map Field.toJson),
    .array (t.uniqueConstraints.map (fieldsOnly ·.fields)),
    .array (t.indexes.map (fieldsOnly ·.fields)), texts t.idFields])

def ofJson? (j : Json) : Option Table := do
  let [name, fields, uniqueConstraints, indexes, idFields] ← j.record? keys | none
  return {
    name := ← required? string? name
    fields := ← required? (listOf? Field.ofJson?) fields
    uniqueConstraints :=
      ← orElse? (listOf? fun j => (fieldsOnly? j).map UniqueConstraint.mk) [] uniqueConstraints
    indexes := ← orElse? (listOf? fun j => (fieldsOnly? j).map Index.mk) [] indexes
    idFields := ← orElse? texts? [] idFields }

end Table

namespace Enumeration

def keys : List String := ["name", "values"]

def toJson (e : Enumeration) : Json := .object (keys.zip [.string e.name, texts e.values])

def ofJson? (j : Json) : Option Enumeration := do
  let [name, values] ← j.record? keys | none
  return { name := ← required? string? name, values := ← required? texts? values }

end Enumeration

/-- The document of table definitions. -/
def tableDocument (tables : List Table) : String := (Json.array (tables.map Table.toJson)).document

/-- The document of enumeration definitions. -/
def enumDocument (enums : List Enumeration) : String :=
  (Json.array (enums.map Enumeration.toJson)).document

def readTables? (document : String) : Option (List Table) := do
  (← parse? document).listOf? Table.ofJson?

def readEnums? (document : String) : Option (List Enumeration) := do
  (← parse? document).listOf? Enumeration.ofJson?

/-- The declarations of the two documents, as written. The tables are read first. -/
def readDocuments (tables enums : String) : Except Fault (List Table × List Enumeration) :=
  match readTables? tables, readEnums? enums with
  | none, _ => .error (.undecodable .tables)
  | some _, none => .error (.undecodable .enums)
  | some tables, some enums => .ok (tables, enums)

/-- The schema that two documents declare. -/
def Model.ofDocuments (tables enums : String) : Except Fault Model := do
  let (tables, enums) ← readDocuments tables enums
  normalize tables enums

end Conform.Schema
