import Conform.Schema.Basic
import Conform.Schema.Fault

/-! Normalization turns declarations as written into a schema that the rest of the library works
on: types lose their markers, fields are told apart as columns, enumerations and relations, names
are checked, and every unique field or constraint gets an index. -/
namespace Conform.Schema

/-- A type with its markers split off. -/
structure MarkedType where
  base : List Char
  isArray : Bool := false
  isOptional : Bool := false
  deriving DecidableEq, Repr

/-- The markers of a type read from its end, so the text comes and the base goes reversed. -/
def splitReversed : List Char → MarkedType
  | '?' :: rest => { splitReversed rest with isOptional := true }
  | ']' :: '[' :: rest => { splitReversed rest with isArray := true }
  | base => { base }

/-- Splits the `?` and `[]` markers off the end of a type. -/
def splitMarkers (type : List Char) : MarkedType :=
  let marked := splitReversed type.reverse
  { marked with base := marked.base.reverse }

/-- `names` with `name` at its end, unless it is there already. -/
def addOnce (names : List String) (name : String) : List String :=
  if names.contains name then names else names ++ [name]

/-- The first name that stands in the list, or among the `seen`, a second time. -/
def firstRepeated? (seen : List String) : List String → Option String
  | [] => none
  | name :: rest =>
    if seen.contains name then some name else firstRepeated? (name :: seen) rest

/-- Tells what a field is from its type. A relation takes its own name and its table from the
field; a field of any other type may not own a foreign key. -/
def Field.classify (models enums : List String) (table : String) (f : Field) :
    Except Fault Field :=
  let marked := splitMarkers f.type.toList
  let base := String.ofList marked.base
  let isEnum := f.isEnum || enums.contains base
  let isRelation := !isEnum && models.contains base
  let classified := { f with
    type := base
    isArray := f.isArray || marked.isArray
    isOptional := f.isOptional || marked.isOptional
    isEnum
    isRelation }
  if isRelation then
    let relation : Relation := { f.relation.getD {} with field := f.name, referencedTable := base }
    if relation.fields.length = relation.references.length then
      .ok { classified with relation := some relation }
    else
      .error (.unpairedRelation table f.name relation.fields.length relation.references.length)
  else if f.relation.any (·.ownsForeignKey) then
    .error (.relationToNoModel table f.name base)
  else
    .ok { classified with relation := none }

/-- Classifies every field and lets the fields marked as id join the key. -/
def Table.classify (models enums : List String) (t : Table) : Except Fault Table := do
  let fields ← t.fields.mapM (·.classify models enums t.name)
  return { t with
    fields
    idFields := ((fields.filter (·.isId)).map (·.name)).foldl addOnce t.idFields }

/-- The first name that is no field of the table. -/
def Table.unknownName? (t : Table) (names : List String) : Option String :=
  names.find? fun name => (t.field? name).isNone

/-- The first name whose field is a relation. -/
def Table.relationName? (t : Table) (names : List String) : Option String :=
  names.find? fun name => (t.field? name).any (!·.isColumn)

/-- Keys and indexes may only name fields that have a column. -/
def Table.columnFault? (t : Table) (mention : Mention) (names : List String) : Option Fault :=
  match t.unknownName? names, t.relationName? names with
  | some name, _ => some (.unknownField t.name mention name)
  | none, some name => some (.relationHasNoColumn t.name mention name)
  | none, none => none

/-- A foreign key goes from columns of its table to fields of a declared table. -/
def Table.foreignKeyFault? (t : Table) (tables : List Table) (r : Relation) : Option Fault :=
  match t.unknownName? r.fields, t.relationName? r.fields,
      tables.find? (·.name == r.referencedTable) with
  | some name, _, _ => some (.unknownField t.name .relation name)
  | none, some column, _ => some (.relationColumnIsRelation t.name column)
  | none, none, none => some (.unknownModel t.name r.referencedTable)
  | none, none, some target =>
    (target.unknownName? r.references).map fun missing =>
      .unknownReference t.name r.field target.name missing

/-- Everything wrong with a classified table, in the order of the checks. -/
def Table.faults (t : Table) (tables : List Table) : List Fault :=
  (t.columnFault? .id t.idFields).toList ++
  t.uniqueConstraints.filterMap (fun u => t.columnFault? .uniqueConstraint u.fields) ++
  t.indexes.filterMap (fun i => t.columnFault? .index i.fields) ++
  ((t.fields.find? fun f => f.isUnique && f.isRelation).map
    fun f => Fault.uniqueRelation t.name f.name).toList ++
  t.foreignKeys.filterMap (t.foreignKeyFault? tables)

/-- `constraints` with one on `name` alone at its end, unless it is there already. -/
def coverUnique (constraints : List UniqueConstraint) (name : String) : List UniqueConstraint :=
  if constraints.contains ⟨[name]⟩ then constraints else constraints ++ [⟨[name]⟩]

/-- Gives every unique field a constraint of its own. -/
def Table.foldUniqueFields (t : Table) : Table :=
  { t with uniqueConstraints :=
      ((t.fields.filter (·.isUnique)).map (·.name)).foldl coverUnique t.uniqueConstraints }

/-- Gives every unique constraint without a declared index on the same fields an index. -/
def Table.foldUniqueConstraints (t : Table) : Table :=
  { t with indexes := t.indexes ++
      (t.uniqueConstraints.filter fun u => !t.indexes.contains ⟨u.fields⟩).map (⟨·.fields⟩) }

/-- The schema that the declarations stand for, or the first fault in them. -/
def normalize (tables : List Table) (enums : List Enumeration) : Except Fault Model := do
  let models := tables.map (·.name)
  if let some name := firstRepeated? [] models then throw (.declaredTwice name)
  let classified ← tables.mapM (·.classify models (enums.map (·.name)))
  if let some fault := (classified.flatMap (·.faults classified)).head? then throw fault
  return { tables := classified.map (·.foldUniqueFields.foldUniqueConstraints), enums }

end Conform.Schema
