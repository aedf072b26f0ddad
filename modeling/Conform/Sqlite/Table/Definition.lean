import Conform.Sqlite.Expression.Comparison
import Conform.Sqlite.Table

/-! The table that a definition makes: its columns, what their constraints and those of the table
add, and what is said after the parentheses. What cannot mean anything is refused at once, what
cannot be worked out for any row as soon as a row is to be made. -/
namespace Conform.Sqlite

open Text (sameLetters)

namespace Table

/-- Makes columns the primary key. One INTEGER column is the number of the row, unless it alone
is declared to descend. -/
def addPrimaryKey (t : Table) (entries : List IndexEntry) (numbers autoincrement : Bool)
    (resolution : Option Resolution) : Except Refusal Table := do
  let positions := entries.filterMap (·.column?)
  if !t.key.isEmpty then throw (.secondPrimaryKey t.name)
  for position in positions do
    if ((t.columns[position]?).bind (·.generated)).isSome then
      throw (.misplacedGenerated (t.columnName position))
  let t := { t with key := positions }
  match positions with
  | [position] =>
    if numbers && (t.columns[position]?).any (·.type.isInteger) then
      return { t with
        numberColumn := some position
        numberResolution := resolution
        numberDescends := entries.any (·.descending)
        autoincrement }
  | _ => pure ()
  if autoincrement then throw .autoincrementMisplaced
  t.addConstraintIndex entries true resolution

def requireCollation (t : Table) (name : String) : Except Refusal Collation :=
  match Collation.ofName? name with
  | some c => .ok c
  | none => .error (.noSuchCollation t.name)

def entryOf (t : Table) (c : KeyColumn) : Except Refusal IndexEntry := do
  match c.name with
  | none => throw (.expressionInKey t.name)
  | some name =>
    let position ← t.requirePosition name
    return {
      term := .column position
      collation := ← (c.collation.elim (.ok (t.collationAt position)) t.requireCollation)
      descending := c.descending }

/-- The table with its last column changed. -/
def mapLast (t : Table) (f : Column → Column) : Table :=
  { t with columns := t.columns.modify (t.columns.length - 1) f }

def addForeignKey (t : Table) (columns : List Nat) (reference : Reference) (deferred : Bool) :
    Except Refusal Table := do
  unless reference.columns.isEmpty || reference.columns.length == columns.length do
    throw (.unevenForeignKey t.name)
  return { t with foreignKeys := ⟨columns, reference, deferred⟩ :: t.foreignKeys }

/-- What a constraint says of the last column. -/
def constrainColumn (t : Table) (c : ColumnConstraint) : Except Refusal Table := do
  let position := t.columns.length - 1
  let name := t.columnName position
  let isGenerated := ((t.columns[position]?).bind (·.generated)).isSome
  let own : IndexEntry := { term := .column position, collation := t.collationAt position }
  match c with
  | .default d =>
    if isGenerated then throw (.misplacedGenerated name)
    if !d.value.isConstant then throw (.defaultNotConstant name)
    return t.mapLast fun c => { c with default := some d }
  | .nullable => return t
  | .notNull resolution =>
    return t.mapLast fun c => { c with notNull := some (resolution.getD .abort) }
  | .primaryKey descending autoincrement resolution =>
    t.addPrimaryKey [{ own with descending }] (!descending) autoincrement resolution
  | .unique resolution => t.addConstraintIndex [own] false resolution
  | .check e => return { t with checks := t.checks ++ [e] }
  | .references reference => t.addForeignKey [position] reference false
  | .deferral deferred =>
    return { t with foreignKeys := t.foreignKeys.modify 0 fun k => { k with deferred } }
  | .collate collation =>
    let collation ← t.requireCollation collation
    let t := t.mapLast fun c => { c with collation }
    return { t with indexes := t.indexes.map fun i =>
      if (i.entries.head?.bind (·.column?)) == some position then
        { i with entries := i.entries.modify 0 fun e => { e with collation } }
      else i }
  | .generated value word =>
    let stored := word.any (sameLetters · "stored")
    if isGenerated || ((t.columns[position]?).bind (·.default)).isSome ||
        t.key.contains position || !(stored || word.all (sameLetters · "virtual")) then
      throw (.misplacedGenerated name)
    return t.mapLast fun c => { c with generated := some { value, stored } }

def addColumn (t : Table) (c : ColumnDefinition) : Except Refusal Table := do
  if (t.position? c.name).isSome then throw (.duplicateColumn c.name)
  let t := { t with columns := t.columns ++ [{ name := c.name, type := c.type }] }
  c.constraints.foldlM constrainColumn t

def constrain (t : Table) : TableConstraint → Except Refusal Table
  | .primaryKey columns autoincrement resolution => do
    t.addPrimaryKey (← columns.mapM t.entryOf) true autoincrement resolution
  | .unique columns resolution => do
    t.addConstraintIndex (← columns.mapM t.entryOf) false resolution
  | .check e => return { t with checks := t.checks ++ [e] }
  | .foreignKey columns reference deferred => do
    let positions ← columns.mapM fun column => match t.position? column with
      | some position => .ok position
      | none => .error (.unknownForeignKeyColumn column)
    t.addForeignKey positions reference deferred

/-- Lets no null into the primary key, unless that is the number of the row. -/
def fillKey (t : Table) : Table :=
  { t with columns := t.columns.zipIdx.map fun (c, position) =>
      if t.key.contains position && some position != t.numberColumn then
        { c with notNull := c.notNull.or (some .abort) }
      else c }

/-- Every column of a strict table has a type that is known by name. -/
def makeStrict (t : Table) : Except Refusal Table := do
  for c in t.columns do
    if c.type.datatype.isNone then throw (.unknownDatatype t.name c.name)
  return fillKey { t with
    isStrict := true
    columns := t.columns.map fun c => { c with type := c.type.asStrict } }

/-- A table without numbers keeps any primary key by an index, in which no column comes twice. -/
def dropNumbers (t : Table) : Except Refusal Table := do
  if t.autoincrement then throw .autoincrementMisplaced
  if t.key.isEmpty then throw (.noPrimaryKey t.name)
  let t := { t with isNumbered := false }
  let t ← match t.numberColumn with
    | none => pure { t with indexes := t.indexes.map fun i =>
        if i.primary then { i with entries := distinct i.entries } else i }
    | some position =>
      let entry : IndexEntry := {
        term := .column position
        collation := t.collationAt position
        descending := t.numberDescends }
      addConstraintIndex { t with numberColumn := none, numberResolution := none } [entry] true
        t.numberResolution
  return t.fillKey
where
  distinct (entries : List IndexEntry) : List IndexEntry :=
    entries.foldl (fun found e =>
      if found.any fun f => f.term == e.term && f.collation == e.collation then found
      else found ++ [e]) []

/-- Applies what is said after the parentheses. -/
def applyOptions (t : Table) (options : List TableOption) : Except Refusal Table := do
  let t ← if options.contains .strict then t.makeStrict else pure t
  if options.contains .unnumbered then t.dropNumbers else pure t

/-- What names mean in the expressions of generated columns. -/
def generatedScope (t : Table) : Scope := { t.scope with seesNumber := false }

/-- The generated columns with their expressions: all of them, or those that are not stored. -/
def generatedColumns (t : Table) (storedToo : Bool) : List (Nat × Expression) :=
  t.columns.zipIdx.filterMap fun (c, position) =>
    c.generated.bind fun g => if g.stored && !storedToo then none else some (position, g.value)

/-- Some column whose value comes from itself. What remains after each round are the columns that
name others that remain. -/
def loop? (t : Table) (storedToo : Bool) : Option Nat :=
  let columns := t.generatedColumns storedToo
  let remain (left : List (Nat × Expression)) : List (Nat × Expression) :=
    left.filter fun (_, e) => left.any fun (other, _) => e.mentions t.generatedScope other
  (columns.foldl (fun left _ => remain left) columns).head?.map (·.1)

/-- Refuses expressions that cannot be worked out for any row. -/
def requireUsable (t : Table) (es : List Expression) : Except Refusal Unit := do
  if !es.all (·.isUsable) then throw (.unusableExpression t.name)
  if !es.all (·.knowsCollations t.scope) then throw (.noSuchCollation t.name)

/-- Refuses expressions that mean nothing, and values that are not stored and cannot be worked
out. -/
def checkExpressions (t : Table) : Except Refusal Unit := do
  if !t.checks.all (·.isMeaningful t.scope) then throw (.meaninglessCheck t.name)
  let isFit (e : Expression) : Bool := e.isMeaningful t.generatedScope && e.isDeterministic
  for (position, e) in t.generatedColumns true do
    if !isFit e then throw (.misplacedGenerated (t.columnName position))
  t.requireUsable ((t.generatedColumns false).map (·.2))
  if let some position := t.loop? false then throw (.generatedLoop (t.columnName position))

/-- Refuses a default that has no value. -/
def requireDefault (t : Table) (position : Nat) : Except Refusal Unit := do
  if let some d := (t.columns[position]?).bind (·.default) then
    let e := d.value
    if !(e.all (·.isCallable) && e.isUsable) then throw (.unusableExpression t.name)
    if !e.knowsCollations defaultScope then throw (.noSuchCollation t.name)

/-- Refuses a table whose checks and generated values, and the defaults that may stand for nulls,
cannot be worked out for any row. -/
def requireWorkable (t : Table) : Except Refusal Unit := do
  t.requireUsable (t.checks ++ (t.generatedColumns true).map (·.2))
  for (c, position) in t.columns.zipIdx do
    if c.notNull == some .replace && some position != t.numberColumn then
      t.requireDefault position
  if let some position := t.loop? true then throw (.generatedLoop (t.columnName position))

/-- The empty table of a definition. -/
def ofDefinition (d : Definition) : Except Refusal Table := do
  let t ← d.columns.foldlM addColumn { definition := d }
  let t ← d.constraints.foldlM constrain t
  let t ← t.applyOptions d.options
  if t.columns.all (·.generated.isSome) then throw .noPlainColumn
  t.checkExpressions
  return t

end Table

end Conform.Sqlite
