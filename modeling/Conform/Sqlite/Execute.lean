import Conform.Sql.Statement
import Conform.Sqlite.Catalog
import Conform.Sqlite.Insert
import Conform.Sqlite.Statement

/-! The statements that a database executes, as far as reconciliation needs them, and the catalog
that it answers from. -/
namespace Conform.Sqlite

open Text (sameLetters)

namespace Database

def createTable (db : Database) (d : Definition) : Except Refusal Database := do
  if isReserved d.name then throw (.reservedName d.name)
  if (db.table? d.name).isSome then
    if d.ifNotExists then return db else throw (.tableExists d.name)
  if (db.index? d.name).isSome then throw (.indexExists d.name)
  let t ← Table.ofDefinition d
  let db := (db.add t).changed
  return if t.autoincrement then db.withSequences else db

/-- A table that statements may change. -/
def requireOwn (db : Database) (name : String) : Except Refusal Table := do
  if isCatalog name || sameLetters name sequenceTable then throw (.systemTable name)
  db.requireTable name

/-- Drops a table. Where foreign keys are enforced its rows are deleted first if any key
references it, and no row may lack a parent then. -/
def dropTable (db : Database) (enforced : Bool) (name : String) (ifExists : Bool) :
    Except Refusal Database := do
  if isCatalog name || sameLetters name sequenceTable then throw (.systemTable name)
  match db.table? name with
  | none => if ifExists then return db else throw (.noSuchTable name)
  | some t =>
    let keys := db.keysTo name
    let cleared ← if !enforced || keys.isEmpty then pure db else do
      let matching := keys.filter fun (_, k) => (k.parentKey? t).isSome
      for (child, k) in matching do
        match reachOf child k k.reference.onDelete true with
        | some r => db.requireReach r
        | none => pure ()
      let change : Change Unit := do
        Change.clear t.name
        if (← get).missing != 0 then throw .orphan
      Change.finish change { database := db, enforced }
    let db := if t.autoincrement then cleared.forgetNumber t.name else cleared
    return (db.erase t).changed

/-- The table with another column, in which all rows hold null. All names in its definition are
read anew. -/
def addColumn (db : Database) (name column : String) (definition : String) :
    Except Refusal Database := do
  let t ← db.requireOwn name
  if (t.position? column).isSome then throw (.duplicateColumn column)
  let text := t.definition.textWithColumn definition
  match Definition.ofText? text with
  | none => throw (.unreadable text)
  | some d =>
    let bare ← Table.ofDefinition d
    let rows ← t.allRows.mapM fun r => bare.generate { r with values := r.values ++ [.null] }
    for r in rows do
      bare.requireChecks (fun _ => true) r
    let declared := (t.indexes.filter (!·.ofConstraint)).reverse
    let indexes := declared.foldl (fun indexes i =>
      let entries := (i.declared.map fun d => (bare.indexOf d).entries).getD i.entries
      Table.withIndex { i.widened entries t.allRows with holders := ∅ } indexes) bare.indexes
    let widened := Table.withPagesOf { bare with indexes } t
    return (db.put (rows.foldl Table.put widened)).changed

def createIndex (db : Database) (index : Sql.Index) : Except Refusal Database := do
  if isReserved index.name then throw (.reservedName index.name)
  let t ← db.requireOwn index.table
  if (db.index? index.name).isSome then throw (.indexExists index.name)
  if (db.table? index.name).isSome then throw (.tableExists index.name)
  if index.columns.isEmpty then throw (.unreadable index.sql)
  let t ← t.addIndex (t.indexOf index)
  let (root, pages) := db.pages.take
  return ({ db with pages }.put (t.setRoot index.name root)).changed

def dropIndex (db : Database) (name : String) (ifExists : Bool) : Except Refusal Database := do
  match db.index? name with
  | none => if ifExists then return db else throw (.noSuchIndex name)
  | some (t, index) =>
    if index.ofConstraint then throw (.constraintIndex index.name)
    let t := { t with indexes := t.indexes.filter (·.name != index.name) }
    return ({ db with pages := db.pages.give index.root }.put t).changed

/-- The values of a row for all columns, from those that a statement gives for some of them. -/
def complete (t : Table) (given : List (Nat × Value)) : Except Refusal (List Value) :=
  (List.range t.columns.length).mapM fun position =>
    match given.lookup position with
    | some v => .ok v
    | none =>
      if ((t.columns[position]?).bind (·.generated)).isSome then .ok .null
      else t.defaultAt position

/-- No statement goes on after a zero character. -/
def hasZero : Value → Bool
  | .text s => s.contains 0
  | .null | .integer _ | .real _ | .blob _ => false

/-- Inserts a row that gives a value for every column but the generated ones. -/
def insert (db : Database) (enforced : Bool) (name : String) (values : List Value) :
    Except Refusal Database := do
  if isCatalog name then throw (.systemTable name)
  let t ← db.requireTable name
  let positions := t.plainPositions
  if positions.length != values.length then
    throw (.valueCount t.name positions.length values.length)
  if values.any hasZero then throw (.unreadable name)
  Change.finish (Change.insert t.name (← complete t (positions.zip values)))
    { database := db, enforced }

/-- Inserts rows that give values for some columns, all of them or none. -/
def insertRows (db : Database) (enforced : Bool) (name : String) (columns : Option (List String))
    (rows : List (List Expression)) : Except Refusal Database := do
  if isCatalog name then throw (.systemTable name)
  let t ← db.requireTable name
  let positions ← match columns with
    | none => pure t.plainPositions
    | some columns => columns.mapM t.requirePosition
  for position in positions do
    if !t.plainPositions.contains position then
      throw (.misplacedGenerated (t.columnName position))
  for row in rows do
    if positions.length != row.length then
      throw (.valueCount t.name positions.length row.length)
    if !row.all (·.isMeaningful defaultScope) then throw (.meaninglessCheck t.name)
    t.requireUsable row
  let change : Change Unit := do
    for row in rows do
      let values ← row.mapM fun e => (e.value defaultScope fun _ => .null : Except Refusal Value)
      Change.insert t.name (← complete t (positions.zip values))
  Change.finish change { database := db, enforced }

/-- Copies all rows as they are into an empty table of the same definition. A table with unique
keys has to be fit for rows one by one as well, and a generated column spoils that. -/
def copyRows (db : Database) (source target : String) : Except Refusal Database := do
  let rows := (← db.requireTable source).allRows
  let t ← db.requireTable target
  let skips := t.numberResolution.any fun r => r != .abort && r != .rollback
  if !t.indexes.isEmpty || skips then
    t.requireWorkable
    let given := t.columns.length
    if t.plainPositions.length != given then
      throw (.valueCount t.name t.plainPositions.length given)
  let t := rows.foldl Table.put t
  let db := db.put t
  return match t.autoincrement, rows.getLast? with
    | true, some r => db.noteNumber t.name r.id
    | _, _ => db

/-- Copies some columns of all rows, in the order in which a query meets them. -/
def copyColumns (db : Database) (enforced : Bool) (source target : String)
    (columns : List String) : Except Refusal Database := do
  let s ← db.requireTable source
  let t ← db.requireTable target
  let sources ← columns.mapM s.requirePosition
  let targets ← columns.mapM t.requirePosition
  t.requireWorkable
  for position in List.range t.columns.length do
    if !targets.contains position then t.requireDefault position
  let change : Change Unit := do
    for r in s.scanned sources do
      Change.insert t.name (← complete t (targets.zip (sources.map r.value)))
  Change.finish change { database := db, enforced }

/-- The effect of a statement that is given as text. -/
def executeText (db : Database) (enforced : Bool) (text : String) : Except Refusal Database :=
  match Statement.ofText? text with
  | none => .error (.unreadable text)
  | some (.createTable d) => db.createTable d
  | some (.dropTable name ifExists) => db.dropTable enforced name ifExists
  | some (.insert table columns rows) => db.insertRows enforced table columns rows

/-- The effect of a statement. -/
def execute (db : Database) (enforced : Bool) : Sql.Statement → Except Refusal Database
  | .createTable table ifNotExists => db.executeText enforced (table.sql ifNotExists)
  | .createLike _ _ text => db.executeText enforced text
  | .given text => db.executeText enforced text
  | .dropTable name ifExists false => db.dropTable enforced name ifExists
  | .addColumn table column => db.addColumn table column.name column.sql
  | .createIndex index => db.createIndex index
  | .dropIndex name ifExists => db.dropIndex name ifExists
  | .copyRows source target => db.copyRows source target
  | .copyColumns source target columns => db.copyColumns enforced source target columns
  | .comment _ => .ok db
  | statement => .error (.unreadable statement.sql)

/-! ### What is read -/

/-- The position in the primary key, counted from one, at which a column first stands. -/
def rank (t : Table) (position : Nat) : Nat := (t.key.idxOf? position).elim 0 (· + 1)

/-- The columns in view. Generated ones are not. -/
def columnRows (t : Table) : List ColumnRow :=
  (t.columns.zipIdx.filter fun (c, _) => c.generated.isNone).map fun (c, position) => {
    name := c.name
    type := c.type.name
    notNull := c.notNull.isSome
    default := c.default.map (·.text)
    rank := rank t position }

/-- The columns of all foreign keys of a table. The last key has the first number. -/
def foreignKeyRows (t : Table) : List ForeignKeyRow :=
  t.foreignKeys.zipIdx.flatMap fun (k, id) =>
    k.columns.zipIdx.map fun (source, position) => {
      id
      position
      table := k.reference.table
      source := t.columnName source
      target := k.reference.columns[position]? }

def catalog (db : Database) : Catalog where
  definitions := db.tables.map fun t => (t.name, t.definition.text)
  columns name := (db.table? name).elim [] columnRows
  indexes name := (db.table? name).elim [] fun t =>
    t.indexes.map fun index => ⟨index.name, index.unique⟩
  indexEntries name := (db.index? name).elim [] fun (t, index) =>
    index.entries.zipIdx.map fun (entry, position) => ⟨position, entry.column?.map t.columnName⟩
  foreignKeys name := (db.table? name).elim [] foreignKeyRows

end Database

end Conform.Sqlite
