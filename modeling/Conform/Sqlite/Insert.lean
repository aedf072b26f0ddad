import Conform.Sqlite.Change

/-! Inserting a row. Constraints are tried in a fixed order: nulls, checks, the number of the row,
then the unique indexes. Each says what is done about a row that breaks it. -/
namespace Conform.Sqlite

open Text (sameLetters)

namespace Table

/-- The greatest number of a row. -/
def greatestNumber : Int := wordLimit - 1

/-- The number for a new row, one more than the greatest so far. Where no greater one is left, one
that is free is taken, unless numbers are never given again. -/
def nextNumber (t : Table) (last : Int) : Except Refusal Int :=
  let next := (t.rows.maxKey?).elim 1 (· + 1)
  let next := if t.autoincrement then max next (last + 1) else next
  if next ≤ greatestNumber then .ok next
  else if t.autoincrement then .error .full
  else .ok (firstFree 1 (t.rows.size + 1))
where
  firstFree (n : Int) : (fuel : Nat) → Int
    | 0 => n
    | fuel + 1 => if t.rows.contains n then firstFree (n + 1) fuel else n

/-- A row for some values, one for every column. A null in the column of the number takes a new
number. -/
def numbered (t : Table) (last : Int) (values : List Value) : Except Refusal Row :=
  match t.numberColumn with
  | none => do return ⟨← t.nextNumber last, values⟩
  | some position =>
    let v := (values[position]?).getD .null
    if v.isNull then do
      let id ← t.nextNumber last
      return ⟨id, values.set position (.integer id)⟩
    else match v.rowNumber? with
      | some id => .ok ⟨id, values.set position (.integer id)⟩
      | none => .error (.noRowNumber t.name)

/-- Settles a null in a column that may hold none. Without a row nothing is inserted. -/
def settleNull (t : Table) (position : Nat) (c : Column) (mayFill : Bool) (r : Row) :
    Except Refusal (Option Row) :=
  match c.notNull with
  | none => .ok (some r)
  | some resolution =>
    if some position == t.numberColumn || !(r.value position).isNull then .ok (some r)
    else if resolution = .ignore then .ok none
    else if resolution = .replace && mayFill && c.default.isSome then do
      return some { r with values := r.values.set position (← t.defaultAt position) }
    else .error (.notNull t.name c.name)

/-- Settles all nulls, first those of plain columns. A default may itself be null. -/
def settleNulls (t : Table) (r : Row) : Except Refusal (Option Row) := do
  let pass (mayFill : Bool) (columns : List (Column × Nat)) (r : Option Row) :
      Except Refusal (Option Row) :=
    columns.foldlM (fun r (c, position) => match r with
      | none => return none
      | some r => t.settleNull position c mayFill r) r
  let plain := t.columns.zipIdx.filter fun (c, _) => c.generated.isNone
  if t.columns.any (·.generated.isSome) then
    let _ ← t.finished r
  let filled ← pass true plain (some r)
  let complete ← filled.mapM t.finished
  let rest := t.columns.zipIdx.filter fun (c, _) =>
    c.generated.isSome || c.notNull == some .replace
  pass false rest complete

/-- What has to be unique: the number of a row, or its key in an index. -/
inductive Uniqueness where
  | number
  | index (name : String)

/-- What has to be unique, in the order in which it is tried. -/
def uniquenesses (t : Table) : List Uniqueness :=
  let indexes := (t.indexes.filter (·.unique)).map fun i => Uniqueness.index i.name
  if t.numberColumn.isNone then indexes
  else if t.numberResolution == some .replace then indexes ++ [.number]
  else .number :: indexes

/-- The row that stands in the way of a new one, and what is to be done about it. -/
def rival? (t : Table) (r : Row) : Uniqueness → Option (Int × Resolution)
  | .number =>
    if t.rows.contains r.id then some (r.id, t.numberResolution.getD .abort) else none
  | .index name => do
    let i ← t.indexes.find? (·.name == name)
    return (← i.holder? r.values, i.resolution.getD .abort)

/-- Does the table replace rows that stand in the way of new ones? -/
def replacesRows (t : Table) : Bool :=
  (t.numberColumn.isSome && t.numberResolution == some .replace) ||
    t.indexes.any fun i => i.unique && i.resolution == some .replace

end Table

namespace Change

/-- Removes what stands in the way of a new row. Without that, nothing is inserted. -/
def clearWay (name : String) (r : Row) : List Table.Uniqueness → Change Bool
  | [] => return true
  | u :: rest => do
    let t ← table name
    match t.rival? r u with
    | none => clearWay name r rest
    | some (_, .ignore) => return false
    | some (id, .replace) => do
      deleteRow name id
      clearWay name r rest
    | some _ => throw (.notUnique t.name (t.key.map t.columnName))

/-- Refuses an insertion, whatever the row, if a foreign key has no counterpart. -/
def requireCounterparts (t : Table) : Change Unit := do
  let db := (← get).database
  for k in t.foreignKeys do
    let _ ← db.parentOf t.name k
  for (child, k) in db.keysTo t.name do
    if k.deferred || t.replacesRows then
      let _ ← db.parentOf child k
  if t.replacesRows then db.requireReach (.delete t.name)

/-- Inserts a row that has a value for every column. -/
def insert (name : String) (values : List Value) : Change Unit := do
  let t ← table name
  t.requireWorkable
  if (← get).enforced then requireCounterparts t
  let r ← t.numbered ((← get).database.lastNumber t.name) values
  if t.autoincrement then
    modify fun w => { w with database := w.database.noteNumber t.name r.id }
  match ← t.settleNulls r with
  | none => return
  | some r =>
    t.requireGeneratedTypes (fun _ => true) (fun _ => true) r
    t.requireChecks (fun _ => true) r
    if ← clearWay name r t.uniquenesses then
      let t ← table name
      if t.uniquenesses.any fun u => (t.rival? r u).isSome then
        throw (.notUnique t.name (t.key.map t.columnName))
      if (← get).enforced then
        let db := (← get).database
        let own := t.foreignKeys.filter fun k => !t.replacesRows || db.needsParent t.name k
        requireParents t own r
        let keys := (db.keysTo t.name).filter fun (_, k) =>
          k.deferred || t.replacesRows
        adoptChildren t keys r
      setTable (t.put r)

end Change

end Conform.Sqlite
