import Conform.Sqlite.ForeignKey

/-! Changing rows one at a time. While a statement runs, missing parents are counted, and the
counts of keys that are enforced at once and of deferred keys have to be made good by its end. A
deleted or updated row has its effect on the rows that reference it, which may have effects of
their own in turn. -/
namespace Conform.Sqlite

open Text (sameLetters)

structure Work where
  database : Database
  /-- Are foreign keys enforced? -/
  enforced : Bool
  /-- Missing parents of keys that are enforced at once. -/
  missing : Int := 0
  /-- Missing parents of deferred keys. -/
  missingDeferred : Int := 0

/-- A part of a statement. -/
abbrev Change := StateT Work (Except Refusal)

namespace Change

def table (name : String) : Change Table := do (← get).database.requireTable name

def setTable (t : Table) : Change Unit :=
  modify fun w => { w with database := w.database.put t }

/-- Is there any missing parent that could be made good? -/
def isOpen (k : ForeignKey) : Change Bool := do
  let w ← get
  return if k.deferred then w.missingDeferred != 0 else w.missing != 0

/-- Counts missing parents of a key. -/
def count (k : ForeignKey) (n : Int) : Change Unit :=
  modify fun w =>
    if k.deferred then { w with missingDeferred := w.missingDeferred + n }
    else { w with missing := w.missing + n }

/-- Runs a statement and refuses it if parents are missing at its end. -/
def finish (change : Change Unit) (w : Work) : Except Refusal Database := do
  let (_, w) ← change.run w
  if 0 < w.missing || 0 < w.missingDeferred then throw .orphan
  return w.database

/-! ### Counting -/

/-- A row of the table is about to go: what it lacked is lacking no more. In a table that is being
dropped a key without a parent table counts too. -/
def releaseParents (dropping : Bool) (t : Table) (keys : List ForeignKey) (r : Row) :
    Change Unit := do
  for k in keys do
    match (← get).database.table? k.reference.table with
    | none =>
      if dropping && k.columns.all fun c => !(r.value c).isNull then count k (-1)
    | some parent => match k.parentKey? parent with
      | none => if !dropping then throw (.foreignKeyMismatch t.name parent.name)
      | some p =>
        if (← isOpen k) && !p.hasNull r && !p.hasParent parent r then count k (-1)

/-- A row of the table is about to come: it may lack a parent, unless it is its own. -/
def requireParents (t : Table) (keys : List ForeignKey) (r : Row) : Change Unit := do
  for k in keys do
    let (parent, p) ← (← get).database.parentOf t.name k
    let isOwn := k.targets t.name && p.isOwnParent r
    if !p.hasNull r && !isOwn && !p.hasParent parent r then count k 1

/-- The rows that reference a row of the table by a key. -/
def referring (t : Table) (child : String) (k : ForeignKey) (r : Row) : Change (List Row) := do
  match k.parentKey? t with
  | some p => return p.childrenOf t (← table child) r
  | none => return []

/-- A row of the table is about to go: the rows that reference it lack it, but for itself. -/
def orphanChildren (t : Table) (keys : List (String × ForeignKey)) (r : Row) : Change Unit := do
  for (child, k) in keys do
    let rows ← referring t child k r
    let others := if sameLetters child t.name then rows.filter (·.id != r.id) else rows
    count k others.length

/-- A row of the table is about to come: the rows that reference it lack it no more. -/
def adoptChildren (t : Table) (keys : List (String × ForeignKey)) (r : Row) : Change Unit := do
  for (child, k) in keys do
    if ← isOpen k then
      let rows ← referring t child k r
      count k (-rows.length)

/-! ### Deleting and updating -/

/-- What happens to one row. -/
inductive RowChange where
  | delete (id : Int)
  | update (id : Int) (assigned : List (Nat × Value))

/-- Refuses to take a row out of the indexes for which `concerns` holds, if one of them does not
find it. -/
def requireFound (t : Table) (concerns : Index → Bool) (r : Row) : Except Refusal Unit := do
  if t.indexes.any fun i => concerns i && i.isStale r then throw .malformed

/-- Takes a row out of its table. -/
def takeOut (dropping : Bool) (name : String) (r : Row) : Change Unit := do
  let t ← table name
  requireFound t (fun _ => true) r
  if (← get).enforced then
    releaseParents dropping t t.foreignKeys r
    orphanChildren t ((← get).database.keysTo name) r
  setTable (t.remove r)

/-- The row with other values in some columns. -/
def assign (t : Table) (r : Row) (assigned : List (Nat × Value)) : Except Refusal Row := do
  let values := assigned.foldl (fun values (position, v) => values.set position v) r.values
  match t.numberColumn with
  | none => t.finished ⟨r.id, values⟩
  | some position => match ((values[position]?).getD .null).rowNumber? with
    | some id => t.finished ⟨id, values.set position (.integer id)⟩
    | none => throw (.noRowNumber t.name)

/-- Refuses a row with other values that breaks a constraint. -/
def requireConstraints (t : Table) (changed : List Nat) (old new : Row) : Except Refusal Unit := do
  for (c, position) in t.columns.zipIdx do
    if c.notNull.isSome && some position != t.numberColumn &&
        (changed.contains position || c.generated.isSome) && (new.value position).isNull then
      throw (.notNull t.name c.name)
  let concerned := t.dependents changed
  let isConcerned (e : Expression) : Bool :=
    concerned.any fun position => e.mentions t.scope position
  t.requireGeneratedTypes isConcerned
    (fun i => i.entries.any fun e => e.column?.any concerned.contains) new
  t.requireChecks isConcerned new
  if new.id != old.id && t.rows.contains new.id then
    throw (.notUnique t.name (t.key.map t.columnName))
  for i in t.indexes do
    if (i.holder? new.values).any (· != old.id) then
      throw (.notUnique t.name (i.entries.filterMap fun e => e.column?.map t.columnName))

/-- Puts a row in the place of another. -/
def replaceRow (name : String) (changed : List Nat) (old new : Row) : Change Unit := do
  let t ← table name
  requireConstraints t changed old new
  let concerned := t.dependents changed
  requireFound t (fun i => new.id != old.id ||
    i.entries.any fun e => e.column?.any concerned.contains) old
  let upward := t.foreignKeys.filter fun k => k.childChanges changed || k.targets name
  let downward := ((← get).database.keysTo name).filter fun (_, k) => k.parentChanges t changed
  let isConcerned := !downward.isEmpty || upward.any (·.childChanges changed)
  if isConcerned then
    releaseParents false t upward old
    orphanChildren t downward old
  setTable (t.remove old)
  if isConcerned then
    requireParents (← table name) upward new
    adoptChildren (← table name) downward new
  setTable ((← table name).put new)

/-- The keys that act when a row of the table changes, each with what it does. -/
def actions (db : Database) (t : Table) : RowChange →
    List (String × ForeignKey × Schema.ReferentialAction)
  | .delete _ => (db.keysTo t.name).filterMap fun (child, k) =>
    (effective k.reference.onDelete).map (child, k, ·)
  | .update _ assigned =>
    let keys := (db.keysTo t.name).filter fun (_, k) => k.parentChanges t (assigned.map (·.1))
    keys.filterMap fun (child, k) => (effective k.reference.onUpdate).map (child, k, ·)
where
  effective : Option Schema.ReferentialAction → Option Schema.ReferentialAction
    | some .noAction => none
    | action => action

/-- Have the compared columns of a parent other values than before? -/
def parentDiffers (t : Table) (p : ParentKey) (old new : Row) : Bool :=
  ((p.parentValues t old).zip (p.parentValues t new)).any fun (before, after) =>
    before.2.2.2.compare before.2.1 after.2.1 != .eq

/-- What an action of a key makes of a row that references a parent. -/
def effectOn (child : Table) (k : ForeignKey) (p : ParentKey) (t : Table) (new : Option Row)
    (action : Schema.ReferentialAction) (row : Row) : Except Refusal RowChange :=
  match action, new with
  | .cascade, none => .ok (.delete row.id)
  | .cascade, some new =>
    .ok (.update row.id ((p.parentValues t new).map fun (c, v, _) => (c, v)))
  | .setDefault, _ => do
    return .update row.id (← k.columns.mapM fun c => do return (c, ← child.defaultAt c))
  | _, _ => .ok (.update row.id (k.columns.map fun c => (c, .null)))

/-- Changes a row and everything that the change leads to. `depth` bounds how far one change may
lead to another. A row that is already gone is left alone. -/
def apply (dropping : Bool) : (depth : Nat) → (name : String) → RowChange → Change Unit
  | depth, name, c => do
    let t ← table name
    let id := match c with
      | .delete id | .update id _ => id
    match t.row? id with
    | none => return
    | some old =>
      let new ← match c with
        | .delete _ => do
          takeOut dropping name old
          pure none
        | .update _ assigned => do
          let new ← assign t old assigned
          replaceRow name (assigned.map (·.1)) old new
          pure (some new)
      if !(← get).enforced then return
      for (child, k, action) in actions (← get).database t c do
        match k.parentKey? t with
        | none => pure ()
        | some p => match depth with
          | 0 => throw .tooDeep
          | depth + 1 =>
            if new.all (parentDiffers t p old ·) then
              let rows := p.affectedRows t (← table child) old
              if action = .restrict then
                if !rows.isEmpty then throw .orphan
              else
                for row in rows do
                  let effect ← effectOn (← table child) k p t new action row
                  apply false depth child effect

/-- How far one change may lead to another. -/
def maxDepth : Nat := 1000

/-- Deletes a row by itself and not as the effect of another change. -/
def deleteRow (name : String) (id : Int) : Change Unit := apply false maxDepth name (.delete id)

/-- Deletes all rows of a table that is about to be dropped. -/
def clear (name : String) : Change Unit := do
  for r in (← table name).allRows do
    apply true maxDepth name (.delete r.id)

end Change

end Conform.Sqlite
