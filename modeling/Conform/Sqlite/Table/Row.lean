import Conform.Sqlite.Expression.Evaluate
import Conform.Sqlite.Table.Definition

/-! The values of the rows of a table: defaults, generated values, types and checks; and the order
in which a query meets the rows. -/
namespace Conform.Sqlite

namespace Table

/-- The positions of the columns that a statement gives values for. -/
def plainPositions (t : Table) : List Nat :=
  (t.columns.zipIdx.filter fun (c, _) => c.generated.isNone).map (·.2)

/-- The value of a default. -/
def defaultAt (t : Table) (position : Nat) : Except Refusal Value :=
  match (t.columns[position]?).bind (·.default) with
  | some d => do
    t.requireDefault position
    d.value.value defaultScope fun _ => .null
  | none => return .null

/-- The values as their columns hold them. -/
def convert (t : Table) (values : List Value) : List Value :=
  values.zipIdx.map fun (v, position) => (t.affinityAt position).apply v

/-- Refuses a row of a strict table in which a column for which `concerns` holds has a value of
another type. -/
def requireTypes (t : Table) (concerns : Column → Bool) (r : Row) : Except Refusal Unit := do
  if t.isStrict then
    for (c, position) in t.columns.zipIdx do
      if concerns c && !c.type.datatype.all (·.admits (r.value position)) then
        throw (.wrongDatatype t.name c.name)

/-- The row with the values of some generated columns, each after those that it depends on. There
are as many rounds as `fuel` says. -/
def generateAll (t : Table) : (fuel : Nat) → List (Nat × Expression) → Row → Except Refusal Row
  | 0, _, r => .ok r
  | fuel + 1, left, r => do
    let isReady (c : Nat × Expression) : Bool :=
      !left.any fun (other, _) => c.2.mentions t.generatedScope other
    let r ← (left.filter isReady).foldlM (fun (r : Row) (position, e) => do
      let v ← e.value t.generatedScope r.read
      return { r with values := r.values.set position ((t.affinityAt position).apply v) }) r
    t.generateAll fuel (left.filter (!isReady ·)) r

/-- The row with its generated values. -/
def generate (t : Table) (r : Row) : Except Refusal Row :=
  let columns := t.generatedColumns true
  t.generateAll columns.length columns r

/-- Refuses a row of a strict table in which a stored generated value is of another type. Without
any check or index that a change concerns, nothing reads the value before it is stored. -/
def requireGeneratedTypes (t : Table) (concernsCheck : Expression → Bool)
    (concernsIndex : Index → Bool) (r : Row) : Except Refusal Unit := do
  if t.checks.any concernsCheck || t.indexes.any concernsIndex then
    t.requireTypes (·.generated.any (·.stored)) r

/-- The row as the columns hold it, with its generated values. -/
def finished (t : Table) (r : Row) : Except Refusal Row := do
  let r := { r with values := t.convert r.values }
  t.requireTypes (·.generated.isNone) r
  t.generate r

/-- Some columns with the generated ones that depend on them. -/
def dependents (t : Table) (changed : List Nat) : List Nat :=
  let columns := t.generatedColumns true
  columns.foldl (fun found _ => columns.foldl (fun (found : List Nat) (position, e) =>
    if !found.contains position && found.any fun other => e.mentions t.generatedScope other then
      position :: found
    else found) found) changed

/-- Refuses a row that does not pass the checks for which `concerns` holds. -/
def requireChecks (t : Table) (concerns : Expression → Bool) (r : Row) : Except Refusal Unit := do
  for e in t.checks do
    if concerns e then
      if !(← e.passes t.scope r.read) then throw (.failedCheck t.name)

/-- The rows in the order in which a query for some columns meets them: that of the narrowest
index that holds all of them, if one is narrower than the rows, or else that of their numbers. -/
def scanned (t : Table) (positions : List Nat) : List Row :=
  let width (position : Option Nat) : Nat :=
    (position.bind (t.columns[·]?)).elim 1 (·.type.width)
  let total (widths : List Nat) : Nat := widths.foldl (· + ·) 0
  let rowWidth := total (t.columns.map (·.type.width)) + (if t.numberColumn.isSome then 0 else 1)
  let needed := positions.filter (some · != t.numberColumn)
  let indexWidth (i : Index) : Nat := total (i.entries.map fun e => width e.column?) + 1
  let covers (i : Index) : Bool :=
    needed.all (fun position => i.entries.any (·.column? == some position)) &&
      scale (4 * indexWidth i) < scale (4 * rowWidth)
  let cost (i : Index) : Nat := 15 * scale (4 * indexWidth i) / scale (4 * rowWidth)
  let best := (t.indexes.filter covers).foldl (fun best i =>
    match best with
    | some b => if cost i < cost b then some i else best
    | none => some i) none
  match best with
  | none => t.allRows
  | some i => ((t.allRows.map fun r => (i.key r.values, r)).mergeSort fun a b =>
      isAhead i.entries a.1 b.1).map (·.2)
where
  /-- Ten times the logarithm to base two, roughly. -/
  scale (n : Nat) : Nat :=
    if n < 2 then 0
    else
      let e := n.log2
      10 * e + ([0, 2, 3, 5, 6, 7, 8, 9][(n * 8) >>> e % 8]?).getD 0
  isAhead : List IndexEntry → Key → Key → Bool
    | e :: entries, v :: k, w :: l => match v.compare w with
      | .eq => isAhead entries k l
      | .lt => !e.descending
      | .gt => e.descending
    | _, _, _ => true

end Table

end Conform.Sqlite
