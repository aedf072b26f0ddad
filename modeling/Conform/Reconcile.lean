import Conform.Schema.Order
import Conform.Session

/-! Reconciliation brings a database in line with a schema, table by table. What goes wrong on one
table is recorded and the others go on; only a lost connection ends the run. -/
namespace Conform

/-- What became of one table. -/
inductive Outcome where
  | created (statements : List Sql.Statement)
  | altered (statements : List Sql.Statement)
  | unchanged
  | rebuilt (reasons : List Reason) (statements : List Sql.Statement)
  /-- The operator kept the table from being rebuilt. -/
  | rebuildDeclined (reasons : List Reason)
  /-- The operator kept the table from being dropped. -/
  | dropDeclined
  | dropped (statements : List Sql.Statement)
  deriving DecidableEq, Repr, Inhabited

namespace Outcome

/-- The statements issued, or in a dry run planned. -/
def statements : Outcome → List Sql.Statement
  | created statements | altered statements | rebuilt _ statements | dropped statements =>
    statements
  | unchanged | rebuildDeclined _ | dropDeclined => []

def label : Outcome → String
  | created _ => "created"
  | altered _ => "altered"
  | unchanged => "unchanged"
  | rebuilt _ _ => "rebuilt"
  | rebuildDeclined _ | dropDeclined => "declined"
  | dropped _ => "dropped"

/-- What the outcome is or would have been good for, where it has to be said. -/
def reasons? : Outcome → Option (List String)
  | rebuilt reasons _ | rebuildDeclined reasons => some (reasons.map (·.text))
  | dropDeclined => some ["forced reset"]
  | created _ | altered _ | unchanged | dropped _ => none

def isDeclined : Outcome → Bool
  | rebuildDeclined _ | dropDeclined => true
  | created _ | altered _ | unchanged | rebuilt _ _ | dropped _ => false

def isDropped : Outcome → Bool
  | dropped _ => true
  | _ => false

end Outcome

/-- One table of a run and what became of it. -/
structure Entry where
  table : String
  result : Except Error Outcome

/-- A run, entry by entry. A forced reset has a table twice: once dropped, once created. -/
structure Report where
  entries : List Entry := []
  dryRun : Bool := false

namespace Report

def outcomes (r : Report) : List (String × Outcome) :=
  r.entries.filterMap fun e => e.result.toOption.map fun outcome => (e.table, outcome)

def failures (r : Report) : List (String × Error) :=
  r.entries.filterMap fun e => match e.result with
    | .ok _ => none
    | .error error => some (e.table, error)

/-- The last outcome of a table. -/
def outcome? (r : Report) (table : String) : Option Outcome := r.outcomes.reverse.lookup table

/-- The failure of a table. -/
def failure? (r : Report) (table : String) : Option Error := r.failures.lookup table

/-- Every statement issued, in order. -/
def statements (r : Report) : List Sql.Statement := r.outcomes.flatMap (·.2.statements)

def hasFailures (r : Report) : Bool := !r.failures.isEmpty

end Report

structure Options where
  /-- Drop every declared table first. -/
  forceReset : Bool := false
  /-- Plan everything and execute nothing. -/
  dryRun : Bool := false
  deriving DecidableEq, Repr, Inhabited

/-- The table that holds the old rows while a table is rebuilt. -/
def asideName (table : String) : String := "_" ++ table ++ "_old"

namespace Backend

variable {σ : Type}

/-- The statements that rebuild a table, around the statement `previous` that creates the table
aside: copy the rows aside, drop the table, create it anew, copy the rows back, then the indexes. -/
def rebuildSteps (b : Backend σ) (table : String) (previous : Sql.Statement) (steps : Rebuild) :
    List Sql.Statement :=
  let aside := asideName table
  [.dropTable aside true false, previous, .copyRows table aside, .dropTable table false false] ++
    b.dialect.render steps.create ++
    (if steps.copyColumns.isEmpty then [] else [.copyColumns aside table steps.copyColumns]) ++
    [.dropTable aside false false] ++
    steps.indexes.flatMap b.dialect.render

/-- Reads the current definition of the table, and changes nothing. -/
def rebuildStatements (b : Backend σ) (table : String) (steps : Rebuild) :
    Run σ (List Sql.Statement) := do
  let aside := asideName table
  let text ← b.call (.previousDefinition table aside)
  return b.rebuildSteps table (.createLike table aside text) steps

/-- Rebuilds a table if the gate lets it. -/
def rebuildTable (b : Backend σ) (table : String) (reasons : List Reason) (steps : Rebuild) :
    Run σ Outcome := do
  let rows ← b.call (.rowCount table)
  match ← consult ⟨table, rows, .rebuild⟩ with
  | .declined => return .rebuildDeclined reasons
  | .proceed =>
    let statements ← b.rebuildStatements table steps
    b.call (.executeRebuild table statements)
    return .rebuilt reasons statements

/-- Executes statements one by one. -/
def executeAll (b : Backend σ) : List Sql.Statement → Run σ Unit
  | [] => return
  | statement :: rest => do
    b.call (.execute statement)
    b.executeAll rest

/-- The statements of operations. What the backend cannot do is passed over. -/
def applicable (b : Backend σ) (operations : List Operation) : List Sql.Statement :=
  (operations.flatMap b.dialect.render).filter (!·.isComment)

/-- Executes operations in order, or in a dry run only renders them. -/
def apply (b : Backend σ) (operations : List Operation) (dryRun : Bool) :
    Run σ (List Sql.Statement) := do
  let statements := b.applicable operations
  unless dryRun do b.executeAll statements
  return statements

/-- Brings one table in line with its declaration, given its live state. A dry run executes
nothing and passes no gate. -/
def reconcileTable (b : Backend σ) (t : Schema.Table) (live : Option Live.Table)
    (dryRun : Bool) : Run σ Outcome := do
  match ← ExceptT.mk (pure (b.dialect.plan t live)) with
  | .create operations => return .created (← b.apply operations dryRun)
  | .alter [] => return .unchanged
  | .alter operations => return .altered (← b.apply operations dryRun)
  | .rebuild reasons steps =>
    if dryRun then return .rebuilt reasons (← b.rebuildStatements t.name steps)
    else b.rebuildTable t.name reasons steps

/-- Drops a table for a forced reset, if the gate lets it. -/
def dropTable (b : Backend σ) (table : String) (dryRun : Bool) : Run σ Outcome := do
  let statements := b.dialect.render (.dropTable table true)
  if dryRun then return .dropped statements
  let rows ← b.call (.rowCount table)
  match ← consult ⟨table, rows, .drop⟩ with
  | .declined => return .dropDeclined
  | .proceed =>
    b.executeAll statements
    return .dropped statements

/-- Drops the tables that are there, and gives what is left with an entry for each of them. -/
def resetAll (b : Backend σ) (dryRun : Bool) (live : Live.Schema) :
    List Schema.Table → Run σ (Live.Schema × List Entry)
  | [] => return (live, [])
  | t :: rest => do
    match live.find? t.name with
    | none => b.resetAll dryRun live rest
    | some _ =>
      let result ← attempt (b.dropTable t.name dryRun)
      let gone := result.toOption.any (·.isDropped)
      let (left, entries) ← b.resetAll dryRun (if gone then live.erase t.name else live) rest
      return (left, ⟨t.name, result⟩ :: entries)

/-- Brings the tables in line one after another. -/
def reconcileAll (b : Backend σ) (dryRun : Bool) (live : Live.Schema) :
    List Schema.Table → Run σ (List Entry)
  | [] => return []
  | t :: rest => do
    let result ← attempt (b.reconcileTable t (live.find? t.name) dryRun)
    return ⟨t.name, result⟩ :: (← b.reconcileAll dryRun live rest)

/-- Brings a database in line with a schema. -/
def reconcile (b : Backend σ) (model : Schema.Model) (options : Options) : Run σ Report := do
  let tables := model.ordered
  let live ← b.call .existingSchema
  let (live, resets) ←
    if options.forceReset then b.resetAll options.dryRun live tables.reverse
    else pure (live, [])
  let entries ← b.reconcileAll options.dryRun live tables
  return { entries := resets ++ entries, dryRun := options.dryRun }

/-- Brings one table in line, reading its live state first. -/
def createOrUpdateTable (b : Backend σ) (t : Schema.Table) : Run σ Outcome := do
  let live ← b.call (.existingTable t.name)
  b.reconcileTable t live false

end Backend

end Conform
