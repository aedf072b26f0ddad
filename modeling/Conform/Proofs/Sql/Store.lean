import Conform.Sql.Statement
import Mathlib.Data.List.Basic

/-! What statements mean for the rows of a database. Constraints are left aside: a statement is
refused only if a table or a column that it needs is missing, or one that it makes is there. A text
is sent, but no other statement is read in it than the one that it tells (`Statement.IsTold`), and
so the text means what this statement means. -/
namespace Conform.Sql

/-- The rows of a table, each with a cell for every column. A cell without value is NULL. -/
structure Content (α : Type) where
  columns : List String
  rows : List (List (Option α))
  width : ∀ row ∈ rows, row.length = columns.length

namespace Content

variable {α : Type}

/-- The cell of a row under a column. -/
def cell (c : Content α) (row : List (Option α)) (column : String) : Option α :=
  ((c.columns.zip row).lookup column).join

def empty (columns : List String) : Content α where
  columns := columns
  rows := []
  width := by simp

/-- The rows of `source` come after those of `target`, cell by cell. -/
def append (target source : Content α) (same : source.columns.length = target.columns.length) :
    Content α where
  columns := target.columns
  rows := target.rows ++ source.rows
  width := by
    intro row member
    rcases List.mem_append.mp member with member | member
    · exact target.width row member
    · exact (source.width row member).trans same

/-- A row for other columns, with the cells of the copied columns and nothing else. -/
def pick (source : Content α) (copied columns : List String) (row : List (Option α)) :
    List (Option α) :=
  columns.map fun column => if column ∈ copied then source.cell row column else none

/-- The copied columns of the rows of `source` come after the rows of `target`. -/
def appendColumns (target source : Content α) (copied : List String) : Content α where
  columns := target.columns
  rows := target.rows ++ source.rows.map (source.pick copied target.columns)
  width := by
    intro row member
    rcases List.mem_append.mp member with member | member
    · exact target.width row member
    · obtain ⟨old, _, rfl⟩ := List.mem_map.mp member
      exact List.length_map _

/-- A new column without values. -/
def widen (c : Content α) (column : String) : Content α where
  columns := c.columns ++ [column]
  rows := c.rows.map (· ++ [none])
  width := by
    intro row member
    obtain ⟨old, among, rfl⟩ := List.mem_map.mp member
    simp [c.width old among]

end Content

/-- The tables of a database and what they hold. -/
abbrev Store (α : Type) : Type := String → Option (Content α)

variable {α : Type}

def Store.set (s : Store α) (table : String) (content : Option (Content α)) : Store α :=
  fun name => if name = table then content else s name

@[simp] theorem Store.set_same (s : Store α) (table : String) (content : Option (Content α)) :
    s.set table content table = content := if_pos rfl

@[simp] theorem Store.set_other (s : Store α) (content : Option (Content α))
    (differs : name ≠ table) : s.set table content name = s name := if_neg differs

@[simp] theorem Store.set_set (s : Store α) (table : String) (first second : Option (Content α)) :
    (s.set table first).set table second = s.set table second := by
  funext name
  by_cases same : name = table <;> simp [set, same]

theorem Store.set_comm (s : Store α) (first second : Option (Content α)) (differs : one ≠ other) :
    (s.set one first).set other second = (s.set other second).set one first := by
  funext name
  by_cases same : name = one
  · simp [set, same, differs]
  · simp [set, same]

theorem Store.set_self (s : Store α) (there : s table = content) : s.set table content = s := by
  funext name
  by_cases same : name = table
  · simp [same, there]
  · simp [same]

/-- The database after a statement, unless the statement is refused. A change of a type and a given
text may do anything, and have no meaning here. -/
def Statement.run : Statement → Store α → Option (Store α)
  | createTable table ifNotExists, s => match s table.name with
    | none => some (s.set table.name (some (.empty (table.columns.map (·.name)))))
    | some _ => if ifNotExists then some s else none
  | createLike source target _, s => match s source, s target with
    | some content, none => some (s.set target (some (.empty content.columns)))
    | _, _ => none
  | dropTable name ifExists _, s => match s name with
    | none => if ifExists then some s else none
    | some _ => some (s.set name none)
  | addColumn table column, s => match s table with
    | none => none
    | some content => some (s.set table (some (content.widen column.name)))
  | copyRows source target, s => match s source, s target with
    | some old, some new =>
      if same : old.columns.length = new.columns.length then
        some (s.set target (some (new.append old same)))
      else none
    | _, _ => none
  | copyColumns source target columns, s => match s source, s target with
    | some old, some new =>
      if ∀ column ∈ columns, column ∈ old.columns ∧ column ∈ new.columns then
        some (s.set target (some (new.appendColumns old columns)))
      else none
    | _, _ => none
  | createIndex _, s | dropIndex _ _, s | dropConstraint _ _, s | addPrimaryKey _ _, s
  | addForeignKey _ _, s | comment _, s => some s
  | alterColumnType _ _ _, _ | given _, _ => none

/-- The database after statements, unless one of them is refused. -/
def runAll : List Statement → Store α → Option (Store α)
  | [], s => some s
  | statement :: rest, s => (statement.run s).bind (runAll rest)

theorem runAll_append (before after : List Statement) (s : Store α) :
    runAll (before ++ after) s = (runAll before s).bind (runAll after) := by
  induction before generalizing s with
  | nil => rfl
  | cons statement rest ih =>
    simp only [List.cons_append, runAll]
    cases statement.run s with
    | none => rfl
    | some later => exact ih later

namespace Statement

variable {s : Store α}

theorem run_createTable (absent : s table.name = none) :
    (createTable table ifNotExists).run s =
      some (s.set table.name (some (.empty (table.columns.map (·.name))))) := by
  rw [run, absent]

/-- A table that was taken away is made anew. -/
theorem run_createTable_anew (s : Store α) (table : Table) (ifNotExists : Bool) :
    (createTable table ifNotExists).run (s.set table.name none) =
      some (s.set table.name (some (.empty (table.columns.map (·.name))))) := by
  rw [run_createTable (s.set_same ..), s.set_set]

theorem run_createLike (there : s source = some content) (absent : s target = none) :
    (createLike source target text).run s =
      some (s.set target (some (.empty content.columns))) := by
  rw [run, there, absent]

theorem run_dropTable (there : s table = some content) :
    (dropTable table ifExists cascade).run s = some (s.set table none) := by
  rw [run, there]

/-- Afterwards the table is absent, whether it was there or not. -/
theorem run_dropTable_ifExists (s : Store α) (table : String) (cascade : Bool) :
    (dropTable table true cascade).run s = some (s.set table none) := by
  cases there : s table with
  | none => rw [run, there, s.set_self there]; rfl
  | some content => exact run_dropTable there

/-- All rows fill an empty table of the same columns. -/
theorem run_copyRows (there : s source = some content)
    (empty : s target = some (.empty content.columns)) :
    (copyRows source target).run s = some (s.set target (some content)) := by
  rw [run, there, empty]
  exact dif_pos rfl

theorem run_copyColumns (there : s source = some old) (into : s target = some new)
    (known : ∀ column ∈ columns, column ∈ old.columns ∧ column ∈ new.columns) :
    (copyColumns source target columns).run s =
      some (s.set target (some (new.appendColumns old columns))) := by
  rw [run, there, into]
  exact if_pos known

end Statement

end Conform.Sql
