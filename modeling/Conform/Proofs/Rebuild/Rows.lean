import Conform.Proofs.Rebuild.Steps
import Conform.Proofs.Sql.Store
import Conform.Rehearsal.Backend
import Mathlib.Data.List.Forall2

/-! A rebuild keeps the rows. They are copied aside, the table is dropped and created anew, and each
row comes back with its cells under the columns that are still declared. -/
namespace Conform

open Sql (Content Store runAll runAll_append)

theorem asideName_ne (table : String) : asideName table ≠ table := by
  intro same
  have lengths := congrArg String.length same
  simp only [asideName, String.length_append] at lengths
  have prefixed : "_".length = 1 := rfl
  omega

/-- Indexes touch no rows. -/
theorem runAll_createIndexes (indexes : List α) (definition : α → Sql.Index) (store : Store β) :
    runAll (indexes.map fun index => .createIndex (definition index)) store = some store := by
  induction indexes with
  | nil => rfl
  | cons index rest ih => exact ih

/-- What a table holds after a rebuild. -/
def restored (before : Content α) (table : Sql.Table) (copied : List String) : Content α :=
  (Content.empty (table.columns.map (·.name))).appendColumns before copied

section
variable (store : Store α) {before : Content α} {aside : String}

/-- The rows are set aside and the table is gone. -/
theorem runAll_setAside (text : String) (apart : aside ≠ name) (stored : store name = some before) :
    runAll [.dropTable aside true false, .createLike name aside text, .copyRows name aside,
        .dropTable name false false] store =
      some ((store.set aside (some before)).set name none) := by
  have there (content : Option (Content α)) : store.set aside content name = some before := by
    rw [Store.set_other _ _ apart.symm, stored]
  have clear := Sql.Statement.run_dropTable_ifExists store aside false
  have make : (Sql.Statement.createLike name aside text).run (store.set aside none) =
      some (store.set aside (some (.empty before.columns))) := by
    rw [Sql.Statement.run_createLike (there none) (Store.set_same ..), Store.set_set]
  have fill : (Sql.Statement.copyRows name aside).run
      (store.set aside (some (.empty before.columns))) = some (store.set aside (some before)) := by
    rw [Sql.Statement.run_copyRows (there _) (Store.set_same ..), Store.set_set]
  have drop : (Sql.Statement.dropTable name false false).run (store.set aside (some before)) =
      some ((store.set aside (some before)).set name none) :=
    Sql.Statement.run_dropTable (there _)
  simp only [runAll, clear, make, fill, drop, Option.bind_some]

/-- The table is made anew and the rows come back. -/
theorem runAll_bringBack {table : Sql.Table} (apart : aside ≠ table.name)
    (old : ∀ column ∈ copied, column ∈ before.columns)
    (new : ∀ column ∈ copied, column ∈ table.columns.map (·.name)) :
    runAll [.createTable table true, .copyColumns aside table.name copied,
        .dropTable aside false false] ((store.set aside (some before)).set table.name none) =
      some ((store.set table.name (some (restored before table copied))).set aside none) := by
  have there (content : Option (Content α)) :
      (store.set aside (some before)).set table.name content aside = some before := by
    rw [Store.set_other _ _ apart, Store.set_same]
  have make := Sql.Statement.run_createTable_anew (store.set aside (some before)) table true
  have fill : (Sql.Statement.copyColumns aside table.name copied).run
      ((store.set aside (some before)).set table.name
        (some (.empty (table.columns.map (·.name))))) =
      some ((store.set aside (some before)).set table.name
        (some (restored before table copied))) := by
    have known : ∀ column ∈ copied, column ∈ before.columns ∧
        column ∈ (Content.empty (α := α) (table.columns.map (·.name))).columns :=
      fun column member => ⟨old column member, new column member⟩
    rw [Sql.Statement.run_copyColumns (there _) (Store.set_same ..) known, Store.set_set]
    rfl
  have drop : (Sql.Statement.dropTable aside false false).run
      ((store.set aside (some before)).set table.name (some (restored before table copied))) =
      some ((store.set table.name (some (restored before table copied))).set aside none) := by
    rw [Sql.Statement.run_dropTable (there _), Store.set_comm _ _ _ apart, Store.set_set]
  simp only [runAll, make, fill, drop, Option.bind_some]

end

section
variable {b : Backend σ} (known : b.dialect = .sqlite ∨ b.dialect = .postgres) {t : Schema.Table}
  {table : Sql.Table} {steps : Rebuild} (text : String) (store : Store α)
  (create : steps.create = .createTable table true) (indexes : steps.indexes = t.createIndexes)
  (named : table.name = t.name) (stored : store t.name = some before)
include known create indexes stored

/-- The statements of a rebuild run through if the way back does. -/
theorem runAll_rebuildSteps_of
    (back : runAll ([.createTable table true] ++
        (if steps.copyColumns.isEmpty then []
          else [.copyColumns (asideName t.name) t.name steps.copyColumns]) ++
        [.dropTable (asideName t.name) false false])
      ((store.set (asideName t.name) (some before)).set t.name none) = some final) :
    runAll (b.rebuildSteps t.name (.createLike t.name (asideName t.name) text) steps) store =
      some final := by
  have away := runAll_setAside store text (asideName_ne t.name) stored
  rw [rebuildSteps_eq known create indexes, runAll_append, runAll_append, away, Option.bind_some,
    back, Option.bind_some]
  exact runAll_createIndexes t.indexes t.indexDefinition final

include named

/-- The statements of a rebuild run through, and nothing changes but the table. -/
theorem runAll_rebuildSteps (copies : steps.copyColumns ≠ [])
    (old : ∀ column ∈ steps.copyColumns, column ∈ before.columns)
    (new : ∀ column ∈ steps.copyColumns, column ∈ table.columns.map (·.name)) :
    runAll (b.rebuildSteps t.name (.createLike t.name (asideName t.name) text) steps) store =
      some ((store.set t.name (some (restored before table steps.copyColumns))).set
        (asideName t.name) none) := by
  apply runAll_rebuildSteps_of known text store create indexes stored
  have back := runAll_bringBack store (named ▸ asideName_ne t.name) old new
  rw [if_neg (by simpa using copies), ← named]
  exact back

end

/-- The statements of a planned rebuild run through, since the columns that it copies are there and
are declared. -/
theorem runAll_planned {b : Backend σ} {store : Store α}
    (known : b.dialect = .sqlite ∨ b.dialect = .postgres)
    (planned : Planned b.dialect t columns (some live) (.rebuild reasons steps)) (text : String)
    (copies : steps.copyColumns ≠ []) (stored : store t.name = some before)
    (described : before.columns = live.columns.map (·.name)) :
    runAll (b.rebuildSteps t.name (.createLike t.name (asideName t.name) text) steps) store =
      some ((store.set t.name
        (some (restored before (t.definition columns) steps.copyColumns))).set
          (asideName t.name) none) := by
  obtain ⟨create, indexes⟩ := planned.steps_eq
  have old (column : String) (member : column ∈ steps.copyColumns) : column ∈ before.columns := by
    rw [described]
    exact Live.Table.mem_names_of_column? (planned.mem_copyColumns.mp member).2
  have new (column : String) (member : column ∈ steps.copyColumns) :
      column ∈ (t.definition columns).columns.map (·.name) :=
    (planned.mem_copyColumns.mp member).1
  exact runAll_rebuildSteps known text store create indexes rfl stored copies old new

/-- A table that gets a key, which SQLite cannot give to a table that is there. -/
private def numbered : Schema.Table where
  name := "T"
  fields := [{ name := "id", type := "Int" }, { name := "note", type := "String" }]
  idFields := ["id"]

private def unnumbered : Live.Table where
  name := "T"
  columns := [{ name := "old", type := "TEXT" }, { name := "id", type := "integer" }]

end Conform
