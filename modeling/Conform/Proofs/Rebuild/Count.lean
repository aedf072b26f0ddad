import Conform.Proofs.Rebuild.Rows
import Conform.Schema.Normal

/-! How many rows a table holds after a rebuild. The rows come back under the columns that are
copied, and if no column is copied then none of them comes back. -/
namespace Conform

open Sql (Content Store runAll runAll_append)

/-- The table is made anew and the rows that were set aside are gone. -/
theorem runAll_startAnew (store : Store α) (before : Content α) {table : Sql.Table}
    (apart : aside ≠ table.name) :
    runAll [.createTable table true, .dropTable aside false false]
        ((store.set aside (some before)).set table.name none) =
      some ((store.set table.name
        (some (.empty (table.columns.map (·.name))))).set aside none) := by
  have make := Sql.Statement.run_createTable_anew (store.set aside (some before)) table true
  have there : (store.set aside (some before)).set table.name
      (some (.empty (table.columns.map (·.name)))) aside = some before := by
    rw [Store.set_other _ _ apart, Store.set_same]
  have drop : (Sql.Statement.dropTable aside false false).run ((store.set aside (some before)).set
      table.name (some (.empty (table.columns.map (·.name))))) =
      some ((store.set table.name
        (some (.empty (table.columns.map (·.name))))).set aside none) := by
    rw [Sql.Statement.run_dropTable there, Store.set_comm _ _ _ apart, Store.set_set]
  simp only [runAll, make, drop, Option.bind_some]

/-- A rebuild that copies no column runs through too, and leaves an empty table. -/
theorem runAll_rebuildSteps_of_no_copies {b : Backend σ}
    (known : b.dialect = .sqlite ∨ b.dialect = .postgres) {t : Schema.Table} {table : Sql.Table}
    {steps : Rebuild} (text : String) (store : Store α)
    (create : steps.create = .createTable table true) (indexes : steps.indexes = t.createIndexes)
    (named : table.name = t.name) (stored : store t.name = some before)
    (copies : steps.copyColumns = []) :
    runAll (b.rebuildSteps t.name (.createLike t.name (asideName t.name) text) steps) store =
      some ((store.set t.name (some (.empty (table.columns.map (·.name))))).set
        (asideName t.name) none) := by
  apply runAll_rebuildSteps_of known text store create indexes stored
  have anew := runAll_startAnew store before (named ▸ asideName_ne t.name)
  rw [copies, ← named]
  exact anew

/-- What the table holds when the table aside is gone. -/
theorem set_aside_none (store : Store α) (table : String) (content : Option (Content α)) :
    (store.set table content).set (asideName table) none table = content := by
  rw [Store.set_other _ _ (asideName_ne table).symm, Store.set_same]

/-- A declared column is among the live ones. -/
def Overlaps (t : Schema.Table) (live : Live.Table) : Prop :=
  ∃ f ∈ t.columns, (live.column? f.name).isSome = true

theorem copies_iff_overlaps {d : Dialect} (desired : d.desiredColumns t = .ok columns)
    (planned : Planned d t columns (some live) (.rebuild reasons steps)) :
    steps.copyColumns ≠ [] ↔ Overlaps t live := by
  have names := Dialect.names_of_desired desired
  constructor
  · intro copies
    obtain ⟨column, member⟩ := List.exists_mem_of_ne_nil _ copies
    obtain ⟨declared, present⟩ := planned.mem_copyColumns.mp member
    rw [names] at declared
    obtain ⟨f, among, rfl⟩ := List.mem_map.mp declared
    exact ⟨f, among, present⟩
  · rintro ⟨f, among, present⟩
    refine List.ne_nil_of_mem (planned.mem_copyColumns.mpr ⟨?_, present⟩)
    rw [names]
    exact List.mem_map_of_mem among

/-- A rebuild runs through, as it is read by the database, and the table holds as many rows as
before exactly if it held none or a declared column was there. Otherwise it holds none. -/
theorem rebuild_keeps_count_iff {b : Backend σ} {store : Store α}
    (known : b.dialect = .sqlite ∨ b.dialect = .postgres)
    (plan : b.dialect.plan t (some live) = .ok (.rebuild reasons steps))
    (prepared : (b.rebuildStatements t.name steps).from s = (.ok statements, s'))
    (stored : store t.name = some before)
    (described : before.columns = live.columns.map (·.name)) :
    (∀ statement ∈ statements, RebuildTold t.name statement) ∧
      ∃ final after, runAll statements store = some final ∧ final t.name = some after ∧
        (after.rows.length = before.rows.length ↔ before.rows = [] ∨ Overlaps t live) ∧
        (after.rows.length ≠ before.rows.length → after.rows = []) := by
  refine ⟨rebuild_told known plan prepared, ?_⟩
  obtain ⟨columns, desired, planned⟩ := Dialect.planned plan
  obtain ⟨text, rfl⟩ := statements_of_rebuild prepared
  have overlaps := copies_iff_overlaps desired planned
  obtain ⟨create, indexes⟩ := planned.steps_eq
  by_cases copies : steps.copyColumns = []
  case pos =>
    have run := runAll_rebuildSteps_of_no_copies known text store create indexes rfl stored copies
    have apart : ¬ Overlaps t live := fun common => overlaps.mpr common copies
    refine ⟨_, _, run, set_aside_none .., ?_, fun _ => rfl⟩
    simp [Content.empty, apart, eq_comm]
  case neg =>
    have run := runAll_planned known planned text copies stored described
    have length : (restored before (t.definition columns) steps.copyColumns).rows.length =
        before.rows.length := by
      simp [restored, Content.appendColumns, Content.empty]
    have common := overlaps.mp copies
    refine ⟨_, _, run, set_aside_none .., iff_of_true length (.inr common), fun differs => ?_⟩
    exact absurd length differs

/-- A table whose columns are all new. -/
private def renewed : Schema.Table where
  name := "T"
  fields := [{ name := "id", type := "Int", isId := true }]
  idFields := ["id"]

private def worn : Live.Table where
  name := "T"
  columns := [{ name := "old", type := "TEXT" }]

private def renewedSteps : Rebuild where
  create := .createTable { name := "T", columns := [⟨"id", "INTEGER"⟩], primaryKey := ["id"] } true

private def wornRows : Content Nat where
  columns := ["old"]
  rows := [[some 1], [some 2]]
  width := by decide

private def wornStore : Store Nat := fun name => if name = "T" then some wornRows else none

theorem renewed_rebuild_keeps_count_iff : ∃ reasons steps statements s',
    Dialect.sqlite.plan renewed (some worn) = .ok (.rebuild reasons steps) ∧
      ((Rehearsal.backend .sqlite).rebuildStatements renewed.name steps).from
        { state := { script := {} } } = (.ok statements, s') ∧
      wornStore renewed.name = some wornRows ∧
      wornRows.columns = worn.columns.map (·.name) ∧
      (∀ statement ∈ statements, RebuildTold renewed.name statement) ∧
      ∃ final after, runAll statements wornStore = some final ∧ final renewed.name = some after ∧
        (after.rows.length = wornRows.rows.length ↔ wornRows.rows = [] ∨ Overlaps renewed worn) ∧
        (after.rows.length ≠ wornRows.rows.length → after.rows = []) := by
  have plan : Dialect.sqlite.plan renewed (some worn) =
      .ok (.rebuild [.primaryKey [] ["id"]] renewedSteps) := by decide +kernel
  have stored : wornStore renewed.name = some wornRows := if_pos rfl
  have described : wornRows.columns = worn.columns.map (·.name) := by decide
  have kept := rebuild_keeps_count_iff (b := Rehearsal.backend .sqlite)
    (s := { state := { script := {} } }) (.inl rfl) plan rfl stored described
  exact ⟨_, _, _, _, plan, rfl, stored, described, kept⟩

/-- Two rows are set aside and never come back. -/
theorem renewed_rebuild_loses_rows :
    Schema.normalize [renewed] [] = .ok { tables := [renewed], enums := [] } ∧
      ∃ reasons steps statements s',
        Dialect.sqlite.plan renewed (some worn) = .ok (.rebuild reasons steps) ∧
        ((Rehearsal.backend .sqlite).rebuildStatements renewed.name steps).from
          { state := { script := {} } } = (.ok statements, s') ∧
        wornStore renewed.name = some wornRows ∧ wornRows.rows.length = 2 ∧
        ∃ final after, runAll statements wornStore = some final ∧
          final renewed.name = some after ∧ after.rows.length = 0 := by
  have plan : Dialect.sqlite.plan renewed (some worn) =
      .ok (.rebuild [.primaryKey [] ["id"]] renewedSteps) := by decide +kernel
  have stored : wornStore renewed.name = some wornRows := if_pos rfl
  have create : renewedSteps.create =
      .createTable (renewed.definition [⟨"id", "INTEGER"⟩]) true := rfl
  have done (text : String) := runAll_rebuildSteps_of_no_copies (b := Rehearsal.backend .sqlite)
    (.inl rfl) text wornStore create rfl rfl stored rfl
  have there := set_aside_none wornStore renewed.name (some (.empty ["id"]))
  exact ⟨rfl, _, _, _, _, plan, rfl, stored, rfl, _, _, done _, there, rfl⟩

end Conform
