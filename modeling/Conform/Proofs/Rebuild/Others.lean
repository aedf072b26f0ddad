import Conform.Proofs.Rebuild.Rows
import Conform.Proofs.Sql.Frame

/-! What a rebuild does to the other tables of the database. It leaves them alone, but for a table
that has the name under which the rows are set aside. -/
namespace Conform

open Sql (Content Statement Store runAll transact)

/-- A rebuild changes nothing but the table and the table aside. -/
theorem target_of_rebuildSteps {b : Backend σ}
    (known : b.dialect = .sqlite ∨ b.dialect = .postgres) {t : Schema.Table} {steps : Rebuild}
    {table : Sql.Table} (create : steps.create = .createTable table true)
    (indexes : steps.indexes = t.createIndexes) (named : table.name = t.name) (text : String)
    {statement : Statement} (member : statement ∈
      b.rebuildSteps t.name (.createLike t.name (asideName t.name) text) steps)
    (target : statement.target? = some name) : name = t.name ∨ name = asideName t.name := by
  cases rebuildStep_of_mem known create indexes member with
  | clear | makeAside | setAside | forget =>
    cases target
    exact .inr rfl
  | drop | bringBack =>
    cases target
    exact .inl rfl
  | makeAnew =>
    cases target
    exact .inl named
  | index => cases target

/-- A rebuild, as it is read by the database, leaves alone every table but its own and the one that
the database knows by the name of the table aside. -/
theorem rebuild_spares_others {b : Backend σ}
    (known : b.dialect = .sqlite ∨ b.dialect = .postgres)
    (plan : b.dialect.plan t (some live) = .ok (.rebuild reasons steps))
    (prepared : (b.rebuildStatements t.name steps).from s = (.ok statements, s'))
    (key : String → String) (differs : key other ≠ key t.name)
    (apart : key other ≠ key (asideName t.name)) (store : Store α) :
    (∀ statement ∈ statements, RebuildTold t.name statement) ∧
      transact (statements.map (·.rename key)) store (key other) = store (key other) := by
  refine ⟨rebuild_told known plan prepared, ?_⟩
  obtain ⟨columns, _, planned⟩ := Dialect.planned plan
  obtain ⟨text, rfl⟩ := statements_of_rebuild prepared
  obtain ⟨create, indexes⟩ := planned.steps_eq
  refine Sql.transact_other (fun statement member own => ?_) store
  obtain ⟨issued, among, rfl⟩ := List.mem_map.mp member
  rw [Statement.target?_rename] at own
  obtain ⟨name, target, same⟩ := Option.map_eq_some_iff.mp own
  rcases target_of_rebuildSteps known create indexes rfl text among target with rfl | rfl
  · exact differs same.symm
  · exact apart same.symm

/-- A table that gets a key. -/
private def counted : Schema.Table where
  name := "T"
  fields := [{ name := "id", type := "Int" }]
  idFields := ["id"]

private def uncounted : Live.Table where
  name := "T"
  columns := [{ name := "id", type := "INTEGER" }]

private def countedSteps : Rebuild where
  create := .createTable { name := "T", columns := [⟨"id", "INTEGER"⟩], primaryKey := ["id"] } true
  copyColumns := ["id"]

private def oneRow : Content Nat where
  columns := ["id"]
  rows := [[some 1]]
  width := by decide

/-- A database in which each of the tables holds one row. -/
private def crowded (tables : List String) : Store Nat := fun name =>
  if name ∈ tables then some oneRow else none

theorem crowded_rebuild_spares_others : ∃ reasons steps statements s',
    Dialect.sqlite.plan counted (some uncounted) = .ok (.rebuild reasons steps) ∧
      ((Rehearsal.backend .sqlite).rebuildStatements counted.name steps).from
        { state := { script := {} } } = (.ok statements, s') ∧
      "U".toLower ≠ "T".toLower ∧ "U".toLower ≠ (asideName "T").toLower ∧
      (∀ statement ∈ statements, RebuildTold counted.name statement) ∧
      transact (statements.map (·.rename String.toLower)) (crowded ["t", "u"]) "U".toLower =
        crowded ["t", "u"] "U".toLower := by
  have plan : Dialect.sqlite.plan counted (some uncounted) =
      .ok (.rebuild [.primaryKey [] ["id"]] countedSteps) := by decide +kernel
  have differs : "U".toLower ≠ "T".toLower := by decide +kernel
  have apart : "U".toLower ≠ (asideName "T").toLower := by decide +kernel
  have spared := rebuild_spares_others (b := Rehearsal.backend .sqlite)
    (s := { state := { script := {} } }) (.inl rfl) plan rfl String.toLower differs apart
    (crowded ["t", "u"])
  exact ⟨_, _, _, _, plan, rfl, differs, apart, spared⟩

/-- A table that is not for the rows aside, but has the name, is lost with its rows. -/
theorem crowded_rebuild_drops_another : ∃ reasons steps statements s',
    Dialect.sqlite.plan counted (some uncounted) = .ok (.rebuild reasons steps) ∧
      ((Rehearsal.backend .sqlite).rebuildStatements counted.name steps).from
        { state := { script := {} } } = (.ok statements, s') ∧
      "_T_old" ≠ counted.name ∧ crowded ["T", "_T_old"] "_T_old" = some oneRow ∧
      transact statements (crowded ["T", "_T_old"]) "_T_old" = none := by
  have plan : Dialect.sqlite.plan counted (some uncounted) =
      .ok (.rebuild [.primaryKey [] ["id"]] countedSteps) := by decide +kernel
  have stored : crowded ["T", "_T_old"] counted.name = some oneRow := if_pos (by decide)
  have create : countedSteps.create = .createTable (counted.definition [⟨"id", "INTEGER"⟩]) true :=
    rfl
  have done (text : String) := runAll_rebuildSteps (b := Rehearsal.backend .sqlite) (.inl rfl) text
    (crowded ["T", "_T_old"]) create rfl rfl stored (by decide) (by decide) (by decide)
  refine ⟨_, _, _, _, plan, rfl, by decide, if_pos (by decide), ?_⟩
  rw [transact, done]
  exact Store.set_same ..

end Conform
