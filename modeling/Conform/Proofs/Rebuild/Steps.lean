import Conform.Proofs.Dialect.Quotes
import Conform.Proofs.Plan.Converges
import Conform.Proofs.Run.Trace

/-! The statements of a rebuild, one by one. Each of them is told by the text that is sent, but for
the one that makes the table aside, whose text is the backend's. -/
namespace Conform

open Sql (Statement)

/-- Both dialects create a table in one statement. -/
theorem render_createTable {d : Dialect} (known : d = .sqlite ∨ d = .postgres) (table : Sql.Table)
    (ifNotExists : Bool) :
    d.render (.createTable table ifNotExists) = [.createTable table ifNotExists] := by
  rcases known with rfl | rfl <;> rfl

theorem render_createIndexes {d : Dialect} (known : d = .sqlite ∨ d = .postgres)
    (t : Schema.Table) : t.createIndexes.flatMap d.render =
      t.indexes.map fun index => .createIndex (t.indexDefinition index) := by
  rw [Schema.Table.createIndexes, List.flatMap_map, List.map_eq_flatMap]
  rcases known with rfl | rfl <;> rfl

/-- The statements of a rebuild are made around some text that creates the table aside. -/
theorem statements_of_rebuild {b : Backend σ}
    (prepared : (b.rebuildStatements table steps).from s = (.ok statements, s')) :
    ∃ text, statements =
      b.rebuildSteps table (.createLike table (asideName table) text) steps := by
  obtain ⟨_, _, _, made⟩ := b.rebuildStatements_does table steps s.gate s rfl
  rw [prepared] at made
  cases made
  exact ⟨_, rfl⟩

/-- The statements of a rebuild in their order: the way out, the way back, and the indexes. -/
theorem rebuildSteps_eq {b : Backend σ} {t : Schema.Table} {steps : Rebuild}
    (known : b.dialect = .sqlite ∨ b.dialect = .postgres)
    (create : steps.create = .createTable table true) (indexes : steps.indexes = t.createIndexes)
    (name : String) (previous : Statement) :
    b.rebuildSteps name previous steps =
      [.dropTable (asideName name) true false, previous, .copyRows name (asideName name),
        .dropTable name false false] ++
      ([.createTable table true] ++
        (if steps.copyColumns.isEmpty then []
          else [.copyColumns (asideName name) name steps.copyColumns]) ++
        [.dropTable (asideName name) false false]) ++
      t.indexes.map fun index => .createIndex (t.indexDefinition index) := by
  rw [Backend.rebuildSteps, create, render_createTable known, indexes, render_createIndexes known]
  simp only [List.append_assoc]

/-- What a statement of a rebuild can be that makes `table` anew. -/
inductive RebuildStep (name : String) (previous : Statement) (table : Sql.Table) :
    Statement → Prop where
  | clear : RebuildStep name previous table (.dropTable (asideName name) true false)
  | makeAside : RebuildStep name previous table previous
  | setAside : RebuildStep name previous table (.copyRows name (asideName name))
  | drop : RebuildStep name previous table (.dropTable name false false)
  | makeAnew : RebuildStep name previous table (.createTable table true)
  | bringBack (columns : List String) :
      RebuildStep name previous table (.copyColumns (asideName name) name columns)
  | forget : RebuildStep name previous table (.dropTable (asideName name) false false)
  | index (index : Sql.Index) : RebuildStep name previous table (.createIndex index)

theorem rebuildStep_of_mem {b : Backend σ} {t : Schema.Table} {steps : Rebuild}
    (known : b.dialect = .sqlite ∨ b.dialect = .postgres)
    (create : steps.create = .createTable table true) (indexes : steps.indexes = t.createIndexes)
    (member : statement ∈ b.rebuildSteps name previous steps) :
    RebuildStep name previous table statement := by
  rw [rebuildSteps_eq known create indexes] at member
  simp only [List.mem_append] at member
  obtain (away | (made | copied) | dropped) | indexed := member
  · simp only [List.mem_cons, List.not_mem_nil, or_false] at away
    rcases away with rfl | rfl | rfl | rfl
    · exact .clear
    · exact .makeAside
    · exact .setAside
    · exact .drop
  · cases List.mem_singleton.mp made
    exact .makeAnew
  · split at copied
    · cases copied
    · cases List.mem_singleton.mp copied
      exact .bringBack _
  · cases List.mem_singleton.mp dropped
    exact .forget
  · obtain ⟨index, _, rfl⟩ := List.mem_map.mp indexed
    exact .index _

/-- The statement is told by its text, or it is the one that makes the table aside in words of the
backend. -/
def RebuildTold (name : String) (statement : Statement) : Prop :=
  statement.IsTold ∨ ∃ text, statement = .createLike name (asideName name) text

theorem RebuildStep.told (types : ∀ c ∈ table.columns, Sql.IsWord c.type)
    (step : RebuildStep name (.createLike name (asideName name) text) table statement) :
    RebuildTold name statement := by
  cases step with
  | makeAside => exact .inr ⟨text, rfl⟩
  | makeAnew =>
    refine .inl (Statement.isTold rfl fun type among => ?_)
    obtain ⟨c, member, rfl⟩ := List.mem_map.mp among
    exact types c member
  | _ => exact .inl (Statement.isTold rfl nofun)

/-- What is sent for a rebuild is read as the statements that were planned. -/
theorem rebuild_told {b : Backend σ} (known : b.dialect = .sqlite ∨ b.dialect = .postgres)
    (plan : b.dialect.plan t (some live) = .ok (.rebuild reasons steps))
    (prepared : (b.rebuildStatements t.name steps).from s = (.ok statements, s')) :
    ∀ statement ∈ statements, RebuildTold t.name statement := by
  obtain ⟨columns, desired, planned⟩ := Dialect.planned plan
  obtain ⟨text, rfl⟩ := statements_of_rebuild prepared
  obtain ⟨create, indexes⟩ := planned.steps_eq
  intro statement member
  have step := rebuildStep_of_mem known create indexes member
  refine step.told fun c among => ?_
  obtain ⟨field, typed⟩ := exists_columnType_of_desired desired among
  exact Dialect.isWord_of_columnType known typed

end Conform
