import Conform.Dialect.Postgres
import Conform.Dialect.Sqlite
import Conform.Proofs.Plan.Kept
import Conform.Proofs.Postgres.Effect
import Conform.Proofs.Rebuild.Steps
import Conform.Proofs.Schema.Accepted

/-! What the foreign keys of an accepted schema reference. The columns of a foreign key are checked
to be columns, but what they reference only to be fields, and a relation is a field as well. -/
namespace Conform

namespace Schema

/-- All fields of the name are relations to tables of the schema. -/
def Table.OnlyRelates (t : Table) (m : Model) (name : String) : Prop :=
  ∀ f ∈ t.fields, f.name = name → f.type ∈ m.tableNames ∧ f.isEnum = false

/-- The table that a foreign key references, and when it has the columns. -/
structure Relation.PointsAt (r : Relation) (m : Model) (target : Table) : Prop where
  found : m.table? r.referencedTable = some target
  known : ∀ name ∈ r.references, ∃ f ∈ target.fields, f.name = name
  column_iff : ∀ name ∈ r.references, target.HasColumn name ↔ ¬ target.OnlyRelates m name

variable {m : Model} {t : Table}

/-- A table has no column of a name exactly when only relations have the name. -/
theorem Table.IsNormal.hasColumn_iff (normal : t.IsNormal m) (name : String) :
    t.HasColumn name ↔ ¬ t.OnlyRelates m name := by
  constructor
  · intro ⟨f, column, named⟩ relates
    obtain ⟨member, plain⟩ := List.mem_filter.mp column
    have relation := (normal.fields f member).relation_iff.mpr (relates f member named)
    simp [Field.isColumn, relation] at plain
  · intro other
    by_contra missing
    apply other
    intro f member named
    apply (normal.fields f member).relation_iff.mp
    by_contra plain
    apply missing
    refine ⟨f, List.mem_filter.mpr ⟨member, ?_⟩, named⟩
    simpa [Field.isColumn] using plain

/-- A table of a schema is found by its name. -/
theorem Model.IsNormal.table?_of_mem (normal : m.IsNormal) (member : t ∈ m.tables) :
    m.table? t.name = some t := find?_own normal.distinct member

theorem Model.IsNormal.pointsAt (normal : m.IsNormal) (member : t ∈ m.tables)
    (declared : r ∈ t.foreignKeys) : ∃ target ∈ m.tables, r.PointsAt m target := by
  obtain ⟨target, there, named, known⟩ := (normal.tables t member).references r declared
  refine ⟨target, there, ?_⟩
  constructor
  case found =>
    rw [← named]
    exact normal.table?_of_mem there
  case known => exact known
  case column_iff => exact fun name _ => (normal.tables target there).hasColumn_iff name

end Schema

/-- The foreign keys that a statement writes. -/
def Sql.Statement.clauses : Sql.Statement → List Sql.ForeignKey
  | createTable table _ => table.foreignKeys
  | addForeignKey _ key => [key]
  | _ => []

/-- The operations of a plan, in their order. -/
def Plan.operations : Plan → List Operation
  | create operations | alter operations => operations
  | rebuild _ steps => steps.create :: steps.indexes

/-- The statements of an operation, as far as they write foreign keys and create tables. -/
inductive Operation.WrittenAs : Operation → Sql.Statement → Prop where
  | createTable : WrittenAs (.createTable table ifNotExists) (.createTable table ifNotExists)
  | addForeignKey : WrittenAs (.addForeignKey table key) (.addForeignKey table key)
  | other (plain : statement.clauses = [])
      (absent : ∀ table ifNotExists, statement ≠ .createTable table ifNotExists) :
      WrittenAs o statement

namespace Dialect

/-- The statements of a plan, without those that only move rows. -/
def statements (d : Dialect) (p : Plan) : List Sql.Statement := p.operations.flatMap d.render

/-- The table that a clause references, and when it is created with the columns. -/
structure PointsAt (d : Dialect) (m : Schema.Model) (key : Sql.ForeignKey)
    (target : Schema.Table) : Prop where
  found : m.table? key.table = some target
  creates : ∀ p, d.plan target none = .ok p → ∃ table, .createTable table true ∈ d.statements p
  created : ∀ live p table ifNotExists, d.plan target live = .ok p →
    .createTable table ifNotExists ∈ d.statements p → table.name = key.table ∧
      ∀ name ∈ key.references, name ∈ table.columns.map (·.name) ↔ ¬ target.OnlyRelates m name

/-- A plan that writes the foreign keys of a table, all of them when it creates the table. -/
structure WritesKeys (d : Dialect) (m : Schema.Model) (t : Schema.Table)
    (live : Option Live.Table) (p : Plan) : Prop where
  complete : live = none → ∀ r ∈ t.foreignKeys,
    ∃ statement ∈ d.statements p, t.foreignKeyDefinition r ∈ statement.clauses
  pointsAt : ∀ statement ∈ d.statements p, ∀ key ∈ statement.clauses,
    ∃ target, d.PointsAt m key target

variable {d : Dialect} {t : Schema.Table} {live : Option Live.Table}

theorem written_of_render (known : d = .sqlite ∨ d = .postgres)
    (rendered : statement ∈ d.render o) : o.WrittenAs statement := by
  cases o with
  | createTable table ifNotExists =>
    rw [render_createTable known] at rendered
    obtain rfl := List.mem_singleton.mp rendered
    exact .createTable
  | addForeignKey table key =>
    rcases known with rfl | rfl
    · obtain rfl := List.mem_singleton.mp rendered
      exact .other rfl (by simp)
    · obtain rfl := List.mem_singleton.mp rendered
      exact .addForeignKey
  | setPrimaryKey =>
    rcases known with rfl | rfl
    · obtain rfl := List.mem_singleton.mp rendered
      exact .other rfl (by simp)
    · rcases Postgres.mem_render_setPrimaryKey rendered with ⟨_, rfl⟩ | rfl
      · exact .other rfl (by simp)
      · exact .other rfl (by simp)
  | dropTable | addColumn | alterColumnType | createIndex | dropIndex =>
    rcases known with rfl | rfl
    all_goals
      obtain rfl := List.mem_singleton.mp rendered
      exact .other rfl (by simp)

/-- A plan creates no table but the declared one. -/
theorem definition_of_created (planned : Planned d t columns live p)
    (among : .createTable table ifNotExists ∈ p.operations) : table = t.definition columns := by
  have made (among : .createTable table ifNotExists ∈
      .createTable (t.definition columns) true :: t.createIndexes) :
      table = t.definition columns := by
    rcases List.mem_cons.mp among with same | index
    · exact (Operation.createTable.inj same).1
    · simp [Schema.Table.createIndexes] at index
  cases planned with
  | create => exact made among
  | alter changed => cases harmless_of_changes changed (mem_operations_iff.mp among)
  | rebuild => exact made among

/-- A plan adds no foreign key but declared ones. -/
theorem declared_of_added (planned : Planned d t columns live p)
    (among : .addForeignKey table key ∈ p.operations) :
    ∃ r ∈ t.foreignKeys, t.foreignKeyDefinition r = key := by
  have created : .addForeignKey table key ∉
      .createTable (t.definition columns) true :: t.createIndexes := by
    simp [Schema.Table.createIndexes]
  cases planned with
  | create => exact absurd among created
  | @alter live changes changed =>
    -- a dialect that adds keys in place adds them after all else
    obtain ⟨others, spared, whole⟩ := operations_eq_append d t columns live
    have among : .addForeignKey table key ∈ changes.filterMap (·.operation?) := among
    rw [operations_of_changes changed, whole] at among
    rcases List.mem_append.mp among with other | foreign
    · exact absurd rfl (spared _ other)
    · obtain ⟨r, declared, same⟩ := mem_foreignKeyOperations foreign
      exact ⟨r, declared, (Operation.addForeignKey.inj same).2.symm⟩
  | rebuild => exact absurd among created

/-- A table that is absent is created with all its foreign keys. -/
theorem creates_definition (known : d = .sqlite ∨ d = .postgres) (plan : d.plan t none = .ok p) :
    ∃ columns, .createTable (t.definition columns) true ∈ d.statements p := by
  obtain ⟨columns, _, planned⟩ := planned plan
  refine ⟨columns, ?_⟩
  cases planned with
  | create =>
    apply List.mem_flatMap.mpr
    refine ⟨.createTable (t.definition columns) true, List.mem_cons_self, ?_⟩
    rw [render_createTable known]
    exact List.mem_singleton_self _

section
variable (known : d = .sqlite ∨ d = .postgres) (plan : d.plan t live = .ok p)
include known plan

/-- Every clause of a plan is that of a declared foreign key. -/
theorem declared_of_clause (among : statement ∈ d.statements p)
    (clause : key ∈ statement.clauses) : ∃ r ∈ t.foreignKeys, t.foreignKeyDefinition r = key := by
  obtain ⟨columns, _, planned⟩ := planned plan
  obtain ⟨o, member, rendered⟩ := List.mem_flatMap.mp among
  cases written_of_render known rendered with
  | createTable =>
    rw [definition_of_created planned member] at clause
    exact List.mem_map.mp clause
  | addForeignKey =>
    obtain rfl := List.mem_singleton.mp clause
    exact declared_of_added planned member
  | other plain =>
    rw [plain] at clause
    cases clause

/-- A table is created under its name and with its columns, in a rebuild too. -/
theorem columns_of_created (among : .createTable table ifNotExists ∈ d.statements p) :
    table.name = t.name ∧ ∀ name, name ∈ table.columns.map (·.name) ↔ t.HasColumn name := by
  obtain ⟨columns, desired, planned⟩ := planned plan
  obtain ⟨o, member, rendered⟩ := List.mem_flatMap.mp among
  cases written_of_render known rendered with
  | createTable =>
    obtain rfl := definition_of_created planned member
    refine ⟨rfl, fun name => ?_⟩
    have names : (t.definition columns).columns.map (·.name) = t.columns.map (·.name) :=
      names_of_desired desired
    rw [names]
    exact List.mem_map
  | other _ absent => exact absurd rfl (absent table ifNotExists)

end

variable {m : Schema.Model}

/-- The clauses of a declared foreign key point where the relation does. -/
theorem PointsAt.of_relation (known : d = .sqlite ∨ d = .postgres) {target : Schema.Table}
    (points : r.PointsAt m target) : d.PointsAt m (t.foreignKeyDefinition r) target := by
  have named : target.name = r.referencedTable := by
    simpa using List.find?_some points.found
  constructor
  case found => exact points.found
  case creates =>
    intro p plan
    obtain ⟨columns, among⟩ := creates_definition known plan
    exact ⟨_, among⟩
  case created =>
    intro live p table ifNotExists plan among
    obtain ⟨own, columns⟩ := columns_of_created known plan among
    refine ⟨own.trans named, ?_⟩
    intro name referenced
    rw [columns]
    exact points.column_iff name referenced

end Dialect

/-- What the foreign keys of an accepted schema reference are columns but for names that only
relations have, and so it is in every clause of a plan. -/
theorem references_columns_iff {tables : List Schema.Table} {enums : List Schema.Enumeration}
    {m : Schema.Model} {t : Schema.Table} (accepted : Schema.normalize tables enums = .ok m)
    (member : t ∈ m.tables) :
    (∀ r ∈ t.foreignKeys, ∃ target, r.PointsAt m target) ∧
      ∀ d, d = Dialect.sqlite ∨ d = Dialect.postgres → ∀ live p, d.plan t live = .ok p →
        d.WritesKeys m t live p := by
  have normal := (Schema.normalize_isNormal accepted).2
  constructor
  · intro r declared
    obtain ⟨target, _, points⟩ := normal.pointsAt member declared
    exact ⟨target, points⟩
  · intro d known live p plan
    constructor
    case complete =>
      rintro rfl r declared
      obtain ⟨columns, among⟩ := Dialect.creates_definition known plan
      exact ⟨_, among, List.mem_map_of_mem declared⟩
    case pointsAt =>
      intro statement among key clause
      obtain ⟨r, declared, rfl⟩ := Dialect.declared_of_clause known plan among clause
      obtain ⟨target, _, points⟩ := normal.pointsAt member declared
      exact ⟨target, .of_relation known points⟩

/-- The artist of a song is found by the songs of the artist, which have no column. -/
private def artists : Schema.Table where
  name := "Artist"
  fields := [
    { name := "id", type := "Int", isId := true },
    { name := "songs", type := "Song", isArray := true, isRelation := true,
      relation := some { field := "songs", referencedTable := "Song" } }]
  idFields := ["id"]

private def songs : Schema.Table where
  name := "Song"
  fields := [
    { name := "artistId", type := "Int" },
    { name := "artist", type := "Artist", isRelation := true,
      relation := some {
        field := "artist"
        referencedTable := "Artist"
        fields := ["artistId"]
        references := ["songs"] } }]

private def catalog : Schema.Model := { tables := [artists, songs] }

private def artistKey : Sql.ForeignKey where
  name := "fk_Song_artist"
  columns := ["artistId"]
  table := "Artist"
  references := ["songs"]

private def createdArtists : Sql.Table where
  name := "Artist"
  columns := [⟨"id", "INTEGER"⟩]
  primaryKey := ["id"]

private def createdSongs : Sql.Table where
  name := "Song"
  columns := [⟨"artistId", "INTEGER"⟩]
  foreignKeys := [artistKey]

private theorem songs_planned : Dialect.sqlite.plan songs none =
    .ok (.create [.createTable createdSongs true]) := by decide +kernel

/-- The foreign key of the songs references a field that the artists are created without. -/
theorem artist_references_no_column :
    Schema.normalize [artists, songs] [] = .ok catalog ∧
      (∃ r ∈ songs.foreignKeys, r.referencedTable = artists.name ∧
        ∃ name ∈ r.references, ¬ artists.HasColumn name) ∧
      Dialect.sqlite.plan songs none = .ok (.create [.createTable createdSongs true]) ∧
      Dialect.sqlite.plan artists none = .ok (.create [.createTable createdArtists true]) ∧
      ∃ key ∈ createdSongs.foreignKeys, key.table = createdArtists.name ∧
        ∃ name ∈ key.references, name ∉ createdArtists.columns.map (·.name) := by
  refine ⟨rfl, ?_, songs_planned, by decide +kernel, ?_⟩
  · refine ⟨_, List.mem_singleton_self _, rfl, "songs", List.mem_singleton_self _, ?_⟩
    simp [Schema.Table.HasColumn, Schema.Table.columns, Schema.Field.isColumn, artists]
  · refine ⟨artistKey, List.mem_singleton_self _, rfl, "songs", List.mem_singleton_self _, ?_⟩
    simp [createdArtists]

theorem artist_points_at : Schema.normalize [artists, songs] [] = .ok catalog ∧
    songs ∈ catalog.tables ∧ (∀ r ∈ songs.foreignKeys, ∃ target, r.PointsAt catalog target) ∧
      Dialect.sqlite.WritesKeys catalog songs none (.create [.createTable createdSongs true]) := by
  have accepted : Schema.normalize [artists, songs] [] = .ok catalog := rfl
  have member : songs ∈ catalog.tables := by simp [catalog]
  obtain ⟨declared, written⟩ := references_columns_iff accepted member
  exact ⟨accepted, member, declared, written .sqlite (.inl rfl) none _ songs_planned⟩

end Conform
