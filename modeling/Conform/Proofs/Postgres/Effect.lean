import Conform.Dialect.Postgres
import Conform.Proofs.Plan.InPlace

/-! What statements make of the tables of a PostgreSQL database. A cascading drop takes the foreign
keys to its table from all other tables. A statement that works on one table leaves the constraints
of the others alone. -/
namespace Conform

/-- The statement creates or alters the table of that name. An index may be of any table. -/
def Sql.Statement.worksOn (name : String) : Sql.Statement → Bool
  | createTable table _ => table.name == name
  | createIndex index => index.table == name
  | addColumn table _ | alterColumnType table _ _ | dropConstraint table _ | addPrimaryKey table _
  | addForeignKey table _ => table == name
  | dropIndex _ _ => true
  | createLike _ _ _ | dropTable _ _ _ | copyRows _ _ | copyColumns _ _ _ | comment _
  | given _ => false

/-- What a statement that works on a table makes of it. -/
def Sql.Statement.alter (live : Live.Table) : Sql.Statement → Live.Table
  | addColumn table column => Operation.alter live (.addColumn table column)
  | alterColumnType table column type =>
    Operation.alter live (.alterColumnType table column ((live.typeOf? column).getD "") type)
  | createIndex index => Operation.alter live (.createIndex index)
  | dropIndex name ifExists => Operation.alter live (.dropIndex name ifExists)
  | dropConstraint table name =>
    if live.primaryKeyName = some name then Operation.alter live (.setPrimaryKey table [] name)
    else { live with foreignKeys := live.foreignKeys.filter (·.name != some name) }
  | addPrimaryKey table columns => Operation.alter live (.setPrimaryKey table columns none)
  | addForeignKey table key => Operation.alter live (.addForeignKey table key)
  | createTable _ _ | createLike _ _ _ | dropTable _ _ _ | copyRows _ _ | copyColumns _ _ _
  | comment _ | given _ => live

namespace Live.Table

/-- The table without its foreign keys to tables that are gone. -/
def without (gone : List String) (t : Table) : Table :=
  { t with foreignKeys := t.foreignKeys.filter (·.table ∉ gone) }

/-- The name of the key, and the foreign keys. -/
def constraints (t : Table) : Option String × List ForeignKey := (t.primaryKeyName, t.foreignKeys)

theorem hasForeignKey_of_constraints {t other : Table} (same : t.constraints = other.constraints) :
    t.hasForeignKey r = other.hasForeignKey r := by
  rw [hasForeignKey, hasForeignKey, (Prod.mk.inj same).2]

theorem without_without (t : Table) (first second : List String) :
    (t.without first).without second = t.without (first ++ second) := by
  simp [without, List.filter_filter, Bool.and_comm]

/-- Only the foreign keys to tables that are gone are lost. -/
theorem hasForeignKey_without_iff {t : Table} : (t.without gone).hasForeignKey r = true ↔
    t.hasForeignKey r = true ∧ r.referencedTable ∉ gone := by
  have named {key : ForeignKey} (realizes : key.realizes r = true) :
      key.table = r.referencedTable := by
    simp only [ForeignKey.realizes, Bool.and_eq_true, beq_iff_eq] at realizes
    exact realizes.1.1
  simp only [hasForeignKey, without, List.any_eq_true, List.mem_filter, decide_eq_true_eq]
  constructor
  · rintro ⟨key, ⟨member, kept⟩, realizes⟩
    exact ⟨⟨key, member, realizes⟩, named realizes ▸ kept⟩
  · rintro ⟨⟨key, member, realizes⟩, kept⟩
    exact ⟨key, ⟨member, named realizes ▸ kept⟩, realizes⟩

end Live.Table

namespace Postgres

/-- The tables of a database by their names. -/
abbrev Tables : Type := String → Option Live.Table

/-- The database after a statement. A table that is made like another has no foreign keys, and a
statement that is known by its text alone is taken to change nothing. -/
def after (db : Tables) (statement : Sql.Statement) : Tables := fun name =>
  match statement with
  | .createTable table _ =>
    if table.name = name then some ((db name).getD (.written table)) else db name
  | .createLike source target _ =>
    if target = name then (db name).or ((db source).map ({ · with name, foreignKeys := [] }))
    else db name
  | .dropTable gone _ cascade =>
    if gone = name then none else (db name).map (·.without (if cascade then [gone] else []))
  | _ => if statement.worksOn name then (db name).map (Sql.Statement.alter · statement) else db name

/-- The database after statements, one after another. -/
def afterAll (db : Tables) (statements : List Sql.Statement) : Tables := statements.foldl after db

theorem afterAll_append (db : Tables) (before later : List Sql.Statement) :
    afterAll db (before ++ later) = afterAll (afterAll db before) later :=
  List.foldl_append

section
variable {db : Tables} {statements : List Sql.Statement}

/-- Work on one table leaves the constraints of the others alone. -/
theorem after_other (works : statement.worksOn name = true) (differs : other ≠ name) :
    (after db statement other).map (·.constraints) = (db other).map (·.constraints) := by
  cases statement with
  | dropIndex =>
    simp only [after, Sql.Statement.worksOn, if_true, Option.map_map]
    rfl
  | createTable | createIndex | addColumn | alterColumnType | dropConstraint | addPrimaryKey
  | addForeignKey =>
    rw [Sql.Statement.worksOn, beq_iff_eq] at works
    simp [after, Sql.Statement.worksOn, works, differs.symm]
  | createLike | dropTable | copyRows | copyColumns | comment | given => cases works

theorem afterAll_other (works : ∀ statement ∈ statements, statement.worksOn name = true)
    (differs : other ≠ name) :
    (afterAll db statements other).map (·.constraints) = (db other).map (·.constraints) := by
  induction statements generalizing db with
  | nil => rfl
  | cons statement rest ih =>
    rw [afterAll, List.foldl_cons]
    exact (ih fun s among => works s (List.mem_cons_of_mem _ among)).trans
      (after_other (works statement List.mem_cons_self) differs)

/-- Work on a table that is there alters it. -/
theorem after_own (works : statement.worksOn name = true) (there : db name = some live) :
    after db statement name = some (statement.alter live) := by
  cases statement with
  | createTable table =>
    rw [Sql.Statement.worksOn, beq_iff_eq] at works
    rw [after, if_pos works, there]
    rfl
  | dropIndex => simp [after, Sql.Statement.worksOn, there]
  | createIndex | addColumn | alterColumnType | dropConstraint | addPrimaryKey | addForeignKey =>
    simp [after, works, there]
  | createLike | dropTable | copyRows | copyColumns | comment | given => cases works

theorem afterAll_own (works : ∀ statement ∈ statements, statement.worksOn name = true)
    (there : db name = some live) :
    afterAll db statements name = some (statements.foldl Sql.Statement.alter live) := by
  induction statements generalizing db live with
  | nil => exact there
  | cons statement rest ih =>
    exact ih (fun s among => works s (List.mem_cons_of_mem _ among))
      (after_own (works statement List.mem_cons_self) there)

/-- Tables that are dropped are gone, and the others lose their foreign keys to them. -/
theorem afterAll_drops (db : Tables) (gone : List String) (name : String) :
    afterAll db (gone.map (.dropTable · true true)) name =
      if name ∈ gone then none else (db name).map (·.without gone) := by
  induction gone generalizing db with
  | nil =>
    have all (t : Live.Table) : t.without [] = t := by simp [Live.Table.without]
    simp [afterAll, all]
  | cons first rest ih =>
    rw [List.map_cons, afterAll, List.foldl_cons]
    refine (ih _).trans ?_
    by_cases later : name ∈ rest
    · simp [later]
    · by_cases same : first = name
      · simp [after, same]
      · simp [after, later, same, Ne.symm same, Live.Table.without_without, Function.comp_def]

end

section
variable {t : Schema.Table} {live found : Live.Table} {operations : List Operation}

/-- What is done for columns and indexes leaves the constraints of the table alone. -/
theorem constraints_of_spared (key : Part.key.Spared operations)
    (foreignKeys : Part.foreignKeys.Spared operations) (live : Live.Table) :
    ((operations.flatMap Dialect.postgres.render).foldl Sql.Statement.alter live).constraints =
      live.constraints := by
  induction operations generalizing live with
  | nil => rfl
  | cons operation rest ih =>
    have later := ih (fun o among => key o (List.mem_cons_of_mem _ among))
      (fun o among => foreignKeys o (List.mem_cons_of_mem _ among))
    rw [List.flatMap_cons, List.foldl_append]
    refine (later _).trans ?_
    cases operation with
    | setPrimaryKey => exact absurd rfl (key _ List.mem_cons_self)
    | addForeignKey => exact absurd rfl (foreignKeys _ List.mem_cons_self)
    | _ => rfl

/-- A new key takes the place of the one whose name is known, and of no foreign key. -/
theorem foreignKeys_of_keyOperations (named : found.primaryKeyName = live.primaryKeyName) :
    (((Dialect.postgres.keyOperations t live).flatMap Dialect.postgres.render).foldl
      Sql.Statement.alter found).foreignKeys = found.foreignKeys := by
  unfold Dialect.keyOperations Dialect.primaryKeyChange
  split
  · rfl
  · have dropped : (((live.primaryKeyName.map (.dropConstraint t.name)).toList).foldl
        Sql.Statement.alter found).foreignKeys = found.foreignKeys := by
      cases replaced : live.primaryKeyName with
      | none => rfl
      | some name =>
        simp only [Option.map_some, Option.toList_some, List.foldl_cons, List.foldl_nil,
          Sql.Statement.alter, if_pos (named.trans replaced), Operation.alter]
    have added (made : Live.Table) :
        ((if t.idFields.isEmpty then [] else [.addPrimaryKey t.name t.idFields]).foldl
          Sql.Statement.alter made).foreignKeys = made.foreignKeys := by
      split <;> rfl
    simp only [Dialect.postgres, if_true, Option.toList_some, List.filterMap_cons,
      Change.operation?, List.filterMap_nil, List.flatMap_cons, List.flatMap_nil, List.append_nil,
      Dialect.renderPostgres, List.foldl_append]
    exact (added _).trans dropped

/-- The declared foreign keys that the planner has not seen are added. -/
theorem foreignKeyOperations_eq (t : Schema.Table) (live : Live.Table) :
    Dialect.postgres.foreignKeyOperations t live =
      (t.foreignKeys.filter (!live.hasForeignKey ·)).map fun r =>
        .addForeignKey t.name (t.foreignKeyDefinition r) := by
  unfold Dialect.foreignKeyOperations
  induction t.foreignKeys with
  | nil => rfl
  | cons r rest ih =>
    cases present : live.hasForeignKey r with
    | false =>
      have change : Dialect.postgres.foreignKeyChange t live r =
          some (.inPlace (.addForeignKey t.name (t.foreignKeyDefinition r))) := by
        rw [Dialect.foreignKeyChange, present]
        rfl
      rw [List.filterMap_cons_some change, List.filter_cons_of_pos (by simp [present]),
        List.map_cons, ← ih]
      rfl
    | true =>
      have change : Dialect.postgres.foreignKeyChange t live r = none := by
        rw [Dialect.foreignKeyChange, present]
        rfl
      rw [List.filterMap_cons_none change, ih, List.filter_cons_of_neg (by simp [present])]

theorem foreignKeys_of_foreignKeyOperations (found : Live.Table) :
    (((Dialect.postgres.foreignKeyOperations t live).flatMap Dialect.postgres.render).foldl
      Sql.Statement.alter found).foreignKeys = found.foreignKeys ++
        (t.foreignKeys.filter (!live.hasForeignKey ·)).map fun r =>
          .written (t.foreignKeyDefinition r) := by
  rw [foreignKeyOperations_eq]
  induction t.foreignKeys.filter (!live.hasForeignKey ·) generalizing found with
  | nil => simp
  | cons r rest ih =>
    rw [List.map_cons, List.flatMap_cons, List.foldl_append]
    refine (ih _).trans ?_
    simp [Dialect.postgres, Dialect.renderPostgres, Sql.Statement.alter, Operation.alter]

theorem foreignKeys_of_operations (columns : List Sql.Column)
    (named : found.primaryKeyName = live.primaryKeyName) :
    (((Dialect.postgres.operations t live columns).flatMap Dialect.postgres.render).foldl
      Sql.Statement.alter found).foreignKeys = found.foreignKeys ++
        (t.foreignKeys.filter (!live.hasForeignKey ·)).map fun r =>
          .written (t.foreignKeyDefinition r) := by
  have key : Part.key.Spared (columns.flatMap (Dialect.postgres.columnOperations t.name live) ++
      t.indexes.flatMap (indexOperations t live)) :=
    beforeKey_spared _ t columns live (by simp) (by simp)
  have foreignKeys : Part.foreignKeys.Spared
      (columns.flatMap (Dialect.postgres.columnOperations t.name live) ++
        t.indexes.flatMap (indexOperations t live)) :=
    beforeKey_spared _ t columns live (by simp) (by simp)
  obtain ⟨sameName, sameKeys⟩ := Prod.mk.inj (constraints_of_spared key foreignKeys found)
  rw [Dialect.operations, List.flatMap_append, List.flatMap_append, List.foldl_append,
    List.foldl_append, foreignKeys_of_foreignKeyOperations,
    foreignKeys_of_keyOperations (sameName.trans named)]
  exact congrArg (· ++ _) sameKeys

/-- Of the foreign keys that are added, one is the declared one unless it was seen before. -/
theorem any_added (declared : r ∈ t.foreignKeys) :
    ((t.foreignKeys.filter (!live.hasForeignKey ·)).map fun r =>
      Live.ForeignKey.written (t.foreignKeyDefinition r)).any (·.realizes r) =
        !live.hasForeignKey r := by
  have alike (other : Schema.Relation)
      (realizes : (Live.ForeignKey.written (t.foreignKeyDefinition other)).realizes r = true) :
      live.hasForeignKey other = live.hasForeignKey r := by
    simp only [Live.ForeignKey.realizes, Live.ForeignKey.written,
      Schema.Table.foreignKeyDefinition, Bool.and_eq_true, beq_iff_eq] at realizes
    simp only [Live.Table.hasForeignKey, Live.ForeignKey.realizes, realizes]
  rw [Bool.eq_iff_iff, List.any_map, List.any_eq_true, Bool.not_eq_true']
  constructor
  · rintro ⟨other, among, realizes⟩
    have unseen := (List.mem_filter.mp among).2
    rw [alike other realizes] at unseen
    simpa using unseen
  · intro unseen
    exact ⟨r, List.mem_filter.mpr ⟨declared, by rw [unseen]; rfl⟩,
      Live.ForeignKey.written_realizes t r⟩

/-- Changes that were planned before other tables were dropped add the declared foreign keys that
were not there. They do not bring back those that went with the other tables. -/
theorem hasForeignKey_of_operations (columns : List Sql.Column)
    (same : found.constraints = (live.without gone).constraints) (declared : r ∈ t.foreignKeys) :
    (((Dialect.postgres.operations t live columns).flatMap Dialect.postgres.render).foldl
        Sql.Statement.alter found).hasForeignKey r = false ↔
      live.hasForeignKey r = true ∧ r.referencedTable ∈ gone := by
  have named : found.primaryKeyName = live.primaryKeyName := (Prod.mk.inj same).1
  have still : found.hasForeignKey r = true ↔
      live.hasForeignKey r = true ∧ r.referencedTable ∉ gone := by
    rw [← Live.Table.hasForeignKey_without_iff, Live.Table.hasForeignKey_of_constraints same]
  rw [Live.Table.hasForeignKey, foreignKeys_of_operations columns named, List.any_append,
    any_added declared, ← Live.Table.hasForeignKey, Bool.or_eq_false_iff, Bool.not_eq_false',
    ← Bool.not_eq_true, still]
  constructor
  · rintro ⟨lost, seen⟩
    exact ⟨seen, by_contra fun kept => lost ⟨seen, kept⟩⟩
  · rintro ⟨seen, lost⟩
    exact ⟨fun still => still.2 lost, seen⟩

/-- A table that is absent is created, and one that is there is changed in place. -/
theorem plan_cases {live : Option Live.Table} (plan : Dialect.postgres.plan t live = .ok p) :
    ∃ columns,
      live = none ∧ p = .create (.createTable (t.definition columns) true :: t.createIndexes) ∨
        ∃ table, live = some table ∧ p = .alter (Dialect.postgres.operations t table columns) := by
  obtain ⟨columns, _, planned⟩ := Dialect.planned plan
  refine ⟨columns, ?_⟩
  cases planned with
  | create => exact .inl ⟨rfl, rfl⟩
  | @alter live changes changed => exact .inr ⟨live, rfl, by rw [operations_of_changes changed]⟩
  | rebuild changed needed => exact absurd (Dialect.reasons_of_able rfl rfl changed) needed

/-- A new key drops the constraint that it replaces and is added. -/
theorem mem_render_setPrimaryKey {columns : List String} (rendered : statement ∈
      Dialect.postgres.render (.setPrimaryKey table columns replaces)) :
    (∃ name, statement = .dropConstraint table name) ∨
      statement = .addPrimaryKey table columns := by
  rcases List.mem_append.mp rendered with rendered | rendered
  · obtain ⟨name, _, rfl⟩ := Option.map_eq_some_iff.mp (Option.mem_toList.mp rendered)
    exact .inl ⟨name, rfl⟩
  · split at rendered
    · cases rendered
    · exact .inr (List.mem_singleton.mp rendered)

/-- The statements that create a table work on it. -/
theorem worksOn_of_create (columns : List Sql.Column)
    (among : statement ∈ (Operation.createTable (t.definition columns) true ::
      t.createIndexes).flatMap Dialect.postgres.render) : statement.worksOn t.name = true := by
  obtain ⟨operation, member, rendered⟩ := List.mem_flatMap.mp among
  rcases List.mem_cons.mp member with rfl | member
  · obtain rfl := List.mem_singleton.mp rendered
    simp [Sql.Statement.worksOn, Schema.Table.definition]
  · obtain ⟨index, _, rfl⟩ := List.mem_map.mp member
    obtain rfl := List.mem_singleton.mp rendered
    simp [Sql.Statement.worksOn, Schema.Table.indexDefinition]

/-- The statements that change a table in place work on it. -/
theorem worksOn_of_operations {columns : List Sql.Column}
    (among : statement ∈ (Dialect.postgres.operations t live columns).flatMap
      Dialect.postgres.render) : statement.worksOn t.name = true := by
  obtain ⟨operation, member, rendered⟩ := List.mem_flatMap.mp among
  simp only [Dialect.operations, List.mem_append, List.mem_flatMap] at member
  rcases member with ((⟨c, _, member⟩ | ⟨i, _, member⟩) | member) | member
  · rcases mem_columnOperations member with rfl | ⟨_, rfl⟩
    all_goals
      obtain rfl := List.mem_singleton.mp rendered
      exact beq_self_eq_true _
  · rcases mem_indexOperations member with rfl | rfl
    all_goals
      obtain rfl := List.mem_singleton.mp rendered
      simp [Sql.Statement.worksOn, Schema.Table.indexDefinition]
  · rw [mem_keyOperations member] at rendered
    rcases mem_render_setPrimaryKey rendered with ⟨_, rfl⟩ | rfl <;> exact beq_self_eq_true _
  · obtain ⟨r, _, rfl⟩ := mem_foreignKeyOperations member
    obtain rfl := List.mem_singleton.mp rendered
    exact beq_self_eq_true _

/-- A table that was absent is created with all its foreign keys. -/
theorem afterAll_create {db : Tables} (absent : db t.name = none) (columns : List Sql.Column) :
    ∃ table, afterAll db ((Operation.createTable (t.definition columns) true ::
        t.createIndexes).flatMap Dialect.postgres.render) t.name = some table ∧
      ∀ r ∈ t.foreignKeys, table.hasForeignKey r = true := by
  have named : (t.definition columns).name = t.name := rfl
  have made : after db (.createTable (t.definition columns) true) t.name =
      some (.written (t.definition columns)) := by
    rw [after, if_pos named, absent]
    rfl
  have works : ∀ statement ∈ t.createIndexes.flatMap Dialect.postgres.render,
      statement.worksOn t.name = true :=
    fun statement among => worksOn_of_create columns (List.mem_append_right _ among)
  have key : Part.key.Spared t.createIndexes := createIndexes_spared t (by simp)
  have quiet := constraints_of_spared key (createIndexes_spared t (by simp))
    (.written (t.definition columns))
  have created := afterAll_own works made
  refine ⟨_, created, fun r declared => ?_⟩
  rw [Live.Table.hasForeignKey_of_constraints quiet]
  exact Live.Table.hasForeignKey_written t columns declared

end

end Postgres

end Conform
