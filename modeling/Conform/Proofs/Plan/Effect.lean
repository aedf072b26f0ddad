import Conform.Proofs.Plan.Cases
import Mathlib.Data.List.Nodup

/-! What the operations of a plan make of a live table. Each operation writes one part of the table,
and whatever can be read off the other parts stays as it is. -/
namespace Conform

namespace Live

/-- A column of a table with the given key, as a statement writes it. -/
def Column.written (key : List String) (column : Sql.Column) : Column where
  name := column.name
  type := column.type
  primaryKey := key.contains column.name

def Index.written (index : Sql.Index) : Index where
  name := index.name
  columns := index.columns
  unique := index.unique

def ForeignKey.written (key : Sql.ForeignKey) : ForeignKey where
  name := some key.name
  columns := key.columns
  table := key.table
  references := key.references

/-- A table that has just been created. -/
def Table.written (table : Sql.Table) : Table where
  name := table.name
  columns := table.columns.map (.written table.primaryKey)
  foreignKeys := table.foreignKeys.map .written
  primaryKey := table.primaryKey

/-- The foreign key that is written for a relation stands for it. -/
theorem ForeignKey.written_realizes (t : Schema.Table) (r : Schema.Relation) :
    (ForeignKey.written (t.foreignKeyDefinition r)).realizes r = true := by
  simp [realizes, written, Schema.Table.foreignKeyDefinition]

theorem Table.hasForeignKey_written (t : Schema.Table) (columns : List Sql.Column)
    (declared : r ∈ t.foreignKeys) :
    (Table.written (t.definition columns)).hasForeignKey r = true :=
  List.any_eq_true.mpr ⟨_, List.mem_map_of_mem (List.mem_map_of_mem declared),
    ForeignKey.written_realizes t r⟩

end Live

namespace Operation

/-- What an operation makes of a table that is there. The database names a new key by itself. -/
def alter (live : Live.Table) : Operation → Live.Table
  | addColumn _ column => { live with columns := live.columns ++ [.written live.primaryKey column] }
  | alterColumnType _ column _ newType => { live with
      columns := live.columns.map fun c =>
        if c.name = column then { c with type := newType } else c }
  | createIndex index => { live with
      indexes := live.indexes.filter (·.name != index.name) ++ [.written index] }
  | dropIndex name _ => { live with indexes := live.indexes.filter (·.name != name) }
  | setPrimaryKey _ columns _ => { live with
      columns := live.columns.map fun c => { c with primaryKey := columns.contains c.name }
      primaryKey := columns
      primaryKeyName := none }
  | addForeignKey _ key => { live with foreignKeys := live.foreignKeys ++ [.written key] }
  | createTable _ _ | dropTable _ _ => live

/-- What an operation makes of a table that may be absent. -/
def effect : Option Live.Table → Operation → Option Live.Table
  | none, createTable table _ => some (.written table)
  | _, dropTable _ _ => none
  | live, operation => live.map operation.alter

/-- What operations make of a table, one after another. -/
def effects (live : Option Live.Table) (operations : List Operation) : Option Live.Table :=
  operations.foldl effect live

def alters (live : Live.Table) (operations : List Operation) : Live.Table :=
  operations.foldl alter live

end Operation

/-- What a plan makes of a table. A rebuild begins with no table. -/
def Plan.effect (live : Option Live.Table) : Plan → Option Live.Table
  | create operations | alter operations => Operation.effects live operations
  | rebuild _ steps => Operation.effects none (steps.create :: steps.indexes)

/-- The parts of a table. -/
inductive Part where
  | column (name : String)
  | index (name : String)
  | key
  | foreignKeys
  | whole

/-- The part of a table that an operation writes. -/
def Operation.part : Operation → Part
  | addColumn _ column => .column column.name
  | alterColumnType _ column _ _ => .column column
  | createIndex index => .index index.name
  | dropIndex name _ => .index name
  | setPrimaryKey _ _ _ => .key
  | addForeignKey _ _ => .foreignKeys
  | createTable _ _ | dropTable _ _ => .whole

/-- The view shows one part of a table only. -/
def Part.Shown (part : Part) (view : Live.Table → α) : Prop :=
  ∀ live operation, Operation.part operation ≠ part → view (operation.alter live) = view live

namespace Live.Table

/-- A change of columns that keeps their names keeps what is found under a name. -/
theorem find?_map_named (columns : List Column) (f : Column → Column) (name : String)
    (named : ∀ c, (f c).name = c.name) :
    (columns.map f).find? (·.name == name) = (columns.find? (·.name == name)).map f := by
  simp only [List.find?_map, Function.comp_def, named]

theorem typeOf?_append (live : Live.Table) (columns : List Column) (name : String) :
    { live with columns := live.columns ++ columns }.typeOf? name =
      (live.typeOf? name).or ((columns.find? (·.name == name)).map (·.type)) := by
  simp only [typeOf?, column?, List.find?_append]
  cases live.columns.find? (·.name == name) <;> rfl

end Live.Table

namespace Operation

theorem typeOf?_addColumn (live : Live.Table) (table : String) (column : Sql.Column)
    (name : String) : (alter live (addColumn table column)).typeOf? name =
      (live.typeOf? name).or (if column.name = name then some column.type else none) := by
  simp only [alter, Live.Table.typeOf?_append, List.find?_singleton, Live.Column.written]
  by_cases same : column.name = name <;> simp [same]

theorem typeOf?_alterColumnType (live : Live.Table) (table column oldType newType name : String) :
    (alter live (alterColumnType table column oldType newType)).typeOf? name =
      (live.typeOf? name).map fun type => if column = name then newType else type := by
  have named (c : Live.Column) :
      (if c.name = column then { c with type := newType } else c).name = c.name := by
    split <;> rfl
  simp only [alter, Live.Table.typeOf?, Live.Table.column?, Live.Table.find?_map_named _ _ _ named]
  cases found : live.columns.find? (·.name == name) with
  | none => rfl
  | some c =>
    have same : c.name = name := by simpa using List.find?_some found
    simp only [Option.map_some, same, eq_comm (a := column)]
    split <;> rfl

theorem typeOf?_setPrimaryKey (live : Live.Table) (table : String) (columns : List String)
    (replaces : Option String) (name : String) :
    (alter live (setPrimaryKey table columns replaces)).typeOf? name = live.typeOf? name := by
  let marked (c : Live.Column) : Live.Column := { c with primaryKey := columns.contains c.name }
  have found := Live.Table.find?_map_named live.columns marked name fun _ => rfl
  exact (congrArg (Option.map (·.type)) found).trans (Option.map_map ..)

theorem find?_others (indexes : List Live.Index) (gone name : String) :
    (indexes.filter (·.name != gone)).find? (·.name == name) =
      if gone = name then none else indexes.find? (·.name == name) := by
  rw [List.find?_filter]
  split
  · subst gone
    simp
  · congr 1
    funext index
    by_cases same : index.name = name
    · simp [same, Ne.symm ‹gone ≠ name›]
    · simp [same]

theorem index?_dropIndex (live : Live.Table) (dropped name : String) (ifExists : Bool) :
    (alter live (dropIndex dropped ifExists)).index? name =
      if dropped = name then none else live.index? name :=
  find?_others live.indexes dropped name

theorem index?_createIndex (live : Live.Table) (index : Sql.Index) (name : String) :
    (alter live (createIndex index)).index? name =
      if index.name = name then some (.written index) else live.index? name := by
  simp only [alter, Live.Table.index?, List.find?_append, find?_others, List.find?_singleton,
    Live.Index.written]
  by_cases same : index.name = name
  · simp [same]
  · simp [same]

/-- No operation takes a foreign key away. -/
theorem hasForeignKey_alter (live : Live.Table) (operation : Operation)
    (present : live.hasForeignKey r = true) : (alter live operation).hasForeignKey r = true := by
  cases operation with
  | addForeignKey =>
    rw [alter, Live.Table.hasForeignKey, List.any_append]
    exact Bool.or_eq_true_iff.mpr (.inl present)
  | _ => exact present

theorem hasForeignKey_alters (live : Live.Table) (operations : List Operation)
    (present : live.hasForeignKey r = true) : (alters live operations).hasForeignKey r = true := by
  induction operations generalizing live with
  | nil => exact present
  | cons operation rest ih => exact ih _ (hasForeignKey_alter live operation present)

/-- A foreign key that is added among other changes is there after them. -/
theorem hasForeignKey_of_added (live : Live.Table)
    (added : addForeignKey table key ∈ operations)
    (realizes : (Live.ForeignKey.written key).realizes r = true) :
    (alters live operations).hasForeignKey r = true := by
  obtain ⟨before, after, rfl⟩ := List.append_of_mem added
  rw [alters, List.foldl_append, List.foldl_cons]
  refine hasForeignKey_alters _ after ?_
  rw [alter, Live.Table.hasForeignKey, List.any_append]
  exact Bool.or_eq_true_iff.mpr (.inr (by simp [realizes]))

end Operation

namespace Part

theorem column_shown (name : String) : (column name).Shown (·.typeOf? name) := by
  intro live operation other
  cases operation with
  | addColumn _ column =>
    have differs : column.name ≠ name := fun same => other (congrArg _ same)
    simp [Operation.typeOf?_addColumn, differs]
  | alterColumnType _ column _ newType =>
    have differs : column ≠ name := fun same => other (congrArg _ same)
    simp [Operation.typeOf?_alterColumnType, differs]
  | setPrimaryKey => exact Operation.typeOf?_setPrimaryKey ..
  | createIndex | dropIndex | addForeignKey | createTable | dropTable => rfl

theorem index_shown (name : String) : (index name).Shown (·.index? name) := by
  intro live operation other
  cases operation with
  | createIndex index =>
    have differs : index.name ≠ name := fun same => other (congrArg _ same)
    simp [Operation.index?_createIndex, differs]
  | dropIndex dropped =>
    have differs : dropped ≠ name := fun same => other (congrArg _ same)
    simp [Operation.index?_dropIndex, differs]
  | addColumn | alterColumnType | setPrimaryKey | addForeignKey | createTable | dropTable => rfl

theorem key_shown : key.Shown (·.primaryKey) := by
  intro live operation other
  cases operation with
  | setPrimaryKey => exact absurd rfl other
  | _ => rfl

theorem foreignKeys_shown : foreignKeys.Shown (·.foreignKeys) := by
  intro live operation other
  cases operation with
  | addForeignKey => exact absurd rfl other
  | _ => rfl

/-- None of the operations writes the part. -/
def Spared (part : Part) (operations : List Operation) : Prop :=
  ∀ operation ∈ operations, Operation.part operation ≠ part

theorem Spared.nil (part : Part) : part.Spared [] := by
  intro operation among
  cases among

theorem Spared.append {part : Part} (first : part.Spared before) (second : part.Spared after) :
    part.Spared (before ++ after) := by
  intro operation among
  rcases List.mem_append.mp among with among | among
  · exact first operation among
  · exact second operation among

theorem Spared.flatMap {part : Part} {operations : α → List Operation} {xs : List α}
    (each : ∀ x ∈ xs, part.Spared (operations x)) : part.Spared (xs.flatMap operations) := by
  intro operation among
  obtain ⟨x, member, among⟩ := List.mem_flatMap.mp among
  exact each x member operation among

variable {part : Part} {view : Live.Table → α}

/-- Operations on other parts do not show. -/
theorem Shown.alters (shown : part.Shown view) (live : Live.Table)
    (spared : part.Spared operations) : view (Operation.alters live operations) = view live := by
  induction operations generalizing live with
  | nil => rfl
  | cons operation rest ih =>
    rw [Operation.alters, List.foldl_cons]
    exact (ih _ fun o member => spared o (List.mem_cons_of_mem _ member)).trans
      (shown live operation (spared operation List.mem_cons_self))

/-- Among operations on other parts only the own ones show, and they find what was there. -/
theorem Shown.alters_own (shown : part.Shown view) (live : Live.Table)
    (before : part.Spared first) (after : part.Spared last) :
    ∃ found, view found = view live ∧
      view (Operation.alters live (first ++ own ++ last)) = view (Operation.alters found own) := by
  refine ⟨Operation.alters live first, shown.alters live before, ?_⟩
  rw [Operation.alters, List.foldl_append, List.foldl_append]
  exact shown.alters _ after

end Part

/-- An element stands alone among distinct ones. -/
theorem split_at {xs : List α} {key : α → β} (distinct : (xs.map key).Nodup)
    (member : x ∈ xs) : ∃ before after, xs = before ++ x :: after ∧
      (∀ y ∈ before, key y ≠ key x) ∧ ∀ y ∈ after, key y ≠ key x := by
  obtain ⟨before, after, rfl⟩ := List.append_of_mem member
  rw [List.map_append, List.map_cons, List.nodup_append, List.nodup_cons] at distinct
  obtain ⟨_, ⟨absent, _⟩, apart⟩ := distinct
  refine ⟨before, after, rfl, fun y member => ?_, fun y member same => ?_⟩
  · exact apart _ (List.mem_map_of_mem member) _ List.mem_cons_self
  · exact absent (List.mem_map.mpr ⟨y, member, same⟩)

theorem find?_own {xs : List α} {key : α → String} (distinct : (xs.map key).Nodup)
    (member : x ∈ xs) : xs.find? (key · == key x) = some x := by
  obtain ⟨before, after, rfl, others, _⟩ := split_at distinct member
  rw [List.find?_append, List.find?_eq_none.mpr fun y among => by simpa using others y among]
  simp

/-- Rows that list columns with their types give the type of each of them. -/
theorem find?_listed {rows : List α} {name type : α → String} {columns : List Sql.Column}
    {spelling : String → String} (listed : rows.map (fun row => (name row, type row)) =
      columns.map fun c => (c.name, spelling c.type))
    (distinct : (columns.map (·.name)).Nodup) (member : column ∈ columns) :
    (rows.find? (name · == column.name)).map type = some (spelling column.type) := by
  have among : (column.name, spelling column.type) ∈ rows.map fun row => (name row, type row) := by
    rw [listed]
    exact List.mem_map_of_mem member
  obtain ⟨row, among, same⟩ := List.mem_map.mp among
  obtain ⟨named, typed⟩ := Prod.mk.inj same
  have names : (rows.map name).Nodup := by
    have same := congrArg (List.map (·.1)) listed
    simp only [List.map_map, Function.comp_def] at same
    rwa [same]
  have own := find?_own names among
  rw [← named, own, Option.map_some, typed]

theorem find?_unique {xs : List α} {p : α → Bool} (member : x ∈ xs) (holds : p x = true)
    (unique : ∀ y ∈ xs, p y = true → y = x) : xs.find? p = some x := by
  cases found : xs.find? p with
  | none => exact absurd holds (List.find?_eq_none.mp found x member)
  | some y => rw [unique y (List.mem_of_find?_eq_some found) (List.find?_some found)]

/-- Only the operations of one element write its own part. -/
theorem Part.Shown.alters_at {part : Part} {view : Live.Table → γ} (shown : part.Shown view)
    (live : Live.Table) {xs : List α} {key : α → β} (distinct : (xs.map key).Nodup)
    (member : x ∈ xs) {operations : α → List Operation}
    (others : ∀ y, key y ≠ key x → part.Spared (operations y))
    (before : part.Spared first) (after : part.Spared last) :
    ∃ found, view found = view live ∧
      view (Operation.alters live (first ++ xs.flatMap operations ++ last)) =
        view (Operation.alters found (operations x)) := by
  obtain ⟨left, right, rfl, leftOthers, rightOthers⟩ := split_at distinct member
  have cut : first ++ (left ++ x :: right).flatMap operations ++ last =
      (first ++ left.flatMap operations) ++ operations x ++ (right.flatMap operations ++ last) := by
    simp [List.flatMap_append, List.flatMap_cons]
  rw [cut]
  exact shown.alters_own live
    (before.append (.flatMap fun y among => others y (leftOthers y among)))
    ((Part.Spared.flatMap fun y among => others y (rightOthers y among)).append after)

/-- Operations that neither create nor drop the table alter it. -/
theorem Operation.effects_some (live : Live.Table) (spared : Part.whole.Spared operations) :
    effects (some live) operations = some (alters live operations) := by
  induction operations generalizing live with
  | nil => rfl
  | cons operation rest ih =>
    have altered : effect (some live) operation = some (operation.alter live) := by
      cases operation with
      | dropTable => exact absurd rfl (spared _ List.mem_cons_self)
      | _ => rfl
    rw [effects, List.foldl_cons, altered]
    exact ih _ fun o member => spared o (List.mem_cons_of_mem _ member)

end Conform
