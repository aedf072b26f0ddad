import Conform.Proofs.Schema.Normal

/-! What normalization makes of a schema that it has made. Every step finds its own work done, but a
unique field now has a constraint, and a constraint names the first field of its name. -/
namespace Conform.Schema

namespace Table

/-- The names of the unique fields. -/
def uniqueNames (t : Table) : List String := (t.fields.filter (·.isUnique)).map (·.name)

/-- The first unique field whose name means a relation, since a relation of this name stands before
it. -/
def hiddenName? (t : Table) : Option String := t.relationName? t.uniqueNames

def hiddenFault? (t : Table) : Option Fault :=
  t.hiddenName?.map (.relationHasNoColumn t.name .uniqueConstraint)

end Table

theorem Field.kept_of_classify {f g : Field} (done : f.classify models enums table = .ok g) :
    (g.name, g.isUnique) = (f.name, f.isUnique) := by
  unfold classify at done
  dsimp only at done
  split at done
  · split at done <;> cases done
    rfl
  · split at done <;> cases done
    rfl

theorem Table.uniqueNames_of_classify {t classified : Table}
    (done : t.classify models enums = .ok classified) : classified.uniqueNames = t.uniqueNames := by
  obtain ⟨fields, traversed, rfl⟩ := classify_ok_iff.mp done
  have names (fields : List Field) : (fields.filter (·.isUnique)).map (·.name) =
      ((fields.map fun f => (f.name, f.isUnique)).filter (·.2)).map (·.1) := by
    rw [List.filter_map, List.map_map]
    rfl
  have kept : fields.map (fun f => (f.name, f.isUnique)) =
      t.fields.map fun f => (f.name, f.isUnique) :=
    map_of_mapM_ok traversed fun _ _ => Field.kept_of_classify
  rw [uniqueNames, uniqueNames, names, names, kept]

/-- What is covered comes after the constraints that were there. -/
theorem foldl_coverUnique_eq_append (constraints : List UniqueConstraint) (names : List String) :
    ∃ more, names.foldl coverUnique constraints = constraints ++ more := by
  induction names generalizing constraints with
  | nil => exact ⟨[], (List.append_nil _).symm⟩
  | cons first rest ih =>
    by_cases there : constraints.contains ⟨[first]⟩ = true
    · rw [List.foldl_cons, coverUnique, if_pos there]
      exact ih constraints
    · obtain ⟨more, same⟩ := ih (constraints ++ [⟨[first]⟩])
      rw [List.foldl_cons, coverUnique, if_neg there, same, List.append_assoc]
      exact ⟨_, rfl⟩

/-- The first finding among the constraints is about the first name that has one, if there is none
about the constraints that were there. -/
theorem head?_filterMap_coverUnique {check : UniqueConstraint → Option α}
    {constraints : List UniqueConstraint} (clean : ∀ u ∈ constraints, check u = none)
    (names : List String) : ((names.foldl coverUnique constraints).filterMap check).head? =
      names.findSome? fun name => check ⟨[name]⟩ := by
  induction names generalizing constraints with
  | nil =>
    rw [List.foldl_nil, List.filterMap_eq_nil_iff.mpr clean]
    rfl
  | cons first rest ih =>
    rw [List.foldl_cons, List.findSome?_cons]
    cases found : check ⟨[first]⟩ with
    | none =>
      refine ih fun u member => ?_
      rcases mem_coverUnique.mp member with old | rfl
      · exact clean u old
      · exact found
    | some finding =>
      have fresh : coverUnique constraints first = constraints ++ [⟨[first]⟩] := by
        refine if_neg fun there => ?_
        rw [clean _ (List.contains_iff_mem.mp there)] at found
        cases found
      obtain ⟨more, same⟩ := foldl_coverUnique_eq_append (constraints ++ [⟨[first]⟩]) rest
      rw [fresh, same, List.filterMap_append, List.filterMap_append,
        List.filterMap_eq_nil_iff.mpr clean]
      simp [found]

theorem findSome?_congr {f g : α → Option β} {list : List α} (same : ∀ a ∈ list, f a = g a) :
    list.findSome? f = list.findSome? g := by
  rw [← List.head?_filterMap, ← List.head?_filterMap, List.filterMap_congr same]

namespace Table

variable {t : Table} {tables : List Table}

theorem foreignKeyFault?_completed (r : Relation) :
    t.completed.foreignKeyFault? (tables.map (·.completed)) r = t.foreignKeyFault? tables r := by
  have target : (tables.map (·.completed)).find? (·.name == r.referencedTable) =
      (tables.find? (·.name == r.referencedTable)).map (·.completed) := List.find?_map ..
  have unknown : t.completed.unknownName? r.fields = t.unknownName? r.fields := rfl
  have relation : t.completed.relationName? r.fields = t.relationName? r.fields := rfl
  rw [foreignKeyFault?, foreignKeyFault?, target, unknown, relation]
  cases t.unknownName? r.fields <;> cases t.relationName? r.fields <;>
    cases tables.find? (·.name == r.referencedTable) <;> rfl

/-- A constraint on one unique field is at fault when the name of the field means a relation. -/
theorem columnFault?_unique {key : String} (member : key ∈ t.uniqueNames) :
    t.columnFault? .uniqueConstraint [key] =
      (Option.guard (fun name => (t.field? name).any (!·.isColumn)) key).map
        (.relationHasNoColumn t.name .uniqueConstraint) := by
  obtain ⟨f, among, rfl⟩ := List.mem_map.mp member
  have there : t.unknownName? [f.name] = none := by
    obtain ⟨g, found⟩ : ∃ g, t.field? f.name = some g := by
      refine Option.isSome_iff_exists.mp (List.find?_isSome.mpr ⟨f, ?_, beq_self_eq_true _⟩)
      exact (List.mem_filter.mp among).1
    simp [unknownName?, found]
  rw [columnFault?, there, relationName?, List.find?_cons, Option.guard]
  cases (t.field? f.name).any (!·.isColumn) <;> rfl

theorem mem_uniqueConstraints_completed {u : UniqueConstraint} :
    u ∈ t.completed.uniqueConstraints ↔
      u ∈ t.uniqueConstraints ∨ ∃ name ∈ t.uniqueNames, u = ⟨[name]⟩ :=
  mem_foldl_iff (fun (name : String) (u : UniqueConstraint) => u = ⟨[name]⟩)
    fun _ _ _ => mem_coverUnique

theorem mem_indexes_completed : index ∈ t.completed.indexes ↔
    index ∈ t.indexes ∨ ∃ u ∈ t.completed.uniqueConstraints, index = ⟨u.fields⟩ := by
  have listed : t.completed.indexes = t.indexes ++ (t.completed.uniqueConstraints.filter fun u =>
      !t.indexes.contains ⟨u.fields⟩).map (⟨·.fields⟩) := rfl
  rw [listed, List.mem_append]
  constructor
  · rintro (declared | added)
    · exact .inl declared
    · obtain ⟨u, kept, rfl⟩ := List.mem_map.mp added
      exact .inr ⟨u, (List.mem_filter.mp kept).1, rfl⟩
  · rintro (declared | ⟨u, member, rfl⟩)
    · exact .inl declared
    · by_cases declared : (⟨u.fields⟩ : Index) ∈ t.indexes
      · exact .inl declared
      · refine .inr (List.mem_map.mpr ⟨u, List.mem_filter.mpr ⟨member, ?_⟩, rfl⟩)
        simpa using declared

/-- What is wrong with a completed table, if the table was right: a unique field is hidden. -/
theorem head?_faults_completed (clean : t.faults tables = []) :
    (t.completed.faults (tables.map (·.completed))).head? = t.hiddenFault? := by
  obtain ⟨ids, constraints, indexes, unique, foreignKeys⟩ := faults_eq_nil_iff.mp clean
  have noId : t.completed.columnFault? .id t.completed.idFields = none := ids
  have first : (t.completed.uniqueConstraints.filterMap fun u =>
      t.completed.columnFault? .uniqueConstraint u.fields).head? = t.hiddenFault? := by
    refine (head?_filterMap_coverUnique constraints t.uniqueNames).trans ?_
    rw [findSome?_congr fun name member => columnFault?_unique member, hiddenFault?, hiddenName?,
      relationName?, List.find?_eq_findSome?_guard, List.map_findSome?]
    rfl
  -- the key has no fault, so one of the constraints is the first
  cases hidden : t.hiddenFault? with
  | some fault =>
    rw [faults, noId, Option.toList_none, List.nil_append]
    simp only [List.head?_append, first, hidden, Option.some_or]
  | none =>
    rw [hidden, List.head?_eq_none_iff, List.filterMap_eq_nil_iff] at first
    refine List.head?_eq_none_iff.mpr (faults_eq_nil_iff.mpr ⟨noId, first, ?_, unique, ?_⟩)
    · intro index member
      rcases mem_indexes_completed.mp member with declared | ⟨u, among, rfl⟩
      · exact indexes index declared
      · exact columnFault?_eq_none_iff.mpr (columnFault?_eq_none_iff.mp (first u among))
    · intro r member
      rw [foreignKeyFault?_completed]
      exact foreignKeys r member

theorem completed_completed (t : Table) : t.completed.completed = t.completed := by
  have constraints : t.completed.foldUniqueFields = t.completed := by
    have covered : t.completed.uniqueNames.foldl coverUnique t.completed.uniqueConstraints =
        t.completed.uniqueConstraints := by
      refine foldl_eq_self fun name member => if_pos (List.contains_iff_mem.mpr ?_)
      exact mem_uniqueConstraints_completed.mpr (.inr ⟨name, member, rfl⟩)
    rw [foldUniqueFields, ← uniqueNames, covered]
  have indexes : t.completed.foldUniqueConstraints = t.completed := by
    have indexed : (t.completed.uniqueConstraints.filter fun u =>
        !t.completed.indexes.contains ⟨u.fields⟩) = [] := by
      refine List.filter_eq_nil_iff.mpr fun u member => ?_
      have there := mem_indexes_completed.mpr (.inr ⟨u, member, rfl⟩)
      simpa using there
    rw [foldUniqueConstraints, indexed, List.map_nil, List.append_nil]
  rw [completed, constraints, indexes]

end Table

/-- A schema in normal form is normalized to itself, unless a unique field is hidden. -/
theorem normalize_normal {tables : List Table} {enums : List Enumeration}
    (normal : normalize tables enums = .ok m) :
    normalize m.tables m.enums =
      (m.tables.findSome? (·.hiddenFault?)).elim (.ok m) .error := by
  obtain ⟨distinct, classified, done, clean, rfl⟩ := normalize_ok_iff.mp normal
  have names : (classified.map (·.completed)).map (·.name) = tables.map (·.name) := by
    rw [List.map_map]
    exact map_of_mapM_ok done fun _ _ => Table.name_of_classify
  -- completion leaves the fields and the key alone, so the tables are classified as themselves
  have again : (classified.map (·.completed)).mapM
      (·.classify (tables.map (·.name)) (enums.map (·.name))) =
        .ok (classified.map (·.completed)) := by
    refine mapM_ok_iff.mpr (List.map_congr_left fun t member => ?_)
    obtain ⟨old, among, rfl⟩ := List.mem_map.mp member
    obtain ⟨raw, _, found⟩ := exists_of_mem_of_mapM_ok done among
    exact (Table.isClassified found).completed.classify_eq
  rw [← names] at distinct again
  have settled : (classified.map (·.completed)).map (·.completed) =
      classified.map (·.completed) := by
    rw [List.map_map]
    exact List.map_congr_left fun t _ => t.completed_completed
  have first : ((classified.map (·.completed)).flatMap
      (·.faults (classified.map (·.completed)))).head? =
        (classified.map (·.completed)).findSome? (·.hiddenFault?) := by
    rw [List.head?_flatMap]
    refine findSome?_congr fun t member => ?_
    obtain ⟨old, among, rfl⟩ := List.mem_map.mp member
    exact Table.head?_faults_completed (clean old among)
  rw [normalize_of_classified distinct again, first, settled]

/-- The name of the field means a relation, which stands before the field. -/
def Table.Hides (t : Table) (f : Field) : Prop :=
  ∃ g, t.field? f.name = some g ∧ g.isRelation = true

theorem Table.hides_iff {t : Table} {f : Field} :
    t.Hides f ↔ (t.field? f.name).any (!·.isColumn) = true := by
  simp [Hides, Field.isColumn, Option.any_eq_true]

theorem Table.hiddenFault?_eq_none_iff {t : Table} :
    t.hiddenFault? = none ↔ ∀ f ∈ t.fields, f.isUnique = true → ¬ t.Hides f := by
  rw [hiddenFault?, Option.map_eq_none_iff, hiddenName?, relationName?, List.find?_eq_none]
  constructor
  · intro visible f member unique hidden
    refine visible f.name ?_ (hides_iff.mp hidden)
    exact List.mem_map_of_mem (List.mem_filter.mpr ⟨member, unique⟩)
  · intro visible name member hidden
    obtain ⟨f, among, rfl⟩ := List.mem_map.mp member
    obtain ⟨there, unique⟩ := List.mem_filter.mp among
    exact visible f there unique (hides_iff.mpr hidden)

theorem Table.of_hiddenFault?_eq_some {t : Table} (found : t.hiddenFault? = some fault) :
    ∃ f ∈ t.fields, f.isUnique = true ∧ t.Hides f ∧
      fault = .relationHasNoColumn t.name .uniqueConstraint f.name := by
  rw [hiddenFault?, hiddenName?, relationName?] at found
  obtain ⟨name, first, rfl⟩ := Option.map_eq_some_iff.mp found
  obtain ⟨f, among, rfl⟩ := List.mem_map.mp (List.mem_of_find?_eq_some first)
  obtain ⟨there, unique⟩ := List.mem_filter.mp among
  have relation := List.find?_some first
  exact ⟨f, there, unique, hides_iff.mpr relation, rfl⟩

/-- Normalizing a second time changes nothing exactly when no unique field is hidden by a relation
of its name, and a hidden one is refused. -/
theorem normalize_again {tables : List Table} {enums : List Enumeration}
    (normal : normalize tables enums = .ok m) :
    (normalize m.tables m.enums = .ok m ↔
      ∀ t ∈ m.tables, ∀ f ∈ t.fields, f.isUnique = true → ¬ t.Hides f) ∧
    (normalize m.tables m.enums ≠ .ok m →
      ∃ t ∈ m.tables, ∃ f ∈ t.fields, f.isUnique = true ∧ t.Hides f ∧
        normalize m.tables m.enums =
          .error (.relationHasNoColumn t.name .uniqueConstraint f.name)) := by
  rw [normalize_normal normal]
  cases first : m.tables.findSome? (·.hiddenFault?) with
  | none =>
    refine ⟨iff_of_true rfl fun t member => ?_, fun differs => absurd rfl differs⟩
    exact Table.hiddenFault?_eq_none_iff.mp (List.findSome?_eq_none_iff.mp first t member)
  | some fault =>
    obtain ⟨t, member, found⟩ := List.exists_of_findSome?_eq_some first
    obtain ⟨f, among, unique, hidden, rfl⟩ := Table.of_hiddenFault?_eq_some found
    refine ⟨iff_of_false nofun fun visible => ?_, fun _ => ?_⟩
    · exact visible t member f among unique hidden
    · exact ⟨t, member, f, among, unique, hidden, rfl⟩

/-- A relation and, after it, a unique column of the same name. -/
private def hidden : List Table :=
  [{ name := "A", fields := [{ name := "x", type := "B" },
      { name := "x", type := "Int", isUnique := true }] },
    { name := "B", fields := [{ name := "id", type := "Int", isId := true }] }]

theorem hidden_normalize_again : ∃ m, normalize hidden [] = .ok m ∧
    (normalize m.tables m.enums = .ok m ↔
      ∀ t ∈ m.tables, ∀ f ∈ t.fields, f.isUnique = true → ¬ t.Hides f) ∧
    (normalize m.tables m.enums ≠ .ok m →
      ∃ t ∈ m.tables, ∃ f ∈ t.fields, f.isUnique = true ∧ t.Hides f ∧
        normalize m.tables m.enums =
          .error (.relationHasNoColumn t.name .uniqueConstraint f.name)) := by
  obtain ⟨m, normal⟩ : ∃ m, normalize hidden [] = .ok m := ⟨_, rfl⟩
  exact ⟨m, normal, normalize_again normal⟩

/-- The constraint that the unique field gets in the normal form is refused in the normal form. -/
theorem hidden_refused_again : ∃ m, normalize hidden [] = .ok m ∧
    normalize m.tables m.enums = .error (.relationHasNoColumn "A" .uniqueConstraint "x") :=
  ⟨_, rfl, rfl⟩

end Conform.Schema
