import Conform.Proofs.Schema.SecondPass
import Mathlib.Data.List.Count
import Mathlib.Data.List.Nodup

/-! What folding adds to a table. A unique field gets a constraint and an index once, however often
it is declared, and what was declared comes first and is not changed. -/
namespace Conform.Schema

/-- One unique field adds its constraint where it is missing. -/
theorem count_coverUnique (constraints : List UniqueConstraint) (name : String)
    (u : UniqueConstraint) : (coverUnique constraints name).count u =
      constraints.count u + if u ∉ constraints ∧ u = ⟨[name]⟩ then 1 else 0 := by
  unfold coverUnique
  by_cases covered : (⟨[name]⟩ : UniqueConstraint) ∈ constraints
  · have old : ¬ (u ∉ constraints ∧ u = ⟨[name]⟩) := fun new => new.1 (new.2 ▸ covered)
    simp [covered, old]
  · by_cases own : u = ⟨[name]⟩
    · simp [covered, own]
    · simp [covered, own, Ne.symm own]

/-- A constraint that is missing comes once, and those that were there are there as often as
before. -/
theorem count_foldl_coverUnique (names : List String) (constraints : List UniqueConstraint)
    (u : UniqueConstraint) : (names.foldl coverUnique constraints).count u =
      constraints.count u + if u ∉ constraints ∧ ∃ name ∈ names, u = ⟨[name]⟩ then 1 else 0 := by
  induction names generalizing constraints with
  | nil => simp
  | cons first rest ih =>
    rw [List.foldl_cons, ih, count_coverUnique]
    by_cases there : u ∈ constraints
    · have still : u ∈ coverUnique constraints first := mem_coverUnique.mpr (.inl there)
      simp [there, still]
    · by_cases own : u = ⟨[first]⟩
      · -- it comes with this name, and the other names find it there
        have now : u ∈ coverUnique constraints first := mem_coverUnique.mpr (.inr own)
        subst own
        simp [there, now]
      · have missing : u ∉ coverUnique constraints first :=
          fun among => (mem_coverUnique.mp among).elim there own
        simp [there, own, missing]

namespace Table

/-- No index is listed twice, and no unique constraint that has no index. -/
structure ListsOnce (t : Table) : Prop where
  indexes : t.indexes.Nodup
  constraints : ∀ u ∈ t.uniqueConstraints, ⟨u.fields⟩ ∉ t.indexes → t.uniqueConstraints.count u = 1

variable {t : Table}

theorem uniqueConstraints_prefix (t : Table) :
    t.uniqueConstraints <+: t.completed.uniqueConstraints := by
  obtain ⟨more, same⟩ := foldl_coverUnique_eq_append t.uniqueConstraints t.uniqueNames
  exact ⟨more, same.symm⟩

theorem indexes_prefix (t : Table) : t.indexes <+: t.completed.indexes := List.prefix_append ..

theorem count_uniqueConstraints_completed (t : Table) (u : UniqueConstraint) :
    t.completed.uniqueConstraints.count u = t.uniqueConstraints.count u +
      if u ∉ t.uniqueConstraints ∧ ∃ name ∈ t.uniqueNames, u = ⟨[name]⟩ then 1 else 0 :=
  count_foldl_coverUnique t.uniqueNames t.uniqueConstraints u

/-- An index that is not declared comes as often as its constraint is listed. -/
theorem count_indexes_completed (t : Table) (u : UniqueConstraint) :
    t.completed.indexes.count ⟨u.fields⟩ = t.indexes.count ⟨u.fields⟩ +
      if ⟨u.fields⟩ ∈ t.indexes then 0 else t.completed.uniqueConstraints.count u := by
  let index (u : UniqueConstraint) : Index := ⟨u.fields⟩
  have apart : Function.Injective index := by
    intro first second same
    cases first
    cases second
    cases same
    rfl
  let missing := t.completed.uniqueConstraints.filter fun u => !t.indexes.contains (index u)
  have listed : t.completed.indexes = t.indexes ++ missing.map index := rfl
  have added : (missing.map index).count (index u) = missing.count u :=
    List.count_map_of_injective missing index apart u
  rw [listed, List.count_append, added]
  by_cases declared : index u ∈ t.indexes
  · have none : u ∉ missing := by simp [missing, declared]
    rw [if_pos declared, List.count_eq_zero.mpr none]
  · rw [if_neg declared, List.count_filter (by simpa using declared)]

section
variable {name : String} (unique : name ∈ t.uniqueNames)
  (uncovered : ⟨[name]⟩ ∉ t.uniqueConstraints)
include unique uncovered

/-- A unique field that no declared constraint covers gets one constraint. -/
theorem count_own_constraint : t.completed.uniqueConstraints.count ⟨[name]⟩ = 1 := by
  rw [count_uniqueConstraints_completed, List.count_eq_zero.mpr uncovered,
    if_pos ⟨uncovered, name, unique, rfl⟩]

/-- It gets one index, too, unless an index that it has is declared. -/
theorem count_own_index (once : t.indexes.count ⟨[name]⟩ ≤ 1) :
    t.completed.indexes.count ⟨[name]⟩ = 1 := by
  rw [count_indexes_completed t ⟨[name]⟩, count_own_constraint unique uncovered]
  by_cases declared : (⟨[name]⟩ : Index) ∈ t.indexes
  · have some := List.count_pos_iff.mpr declared
    simp [declared]
    omega
  · simp [declared, List.count_eq_zero.mpr declared]

end

/-- Folding lists no index twice where none was listed twice before. -/
theorem ListsOnce.nodup_indexes (once : t.ListsOnce) : t.completed.indexes.Nodup := by
  rw [List.nodup_iff_count_le_one]
  intro i
  rw [count_indexes_completed t ⟨i.fields⟩, count_uniqueConstraints_completed]
  by_cases declared : i ∈ t.indexes
  · simpa [declared] using List.nodup_iff_count_le_one.mp once.indexes i
  · by_cases listed : (⟨i.fields⟩ : UniqueConstraint) ∈ t.uniqueConstraints
    · simp [declared, listed, List.count_eq_zero.mpr declared, once.constraints _ listed declared]
    · simp [declared, listed, List.count_eq_zero.mpr declared, List.count_eq_zero.mpr listed]
      split <;> omega

/-- What classification keeps of a declared table. -/
structure Keeps (declared classified : Table) : Prop where
  name : classified.name = declared.name
  uniqueConstraints : classified.uniqueConstraints = declared.uniqueConstraints
  indexes : classified.indexes = declared.indexes
  uniqueNames : classified.uniqueNames = declared.uniqueNames

theorem keeps_of_classify {classified : Table} (done : t.classify models enums = .ok classified) :
    t.Keeps classified := by
  have names := uniqueNames_of_classify done
  obtain ⟨_, _, rfl⟩ := classify_ok_iff.mp done
  exact ⟨rfl, rfl, rfl, names⟩

theorem Keeps.listsOnce {declared classified : Table} (keeps : declared.Keeps classified)
    (once : declared.ListsOnce) : classified.ListsOnce := by
  constructor
  · rw [keeps.indexes]
    exact once.indexes
  · rw [keeps.uniqueConstraints, keeps.indexes]
    exact once.constraints

/-- A table in normal form has what its unique fields ask for exactly once, and what is declared
first and unchanged. -/
structure Folds (declared t : Table) : Prop where
  name : t.name = declared.name
  constraint : ∀ f ∈ declared.fields, f.isUnique = true → ⟨[f.name]⟩ ∉ declared.uniqueConstraints →
    t.uniqueConstraints.count ⟨[f.name]⟩ = 1
  index : ∀ f ∈ declared.fields, f.isUnique = true → ⟨[f.name]⟩ ∉ declared.uniqueConstraints →
    declared.indexes.count ⟨[f.name]⟩ ≤ 1 →
      t.indexes.count ⟨[f.name]⟩ = 1 ∧ t.indexIsUnique ⟨[f.name]⟩ = true
  indexed : ∀ u ∈ t.uniqueConstraints, ⟨u.fields⟩ ∈ t.indexes
  constraintsKept : declared.uniqueConstraints <+: t.uniqueConstraints
  indexesKept : declared.indexes <+: t.indexes
  /-- Nothing is added but what a unique field or a constraint asks for. -/
  constraintsAdded : ∀ u ∈ t.uniqueConstraints, u ∈ declared.uniqueConstraints ∨
    ∃ f ∈ declared.fields, f.isUnique = true ∧ u = ⟨[f.name]⟩
  indexesAdded : ∀ i ∈ t.indexes, i ∈ declared.indexes ∨
    ∃ u ∈ t.uniqueConstraints, i = ⟨u.fields⟩

/-- A constraint makes the index on its own fields unique. -/
theorem indexIsUnique_own {u : UniqueConstraint} (member : u ∈ t.uniqueConstraints) :
    t.indexIsUnique ⟨u.fields⟩ = true := by
  apply List.any_eq_true.mpr
  exact ⟨u, member, by simp⟩

theorem Keeps.folds {declared classified : Table} (keeps : declared.Keeps classified) :
    declared.Folds classified.completed := by
  have names (f : Field) (member : f ∈ declared.fields) (unique : f.isUnique = true) :
      f.name ∈ classified.uniqueNames := by
    rw [keeps.uniqueNames]
    apply List.mem_map_of_mem
    exact List.mem_filter.mpr ⟨member, unique⟩
  constructor
  case name => exact keeps.name
  case constraint =>
    intro f member unique uncovered
    rw [← keeps.uniqueConstraints] at uncovered
    exact count_own_constraint (names f member unique) uncovered
  case index =>
    intro f member unique uncovered once
    rw [← keeps.uniqueConstraints] at uncovered
    rw [← keeps.indexes] at once
    have own := names f member unique
    have covered : ⟨[f.name]⟩ ∈ classified.completed.uniqueConstraints :=
      mem_uniqueConstraints_completed.mpr (.inr ⟨f.name, own, rfl⟩)
    exact ⟨count_own_index own uncovered once, indexIsUnique_own covered⟩
  case indexed =>
    intro u member
    exact mem_indexes_completed.mpr (.inr ⟨u, member, rfl⟩)
  case constraintsKept =>
    rw [← keeps.uniqueConstraints]
    exact classified.uniqueConstraints_prefix
  case indexesKept =>
    rw [← keeps.indexes]
    exact classified.indexes_prefix
  case constraintsAdded =>
    intro u member
    rw [← keeps.uniqueConstraints]
    rcases mem_uniqueConstraints_completed.mp member with old | ⟨name, own, same⟩
    · exact .inl old
    · rw [keeps.uniqueNames] at own
      obtain ⟨f, among, rfl⟩ := List.mem_map.mp own
      obtain ⟨there, unique⟩ := List.mem_filter.mp among
      exact .inr ⟨f, there, unique, same⟩
  case indexesAdded =>
    intro i member
    rw [← keeps.indexes]
    exact mem_indexes_completed.mp member

end Table

/-- The tables of a schema are the declared ones in their order, classified and completed. -/
theorem completes_of_normalize {tables : List Table} {enums : List Enumeration}
    (normal : normalize tables enums = .ok m) : List.Forall₂ (fun declared t => ∃ classified,
      declared.Keeps classified ∧ t = classified.completed) tables m.tables := by
  obtain ⟨_, classified, done, _, rfl⟩ := normalize_ok_iff.mp normal
  apply List.forall₂_map_right_iff.mpr
  apply (forall₂_of_mapM_ok done).imp
  intro declared own found
  exact ⟨own, Table.keeps_of_classify found, rfl⟩

/-- Folding is exact in every table of an accepted schema. -/
theorem normalize_folds {tables : List Table} {enums : List Enumeration}
    (normal : normalize tables enums = .ok m) : List.Forall₂ Table.Folds tables m.tables := by
  apply (completes_of_normalize normal).imp
  intro declared t completes
  obtain ⟨classified, keeps, rfl⟩ := completes
  exact keeps.folds

/-- A code that is declared twice and has an index, and a shelf that has a constraint. -/
private def shelves : Table where
  name := "Item"
  fields := [
    { name := "code", type := "String", isUnique := true },
    { name := "shelf", type := "Int?", isUnique := true },
    { name := "code", type := "String", isUnique := true },
    { name := "place", type := "Int", isUnique := true }]
  uniqueConstraints := [⟨["shelf", "code"]⟩, ⟨["shelf"]⟩]
  indexes := [⟨["code"]⟩]

theorem shelves_fold : ∃ m, normalize [shelves] [] = .ok m ∧
    m.tables.map (·.uniqueConstraints) =
      [[⟨["shelf", "code"]⟩, ⟨["shelf"]⟩, ⟨["code"]⟩, ⟨["place"]⟩]] ∧
    m.tables.map (·.indexes) =
      [[⟨["code"]⟩, ⟨["shelf", "code"]⟩, ⟨["shelf"]⟩, ⟨["place"]⟩]] ∧
    List.Forall₂ Table.Folds [shelves] m.tables := by
  obtain ⟨m, normal, constraints, indexes⟩ : ∃ m, normalize [shelves] [] = .ok m ∧
      m.tables.map (·.uniqueConstraints) =
        [[⟨["shelf", "code"]⟩, ⟨["shelf"]⟩, ⟨["code"]⟩, ⟨["place"]⟩]] ∧
      m.tables.map (·.indexes) =
        [[⟨["code"]⟩, ⟨["shelf", "code"]⟩, ⟨["shelf"]⟩, ⟨["place"]⟩]] :=
    ⟨_, rfl, rfl, rfl⟩
  exact ⟨m, normal, constraints, indexes, normalize_folds normal⟩

end Conform.Schema
