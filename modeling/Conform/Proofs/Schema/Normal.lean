import Conform.Proofs.Traversal
import Conform.Schema.Normal

/-! The normal form of a schema. What normalization makes of fields and tables is said as a property
of the results, and whatever has the property is classified as itself. -/
namespace Conform.Schema

theorem splitReversed_base (type : List Char) :
    splitReversed (splitReversed type).base = { base := (splitReversed type).base } := by
  fun_induction splitReversed type with
  | case1 rest _ ih => exact ih
  | case2 rest _ ih => exact ih
  | case3 base noOption noArray => rw [splitReversed.eq_3 base noOption noArray]

/-- A type whose markers are split off has no more of them. -/
theorem splitMarkers_base (type : List Char) :
    splitMarkers (splitMarkers type).base = { base := (splitMarkers type).base } := by
  simp only [splitMarkers, List.reverse_reverse, splitReversed_base]

/-- A field that is told apart: its type is bare, and it has a relation exactly if its type names a
model. -/
structure Field.IsClassified (models enums : List String) (f : Field) : Prop where
  bare : splitMarkers f.type.toList = { base := f.type.toList }
  isEnum : enums.contains f.type = true → f.isEnum = true
  isRelation : f.isRelation = (!f.isEnum && models.contains f.type)
  related : f.isRelation = true → ∃ r, f.relation = some r ∧ r.field = f.name ∧
    r.referencedTable = f.type ∧ r.fields.length = r.references.length
  unrelated : f.isRelation = false → f.relation = none

theorem Field.isClassified {f g : Field} (classified : f.classify models enums table = .ok g) :
    g.IsClassified models enums := by
  have bare := splitMarkers_base f.type.toList
  unfold classify at classified
  dsimp only at classified
  split at classified
  case isTrue relation =>
    split at classified
    case isTrue paired =>
      cases classified
      exact {
        bare := by simpa using bare
        isEnum := by simpa using .inr
        isRelation := rfl
        related := fun _ => ⟨_, rfl, rfl, rfl, paired⟩
        unrelated := fun none => absurd (relation.symm.trans none) Bool.noConfusion }
    case isFalse => cases classified
  case isFalse plain =>
    split at classified
    case isTrue => cases classified
    case isFalse =>
      cases classified
      exact {
        bare := by simpa using bare
        isEnum := by simpa using .inr
        isRelation := rfl
        related := fun relation => absurd relation plain
        unrelated := fun _ => rfl }

theorem Field.IsClassified.classify_eq {f : Field} (c : f.IsClassified models enums)
    (table : String) : f.classify models enums table = .ok f := by
  have isEnum : (f.isEnum || enums.contains f.type) = f.isEnum := by
    cases named : enums.contains f.type with
    | false => exact Bool.or_false _
    | true => rw [c.isEnum named]; rfl
  unfold classify
  simp only [c.bare, Bool.or_false, String.ofList_toList, isEnum, ← c.isRelation]
  cases relation : f.isRelation with
  | false =>
    have unrelated := c.unrelated relation
    rw [if_neg Bool.noConfusion, if_neg (by simp [unrelated]), ← unrelated, ← relation]
  | true =>
    obtain ⟨r, related, named, targeted, paired⟩ := c.related relation
    have own : { r with field := f.name, referencedTable := f.type } = r := by
      rw [← named, ← targeted]
    simp only [related, Option.getD_some, paired, if_true]
    rw [own, ← related, ← relation]

/-- A table is classified when its fields are, and its key holds all fields marked as id. -/
structure Table.IsClassified (models enums : List String) (t : Table) : Prop where
  fields : ∀ f ∈ t.fields, f.IsClassified models enums
  ids : ∀ f ∈ t.fields, f.isId = true → f.name ∈ t.idFields

theorem mem_addOnce {names : List String} :
    name ∈ addOnce names added ↔ name ∈ names ∨ name = added := by
  unfold addOnce
  split
  case isTrue there =>
    have there : added ∈ names := List.contains_iff_mem.mp there
    exact ⟨.inl, fun among => among.elim id fun same => same ▸ there⟩
  case isFalse => simp

theorem mem_coverUnique {constraints : List UniqueConstraint} :
    u ∈ coverUnique constraints name ↔ u ∈ constraints ∨ u = ⟨[name]⟩ := by
  unfold coverUnique
  split
  case isTrue there =>
    have there : ⟨[name]⟩ ∈ constraints := List.contains_iff_mem.mp there
    exact ⟨.inl, fun among => among.elim id fun same => same ▸ there⟩
  case isFalse => simp

/-- What is added step by step is there in the end, and nothing else is added. -/
theorem mem_foldl_iff {step : List β → α → List β} (Adds : α → β → Prop)
    (once : ∀ there a b, b ∈ step there a ↔ b ∈ there ∨ Adds a b) {list : List α}
    {there : List β} : b ∈ list.foldl step there ↔ b ∈ there ∨ ∃ a ∈ list, Adds a b := by
  induction list generalizing there with
  | nil => simp
  | cons a rest ih => simp [ih, once, or_assoc]

theorem foldl_eq_self {step : β → α → β} {b : β} {list : List α}
    (fixed : ∀ a ∈ list, step b a = b) : list.foldl step b = b := by
  induction list with
  | nil => rfl
  | cons a rest ih =>
    rw [List.foldl_cons, fixed a List.mem_cons_self]
    exact ih fun other member => fixed other (List.mem_cons_of_mem _ member)

theorem Table.classify_ok_iff {t classified : Table} : t.classify models enums = .ok classified ↔
    ∃ fields, t.fields.mapM (·.classify models enums t.name) = .ok fields ∧
      classified = { t with
        fields
        idFields := ((fields.filter (·.isId)).map (·.name)).foldl addOnce t.idFields } := by
  unfold classify
  cases t.fields.mapM (·.classify models enums t.name) with
  | error => simp [bind, Except.bind]
  | ok fields =>
    simp only [bind, Except.bind, pure, Except.pure, Except.ok.injEq, exists_eq_left', eq_comm]

theorem Table.isClassified {t classified : Table}
    (done : t.classify models enums = .ok classified) : classified.IsClassified models enums := by
  obtain ⟨fields, traversed, rfl⟩ := classify_ok_iff.mp done
  constructor
  · intro f member
    obtain ⟨old, _, found⟩ := exists_of_mem_of_mapM_ok traversed member
    exact Field.isClassified found
  · intro f member marked
    refine (mem_foldl_iff (fun a b => b = a) fun _ _ _ => mem_addOnce).mpr (.inr ⟨f.name, ?_, rfl⟩)
    exact List.mem_map_of_mem (List.mem_filter.mpr ⟨member, marked⟩)

theorem Table.IsClassified.classify_eq {t : Table} (c : t.IsClassified models enums) :
    t.classify models enums = .ok t := by
  have fields : t.fields.mapM (·.classify models enums t.name) = .ok t.fields :=
    mapM_ok_iff.mpr (List.map_congr_left fun f member => (c.fields f member).classify_eq t.name)
  refine classify_ok_iff.mpr ⟨t.fields, fields, ?_⟩
  rw [foldl_eq_self]
  intro name member
  obtain ⟨f, among, rfl⟩ := List.mem_map.mp member
  obtain ⟨there, marked⟩ := List.mem_filter.mp among
  exact if_pos (List.contains_iff_mem.mpr (c.ids f there marked))

theorem Table.name_of_classify {t classified : Table}
    (done : t.classify models enums = .ok classified) : classified.name = t.name := by
  obtain ⟨_, _, rfl⟩ := classify_ok_iff.mp done
  rfl

/-- The table with every constraint and index that its unique fields and constraints ask for. -/
def Table.completed (t : Table) : Table := t.foldUniqueFields.foldUniqueConstraints

theorem Table.IsClassified.completed {t : Table} (c : t.IsClassified models enums) :
    t.completed.IsClassified models enums := ⟨c.fields, c.ids⟩

/-- Tables of different names that can all be classified are normal, or their first fault is
found. -/
theorem normalize_of_classified {tables classified : List Table} {enums : List Enumeration}
    (distinct : firstRepeated? [] (tables.map (·.name)) = none)
    (done : tables.mapM (·.classify (tables.map (·.name)) (enums.map (·.name))) = .ok classified) :
    normalize tables enums = (classified.flatMap (·.faults classified)).head?.elim
      (.ok { tables := classified.map (·.completed), enums }) .error := by
  unfold normalize
  simp only [distinct, done, bind, Except.bind, pure, Except.pure]
  cases (classified.flatMap (·.faults classified)).head? <;> rfl

theorem normalize_ok_iff {tables : List Table} {enums : List Enumeration} :
    normalize tables enums = .ok m ↔
      firstRepeated? [] (tables.map (·.name)) = none ∧ ∃ classified,
        tables.mapM (·.classify (tables.map (·.name)) (enums.map (·.name))) = .ok classified ∧
          (∀ t ∈ classified, t.faults classified = []) ∧
            m = { tables := classified.map (·.completed), enums } := by
  constructor
  · intro normal
    cases distinct : firstRepeated? [] (tables.map (·.name)) with
    | some =>
      simp [normalize, distinct, bind, Except.bind, throw, throwThe, MonadExceptOf.throw] at normal
    | none =>
      cases done : tables.mapM (·.classify (tables.map (·.name)) (enums.map (·.name))) with
      | error => simp [normalize, distinct, done, bind, Except.bind] at normal
      | ok classified =>
        rw [normalize_of_classified distinct done] at normal
        cases clean : (classified.flatMap (·.faults classified)).head? with
        | some => simp [clean] at normal
        | none =>
          rw [clean] at normal
          cases normal
          exact ⟨rfl, classified, rfl,
            List.flatMap_eq_nil_iff.mp (List.head?_eq_none_iff.mp clean), rfl⟩
  · rintro ⟨distinct, classified, done, clean, rfl⟩
    rw [normalize_of_classified distinct done, List.flatMap_eq_nil_iff.mpr clean]
    rfl

/-- A list of names has no fault when all of them are names of columns. -/
theorem Table.columnFault?_eq_none_iff {t : Table} : t.columnFault? mention names = none ↔
    t.unknownName? names = none ∧ t.relationName? names = none := by
  unfold columnFault?
  cases t.unknownName? names with
  | some => simp
  | none => cases t.relationName? names <;> simp

theorem Table.faults_eq_nil_iff {t : Table} : t.faults tables = [] ↔
    t.columnFault? .id t.idFields = none ∧
      (∀ u ∈ t.uniqueConstraints, t.columnFault? .uniqueConstraint u.fields = none) ∧
      (∀ i ∈ t.indexes, t.columnFault? .index i.fields = none) ∧
      (t.fields.find? fun f => f.isUnique && f.isRelation) = none ∧
      ∀ r ∈ t.foreignKeys, t.foreignKeyFault? tables r = none := by
  simp only [faults, List.append_eq_nil_iff, Option.toList_eq_nil_iff, List.filterMap_eq_nil_iff,
    Option.map_eq_none_iff, and_assoc]

/-- Names without a fault are names of columns. -/
theorem Table.mem_columns_of_columnFault? {t : Table} {name : String}
    (sound : t.columnFault? mention names = none) (member : name ∈ names) :
    name ∈ t.columns.map (·.name) := by
  obtain ⟨known, unrelated⟩ := columnFault?_eq_none_iff.mp sound
  have known := List.find?_eq_none.mp known name member
  have unrelated := List.find?_eq_none.mp unrelated name member
  cases found : t.field? name with
  | none => simp [found] at known
  | some f =>
    have named : f.name = name := by simpa using List.find?_some found
    refine List.mem_map.mpr ⟨f, List.mem_filter.mpr ⟨List.mem_of_find?_eq_some found, ?_⟩, named⟩
    simpa [found] using unrelated

/-- A foreign key has as many columns as it references, and at least one. -/
theorem Table.IsClassified.paired {t : Table} (c : t.IsClassified models enums)
    (member : r ∈ t.foreignKeys) : r.fields.length = r.references.length ∧ r.fields ≠ [] := by
  obtain ⟨f, among, brought⟩ := List.mem_filterMap.mp member
  unfold Field.foreignKey? at brought
  split at brought
  case isFalse => cases brought
  case isTrue relation =>
    obtain ⟨own, related, _, _, paired⟩ := (c.fields f among).related relation
    obtain ⟨present, owns⟩ := Option.filter_eq_some_iff.mp brought
    obtain rfl : own = r := Option.some.inj (related.symm.trans present)
    exact ⟨paired, by simpa [Relation.ownsForeignKey] using owns⟩

/-- The tables of a normal schema are classified, and their keys name columns. -/
theorem table_of_normalize {tables : List Table} {enums : List Enumeration}
    (normal : normalize tables enums = .ok m) (member : t ∈ m.tables) :
    (∃ models names, t.IsClassified models names) ∧
      ∀ name ∈ t.idFields, name ∈ t.columns.map (·.name) := by
  obtain ⟨_, classified, done, clean, rfl⟩ := normalize_ok_iff.mp normal
  obtain ⟨u, among, rfl⟩ := List.mem_map.mp member
  obtain ⟨_, _, found⟩ := exists_of_mem_of_mapM_ok done among
  have sound := (Table.faults_eq_nil_iff.mp (clean u among)).1
  refine ⟨⟨_, _, (Table.isClassified found).completed⟩, fun name keyed => ?_⟩
  exact Table.mem_columns_of_columnFault? sound keyed

end Conform.Schema
