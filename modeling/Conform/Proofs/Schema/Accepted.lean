import Conform.Proofs.Schema.SecondPass

/-! What every accepted schema satisfies, whatever the declarations held. The names are checked
before the unique fields and constraints get constraints and indexes of their own, so what is added
has to name columns for reasons of its own. -/
namespace Conform.Schema

/-- Some field of the name has a column. -/
def Table.HasColumn (t : Table) (name : String) : Prop := ∃ f ∈ t.columns, f.name = name

/-- A field as the rest of the library relies on it. -/
structure Field.IsNormal (m : Model) (f : Field) : Prop where
  notOptional : ¬ ['?'] <:+ f.type.toList
  notArray : ¬ ['[', ']'] <:+ f.type.toList
  relation_iff : f.isRelation = true ↔ f.type ∈ m.tableNames ∧ f.isEnum = false
  related_iff : f.relation.isSome = true ↔ f.isRelation = true
  related : ∀ r, f.relation = some r →
    r.field = f.name ∧ r.referencedTable = f.type ∧ r.fields.length = r.references.length
  unique : f.isUnique = true → f.isRelation = false

/-- A table as the rest of the library relies on it. -/
structure Table.IsNormal (m : Model) (t : Table) : Prop where
  fields : ∀ f ∈ t.fields, f.IsNormal m
  marked : ∀ f ∈ t.fields, f.isId = true → f.name ∈ t.idFields
  ids : ∀ name ∈ t.idFields, t.HasColumn name
  uniqueConstraints : ∀ u ∈ t.uniqueConstraints, ∀ name ∈ u.fields, t.HasColumn name
  indexes : ∀ i ∈ t.indexes, ∀ name ∈ i.fields, t.HasColumn name
  foreignKeys : ∀ r ∈ t.foreignKeys, ∀ name ∈ r.fields, t.HasColumn name
  references : ∀ r ∈ t.foreignKeys, ∃ target ∈ m.tables, target.name = r.referencedTable ∧
    ∀ name ∈ r.references, ∃ f ∈ target.fields, f.name = name

structure Model.IsNormal (m : Model) : Prop where
  distinct : m.tableNames.Nodup
  tables : ∀ t ∈ m.tables, t.IsNormal m

/-- No name is repeated when all differ from each other and from those seen. -/
theorem firstRepeated?_eq_none_iff {seen names : List String} :
    firstRepeated? seen names = none ↔ names.Nodup ∧ ∀ name ∈ names, name ∉ seen := by
  induction names generalizing seen with
  | nil => simp [firstRepeated?]
  | cons first rest ih =>
    by_cases known : first ∈ seen
    · simp [firstRepeated?, known]
    · have step : firstRepeated? seen (first :: rest) = firstRepeated? (first :: seen) rest :=
        if_neg (by simpa using known)
      rw [step, ih, List.nodup_cons, List.forall_mem_cons]
      constructor
      · rintro ⟨distinct, fresh⟩
        refine ⟨⟨fun member => fresh first member List.mem_cons_self, distinct⟩, known, ?_⟩
        exact fun name member there => fresh name member (List.mem_cons_of_mem _ there)
      · rintro ⟨⟨absent, distinct⟩, _, fresh⟩
        refine ⟨distinct, fun name member there => ?_⟩
        rcases List.mem_cons.mp there with rfl | old
        · exact absent member
        · exact fresh name member old

theorem splitMarkers_optional (rest : List Char) :
    (splitMarkers (rest ++ ['?'])).isOptional = true := by
  simp [splitMarkers, splitReversed]

theorem splitMarkers_array (rest : List Char) :
    (splitMarkers (rest ++ ['[', ']'])).isArray = true := by
  simp [splitMarkers, splitReversed]

namespace Table

variable {t : Table} {tables : List Table}

theorem exists_field_of_unknownName? {names : List String} {name : String}
    (known : t.unknownName? names = none) (member : name ∈ names) : ∃ f ∈ t.fields, f.name = name := by
  have found := List.find?_eq_none.mp known name member
  cases first : t.field? name with
  | none => simp [first] at found
  | some f => exact ⟨f, List.mem_of_find?_eq_some first, by simpa using List.find?_some first⟩

/-- A foreign key without a fault goes from columns of the table to fields of a declared one. -/
theorem foreignKeyFault?_eq_none_iff : t.foreignKeyFault? tables r = none ↔
    t.columnFault? .relation r.fields = none ∧
      ∃ target, tables.find? (·.name == r.referencedTable) = some target ∧
        target.unknownName? r.references = none := by
  rw [columnFault?_eq_none_iff, foreignKeyFault?]
  cases t.unknownName? r.fields <;> cases t.relationName? r.fields <;>
    cases tables.find? (·.name == r.referencedTable) <;> simp

/-- A unique field that is no relation has a column, though its name may mean another field. -/
theorem hasColumn_of_unique {name : String}
    (unrelated : (t.fields.find? fun f => f.isUnique && f.isRelation) = none)
    (member : name ∈ t.uniqueNames) : t.HasColumn name := by
  obtain ⟨f, among, rfl⟩ := List.mem_map.mp member
  obtain ⟨there, unique⟩ := List.mem_filter.mp among
  have plain := List.find?_eq_none.mp unrelated f there
  refine ⟨f, List.mem_filter.mpr ⟨there, ?_⟩, rfl⟩
  simpa [unique, Field.isColumn] using plain

/-- The constraints that are added name columns as those that were checked do. -/
theorem hasColumn_of_completed {u : UniqueConstraint} {name : String}
    (clean : t.faults tables = []) (member : u ∈ t.completed.uniqueConstraints)
    (named : name ∈ u.fields) : t.completed.HasColumn name := by
  obtain ⟨_, constraints, _, unrelated, _⟩ := faults_eq_nil_iff.mp clean
  rcases mem_uniqueConstraints_completed.mp member with declared | ⟨own, unique, rfl⟩
  · exact List.mem_map.mp (mem_columns_of_columnFault? (constraints u declared) named)
  · obtain rfl := List.mem_singleton.mp named
    exact hasColumn_of_unique unrelated unique

end Table

theorem Field.IsClassified.isNormal {f : Field} {m : Model}
    (c : f.IsClassified m.tableNames enums) (unique : f.isUnique = true → f.isRelation = false) :
    f.IsNormal m := by
  constructor
  case notOptional =>
    rintro ⟨rest, same⟩
    have marked := splitMarkers_optional rest
    rw [same, c.bare] at marked
    cases marked
  case notArray =>
    rintro ⟨rest, same⟩
    have marked := splitMarkers_array rest
    rw [same, c.bare] at marked
    cases marked
  case relation_iff =>
    rw [c.isRelation, Bool.and_eq_true, List.contains_iff_mem, Bool.not_eq_true', and_comm]
  case related_iff =>
    cases relation : f.isRelation with
    | false => simp [c.unrelated relation]
    | true =>
      obtain ⟨r, related, _⟩ := c.related relation
      simp [related]
  case related =>
    intro r present
    cases relation : f.isRelation with
    | false =>
      rw [c.unrelated relation] at present
      cases present
    | true =>
      obtain ⟨own, related, rest⟩ := c.related relation
      obtain rfl := Option.some.inj (related.symm.trans present)
      exact rest
  case unique => exact unique

/-- A classified table without a fault is normal once it has all its constraints and indexes. -/
theorem Table.IsClassified.isNormal {t : Table} {classified : List Table} {m : Model}
    (c : t.IsClassified m.tableNames enums) (clean : t.faults classified = [])
    (tables : m.tables = classified.map (·.completed)) : t.completed.IsNormal m := by
  obtain ⟨ids, _, indexes, unrelated, foreignKeys⟩ := Table.faults_eq_nil_iff.mp clean
  constructor
  case fields =>
    intro f member
    refine (c.fields f member).isNormal fun unique => ?_
    simpa [unique] using List.find?_eq_none.mp unrelated f member
  case marked => exact c.ids
  case ids => exact fun name keyed => List.mem_map.mp (mem_columns_of_columnFault? ids keyed)
  case uniqueConstraints =>
    exact fun u member name named => hasColumn_of_completed clean member named
  case indexes =>
    intro i member name named
    rcases mem_indexes_completed.mp member with declared | ⟨u, constraint, rfl⟩
    · exact List.mem_map.mp (mem_columns_of_columnFault? (indexes i declared) named)
    · exact hasColumn_of_completed clean constraint named
  case foreignKeys =>
    intro r member name named
    obtain ⟨sound, _⟩ := foreignKeyFault?_eq_none_iff.mp (foreignKeys r member)
    exact List.mem_map.mp (mem_columns_of_columnFault? sound named)
  case references =>
    intro r member
    obtain ⟨_, target, found, known⟩ := foreignKeyFault?_eq_none_iff.mp (foreignKeys r member)
    have own : target.name = r.referencedTable := by simpa using List.find?_some found
    refine ⟨target.completed, ?_, own, fun name named => ?_⟩
    · rw [tables]
      exact List.mem_map_of_mem (List.mem_of_find?_eq_some found)
    · exact exists_field_of_unknownName? known named

theorem Table.isNormal_of_normalize {tables : List Table} {enums : List Enumeration}
    (normal : normalize tables enums = .ok m) (member : t ∈ m.tables) : t.IsNormal m := by
  obtain ⟨_, classified, done, clean, rfl⟩ := normalize_ok_iff.mp normal
  obtain ⟨old, among, rfl⟩ := List.mem_map.mp member
  obtain ⟨raw, _, found⟩ := exists_of_mem_of_mapM_ok done among
  have names : ({ tables := classified.map (·.completed), enums } : Model).tableNames =
      tables.map (·.name) := by
    rw [Model.tableNames, List.map_map]
    exact map_of_mapM_ok done fun _ _ => Table.name_of_classify
  have c := Table.isClassified found
  rw [← names] at c
  exact c.isNormal (clean old among) rfl

/-- Normalization keeps the names of the tables in their order, and what it accepts is normal. -/
theorem normalize_isNormal {tables : List Table} {enums : List Enumeration}
    (normal : normalize tables enums = .ok m) :
    m.tableNames = tables.map (·.name) ∧ m.IsNormal := by
  obtain ⟨distinct, classified, done, clean, rfl⟩ := normalize_ok_iff.mp normal
  have names : ({ tables := classified.map (·.completed), enums } : Model).tableNames =
      tables.map (·.name) := by
    rw [Model.tableNames, List.map_map]
    exact map_of_mapM_ok done fun _ _ => Table.name_of_classify
  refine ⟨names, ⟨?_, fun t member => ?_⟩⟩
  · rw [names]
    exact (firstRepeated?_eq_none_iff.mp distinct).1
  · obtain ⟨old, among, rfl⟩ := List.mem_map.mp member
    obtain ⟨raw, _, found⟩ := exists_of_mem_of_mapM_ok done among
    have c := Table.isClassified found
    rw [← names] at c
    exact c.isNormal (clean old among) rfl

/-- Books with a relation and, after it, a unique column of the same name. -/
private def library : List Table :=
  [{ name := "Book"
     fields := [
      { name := "author", type := "Author",
        relation := some { fields := ["authorId"], references := ["id"] } },
      { name := "author", type := "String?", isUnique := true },
      { name := "authorId", type := "Int" },
      { name := "genres", type := "Genre?[]" }]
     uniqueConstraints := [{ fields := ["authorId", "genres"] }]
     idFields := ["authorId"] },
    { name := "Author"
      fields := [{ name := "id", type := "Int", isId := true, isRelation := true },
        { name := "books", type := "Book[]" }] }]

private def genres : Enumeration := { name := "Genre", values := ["Novel", "Poem"] }

theorem library_isNormal : ∃ m, normalize library [genres] = .ok m ∧
    m.tables.map (·.uniqueConstraints) = [[⟨["authorId", "genres"]⟩, ⟨["author"]⟩], []] ∧
    m.tableNames = library.map (·.name) ∧ m.IsNormal := by
  obtain ⟨m, normal, constraints⟩ : ∃ m, normalize library [genres] = .ok m ∧
      m.tables.map (·.uniqueConstraints) = [[⟨["authorId", "genres"]⟩, ⟨["author"]⟩], []] :=
    ⟨_, rfl, rfl⟩
  exact ⟨m, normal, constraints, normalize_isNormal normal⟩

end Conform.Schema
