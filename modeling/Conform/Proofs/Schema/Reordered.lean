import Conform.Proofs.AnyOrder
import Conform.Proofs.Schema.Accepted

/-! Declarations in another order. Classification asks only which names are declared, and the checks
find the tables that they ask for by name, so that every table has the same normal form wherever it
and the others stand. -/
namespace Conform.Schema

section
variable {models others enums otherEnums : List String}

/-- What a field is depends on which names are declared, not on their order. -/
theorem Field.classify_congr (sameModels : ∀ name, name ∈ others ↔ name ∈ models)
    (sameEnums : ∀ name, name ∈ otherEnums ↔ name ∈ enums) (table : String) (f : Field) :
    f.classify others otherEnums table = f.classify models enums table := by
  have containsModel (name : String) : others.contains name = models.contains name := by
    rw [Bool.eq_iff_iff, List.contains_iff_mem, List.contains_iff_mem, sameModels]
  have containsEnum (name : String) : otherEnums.contains name = enums.contains name := by
    rw [Bool.eq_iff_iff, List.contains_iff_mem, List.contains_iff_mem, sameEnums]
  simp only [classify, containsModel, containsEnum]

theorem Table.classify_congr (sameModels : ∀ name, name ∈ others ↔ name ∈ models)
    (sameEnums : ∀ name, name ∈ otherEnums ↔ name ∈ enums) (t : Table) :
    t.classify others otherEnums = t.classify models enums := by
  have fields (f : Field) : f.classify others otherEnums t.name = f.classify models enums t.name :=
    f.classify_congr sameModels sameEnums t.name
  simp only [classify, fields]

end

section
variable {tables other : List Table}

/-- The checks ask for a table by its name. -/
theorem Table.faults_congr
    (found : ∀ name, other.find? (·.name == name) = tables.find? (·.name == name)) (t : Table) :
    t.faults other = t.faults tables := by
  have keys (r : Relation) : t.foreignKeyFault? other r = t.foreignKeyFault? tables r := by
    rw [foreignKeyFault?, foreignKeyFault?, found]
  rw [faults, faults, funext keys]

variable {enums otherEnums : List Enumeration}

/-- What is accepted in one order is accepted in any other, with the same tables. -/
theorem normalize_perm (listed : other.Perm tables) (enumerated : otherEnums.Perm enums)
    (normal : normalize tables enums = .ok m) :
    ∃ m', normalize other otherEnums = .ok m' ∧ m'.tables.Perm m.tables := by
  obtain ⟨distinct, classified, done, clean, rfl⟩ := normalize_ok_iff.mp normal
  have names := listed.map (·.name)
  obtain ⟨unique, _⟩ := firstRepeated?_eq_none_iff.mp distinct
  have distinct' : firstRepeated? [] (other.map (·.name)) = none :=
    firstRepeated?_eq_none_iff.mpr ⟨names.nodup_iff.mpr unique, by simp⟩
  obtain ⟨classified', done', same⟩ := mapM_perm listed done
  have classify (t : Table) : t.classify (other.map (·.name)) (otherEnums.map (·.name)) =
      t.classify (tables.map (·.name)) (enums.map (·.name)) :=
    t.classify_congr (fun _ => names.mem_iff) fun _ => (enumerated.map _).mem_iff
  -- each table is looked up among the others, which all have kept their names
  have kept : classified.map (·.name) = tables.map (·.name) :=
    map_of_mapM_ok done fun _ _ => Table.name_of_classify
  have found := find?_perm Table.name (kept ▸ unique) same
  refine ⟨_, normalize_ok_iff.mpr ⟨distinct', classified', ?_, ?_, rfl⟩, same.map _⟩
  · simpa only [classify] using done'
  · intro t member
    rw [Table.faults_congr found]
    exact clean t (same.subset member)

/-- A schema whose declarations stand in another order is accepted if and only if it is accepted as
it stands, and every table has the same normal form in both. -/
theorem normalize_in_any_order (listed : other.Perm tables)
    (enumerated : otherEnums.Perm enums) :
    ((∃ m', normalize other otherEnums = .ok m') ↔ ∃ m, normalize tables enums = .ok m) ∧
      ∀ m m', normalize tables enums = .ok m → normalize other otherEnums = .ok m' →
        m'.tables.Perm m.tables ∧ m'.enums.Perm m.enums ∧
          ∀ name, m'.table? name = m.table? name := by
  refine ⟨⟨?_, ?_⟩, fun m m' normal normal' => ?_⟩
  · rintro ⟨m', normal'⟩
    obtain ⟨m, normal, _⟩ := normalize_perm listed.symm enumerated.symm normal'
    exact ⟨m, normal⟩
  · rintro ⟨m, normal⟩
    obtain ⟨m', normal', _⟩ := normalize_perm listed enumerated normal
    exact ⟨m', normal'⟩
  · obtain ⟨own, found, same⟩ := normalize_perm listed enumerated normal
    obtain rfl : own = m' := Except.ok.inj (found.symm.trans normal')
    obtain ⟨_, _, _, _, rfl⟩ := normalize_ok_iff.mp normal
    obtain ⟨_, _, _, _, rfl⟩ := normalize_ok_iff.mp normal'
    obtain ⟨_, isNormal⟩ := normalize_isNormal normal
    exact ⟨same, enumerated, find?_perm Table.name isNormal.distinct same⟩

end

/-- Authors and books that reference each other, a book that references another, and a model that
has the name of an enumeration. -/
private def booksAndAuthors : List Table :=
  [{ name := "Book"
     fields := [
      { name := "id", type := "Int", isId := true },
      { name := "author", type := "Author",
        relation := some { fields := ["authorId"], references := ["id"] } },
      { name := "authorId", type := "Int" },
      { name := "sequel", type := "Book?",
        relation := some { fields := ["sequelId"], references := ["id"] } },
      { name := "sequelId", type := "Int?", isUnique := true },
      { name := "genre", type := "Genre" }] },
    { name := "Genre", fields := [{ name := "id", type := "Int", isId := true }] },
    { name := "Author"
      fields := [
        { name := "id", type := "Int", isId := true },
        { name := "books", type := "Book[]" },
        { name := "bestId", type := "Int?" },
        { name := "best", type := "Book?",
          relation := some { fields := ["bestId"], references := ["id"] } }] }]

private def moodsAndGenres : List Enumeration :=
  [{ name := "Mood", values := ["Sad"] }, { name := "Genre", values := ["Novel", "Poem"] }]

theorem books_in_any_order :
    booksAndAuthors.reverse.Perm booksAndAuthors ∧ moodsAndGenres.reverse.Perm moodsAndGenres ∧
      ∃ m m', normalize booksAndAuthors moodsAndGenres = .ok m ∧
        normalize booksAndAuthors.reverse moodsAndGenres.reverse = .ok m' ∧
        m.tableNames = ["Book", "Genre", "Author"] ∧ m'.tableNames = ["Author", "Genre", "Book"] ∧
        ∀ name, m'.table? name = m.table? name := by
  have listed := List.reverse_perm booksAndAuthors
  have enumerated := List.reverse_perm moodsAndGenres
  obtain ⟨m, normal, names⟩ : ∃ m, normalize booksAndAuthors moodsAndGenres = .ok m ∧
      m.tableNames = ["Book", "Genre", "Author"] := ⟨_, rfl, rfl⟩
  obtain ⟨m', normal', names'⟩ :
      ∃ m', normalize booksAndAuthors.reverse moodsAndGenres.reverse = .ok m' ∧
        m'.tableNames = ["Author", "Genre", "Book"] := ⟨_, rfl, rfl⟩
  obtain ⟨_, same⟩ := normalize_in_any_order listed enumerated
  obtain ⟨_, _, found⟩ := same m m' normal normal'
  exact ⟨listed, enumerated, m, m', normal, normal', names, names', found⟩

end Conform.Schema
