import Conform.Dialect.Postgres
import Conform.Dialect.Sqlite
import Conform.Proofs.Plan.Cases
import Conform.Proofs.Schema.Accepted
import Conform.Proofs.Schema.Folded
import Mathlib.Data.List.Pairwise

/-! When the names of two indexes are the same. A name is made of the table and the fields with
underscores between them, so it shows their words and not where one of them ends. -/
namespace Conform

/-- What is joined is split into the pieces of its parts. -/
theorem splitOn_joined [BEq α] [LawfulBEq α] (a : α) {parts : List (List α)}
    (some : parts ≠ []) :
    ([a].intercalate parts).splitOn a = parts.flatMap (·.splitOn a) := by
  induction parts with
  | nil => exact absurd rfl some
  | cons first rest ih =>
    by_cases last : rest = []
    · simp [last]
    · have joined : [a].intercalate (first :: rest) = first ++ a :: [a].intercalate rest := by
        cases rest with
        | nil => exact absurd rfl last
        | cons => simp
      rw [joined, List.splitOn_append_cons_self, ih last, List.flatMap_cons]

/-- What comes from distinct elements is distinct when it is so for each of them and comes from one
of them only. -/
theorem nodup_flatMap_iff {xs : List α} (distinct : xs.Nodup) (f : α → List β) :
    (xs.flatMap f).Nodup ↔ (∀ x ∈ xs, (f x).Nodup) ∧
      ∀ x ∈ xs, ∀ y ∈ xs, ∀ b ∈ f x, b ∈ f y → x = y := by
  rw [List.nodup_flatMap]
  apply and_congr_right
  intro _
  constructor
  · intro apart x first y second b left right
    have symmetric : Std.Symm (Function.onFun List.Disjoint f) := ⟨fun _ _ => List.disjoint_symm⟩
    by_contra differs
    exact apart.forall first second differs left right
  · intro one
    apply distinct.pairwise_of_forall_ne
    intro x first y second differs b left right
    exact differs (one x first y second b left right)

namespace Schema

/-- The words of a name stand between its underscores. -/
def wordsOf (name : String) : List (List Char) := name.toList.splitOn '_'

theorem wordsOf_inj {first second : String} : wordsOf first = wordsOf second ↔ first = second := by
  constructor
  · intro same
    have joined := congrArg (['_'].intercalate ·) same
    simp only [wordsOf, List.intercalate_splitOn] at joined
    exact String.toList_inj.mp joined
  · exact congrArg wordsOf

/-- A name of one word. -/
structure IsWord (name : String) : Prop where
  some : name ≠ ""
  single : '_' ∉ name.toList

theorem IsWord.wordsOf_eq (word : IsWord name) : wordsOf name = [name.toList] :=
  List.splitOn_eq_singleton word.single

/-- The words of the fields of an index. No field counts as an empty word. -/
def fieldWords (fields : List String) : List (List Char) :=
  if fields = [] then [[]] else fields.flatMap wordsOf

theorem fieldWords_of_words {fields : List String} (words : ∀ name ∈ fields, IsWord name) :
    fieldWords fields = if fields = [] then [[]] else fields.map (·.toList) := by
  unfold fieldWords
  congr 1
  induction fields with
  | nil => rfl
  | cons first rest ih =>
    obtain ⟨word, others⟩ := List.forall_mem_cons.mp words
    rw [List.flatMap_cons, List.map_cons, word.wordsOf_eq, ih others]
    rfl

/-- Single words are told from no field at all. -/
theorem nil_mem_fieldWords_iff {fields : List String} (words : ∀ name ∈ fields, IsWord name) :
    [] ∈ fieldWords fields ↔ fields = [] := by
  rw [fieldWords_of_words words]
  by_cases none : fields = []
  · simp [none]
  · have filled : "" ∉ fields := fun member => (words "" member).some rfl
    simpa [none] using filled

/-- Single words show where a field ends. -/
theorem fieldWords_inj {first second : List String} (words : ∀ name ∈ first, IsWord name)
    (otherWords : ∀ name ∈ second, IsWord name) (same : fieldWords first = fieldWords second) :
    first = second := by
  have none_iff : first = [] ↔ second = [] := by
    rw [← nil_mem_fieldWords_iff words, ← nil_mem_fieldWords_iff otherWords, same]
  by_cases none : first = []
  · rw [none, none_iff.mp none]
  · rw [fieldWords_of_words words, fieldWords_of_words otherWords, if_neg none,
      if_neg fun other => none (none_iff.mpr other)] at same
    exact List.map_injective_iff.mpr (fun _ _ => String.toList_inj.mp) same

namespace Table

def indexWords (t : Table) (i : Index) : List (List Char) := wordsOf t.name ++ fieldWords i.fields

/-- The table and the fields of its indexes are named by single words. -/
structure IsPlain (t : Table) : Prop where
  name : IsWord t.name
  fields : ∀ i ∈ t.indexes, ∀ name ∈ i.fields, IsWord name

variable {t other : Table} {i j : Index}

theorem wordsOf_indexName (t : Table) (i : Index) :
    wordsOf (t.indexName i) = "idx".toList :: t.indexWords i := by
  have spelled : (t.indexName i).toList = "idx".toList ++ '_' :: (t.name.toList ++
      '_' :: ['_'].intercalate (i.fields.map (·.toList))) := by
    simp [indexName]
  have fields : (['_'].intercalate (i.fields.map (·.toList))).splitOn '_' =
      fieldWords i.fields := by
    by_cases none : i.fields = []
    · simp [none, fieldWords]
    · rw [splitOn_joined '_' (by simpa using none), fieldWords, if_neg none, List.flatMap_map]
      rfl
  have first : "idx".toList.splitOn '_' = ["idx".toList] := List.splitOn_eq_singleton (by decide)
  rw [wordsOf, spelled, List.splitOn_append_cons_self, List.splitOn_append_cons_self, first, fields]
  rfl

/-- Two indexes have the same name exactly when their words are the same. -/
theorem indexName_eq_iff :
    t.indexName i = other.indexName j ↔ t.indexWords i = other.indexWords j := by
  rw [← wordsOf_inj, wordsOf_indexName, wordsOf_indexName, List.cons_inj_right]

/-- Words that are all single are the table's and the fields'. -/
theorem eq_of_indexWords (plain : t.IsPlain) (otherPlain : other.IsPlain) (member : i ∈ t.indexes)
    (otherMember : j ∈ other.indexes) (same : t.indexWords i = other.indexWords j) :
    t.name = other.name ∧ i = j := by
  rw [indexWords, indexWords, plain.name.wordsOf_eq, otherPlain.name.wordsOf_eq] at same
  obtain ⟨name, fields⟩ := List.cons.inj same
  have together := fieldWords_inj (plain.fields i member) (otherPlain.fields j otherMember) fields
  cases i
  cases j
  exact ⟨String.toList_inj.mp name, congrArg Index.mk together⟩

end Table

end Schema

/-- The index that an operation creates. -/
def Operation.createdIndex? : Operation → Option Sql.Index
  | createIndex index => some index
  | _ => none

namespace Dialect

/-- The indexes that are created with a table. A table that has no plan is not created. -/
def createdWith (d : Dialect) (t : Schema.Table) : List Sql.Index :=
  match d.plan t none with
  | .ok (.create operations) => operations.filterMap (·.createdIndex?)
  | _ => []

/-- The indexes that are created with the tables of a schema. -/
def createdIndexes (d : Dialect) (m : Schema.Model) : List Sql.Index :=
  m.tables.flatMap d.createdWith

/-- The dialect has a plan for the table when it is absent. -/
def Creates (d : Dialect) (t : Schema.Table) : Prop := ∃ p, d.plan t none = .ok p

/-- When the names of the indexes of a schema differ from each other. -/
structure NamesIndexes (d : Dialect) (declared : List Schema.Table) (m : Schema.Model) : Prop where
  distinct_iff : ((d.createdIndexes m).map (·.name)).Nodup ↔
    (∀ t ∈ m.tables, d.Creates t → t.indexes.Nodup) ∧
      ∀ t ∈ m.tables, ∀ other ∈ m.tables, d.Creates t → d.Creates other →
        ∀ i ∈ t.indexes, ∀ j ∈ other.indexes, t.indexWords i = other.indexWords j →
          t = other ∧ i = j
  once : List.Forall₂ (fun declared t => declared.ListsOnce → t.indexes.Nodup) declared m.tables
  plain : (∀ t ∈ m.tables, d.Creates t → t.indexes.Nodup ∧ t.IsPlain) →
    ((d.createdIndexes m).map (·.name)).Nodup

variable {d : Dialect} {t : Schema.Table} {m : Schema.Model}

theorem Creates.names (creates : d.Creates t) :
    (d.createdWith t).map (·.name) = t.indexes.map t.indexName := by
  obtain ⟨p, plan⟩ := creates
  obtain ⟨columns, desired, _⟩ := planned plan
  have created : d.createdWith t = t.indexes.map t.indexDefinition := by
    rw [createdWith, plan_none desired]
    simp [Operation.createdIndex?, Schema.Table.createIndexes, List.filterMap_map]
  rw [created, List.map_map]
  rfl

theorem mem_names_createdWith {name : String} : name ∈ (d.createdWith t).map (·.name) ↔
    d.Creates t ∧ ∃ i ∈ t.indexes, t.indexName i = name := by
  cases plan : d.plan t none with
  | ok p =>
    have creates : d.Creates t := ⟨p, plan⟩
    rw [creates.names, List.mem_map]
    simp [creates]
  | error e => simp [createdWith, Creates, plan]

theorem names_createdWith_of_not (absent : ¬ d.Creates t) :
    (d.createdWith t).map (·.name) = [] := by
  apply List.eq_nil_iff_forall_not_mem.mpr
  intro name member
  exact absent (mem_names_createdWith.mp member).1

/-- The names of the indexes of a schema are distinct when each table lists its indexes once and the
words of an index are those of no other. -/
theorem nodup_names_iff (distinct : m.tableNames.Nodup) :
    ((d.createdIndexes m).map (·.name)).Nodup ↔
      (∀ t ∈ m.tables, d.Creates t → t.indexes.Nodup) ∧
        ∀ t ∈ m.tables, ∀ other ∈ m.tables, d.Creates t → d.Creates other →
          ∀ i ∈ t.indexes, ∀ j ∈ other.indexes, t.indexWords i = other.indexWords j →
            t = other ∧ i = j := by
  have listed : (d.createdIndexes m).map (·.name) =
      m.tables.flatMap fun t => (d.createdWith t).map (·.name) := List.map_flatMap ..
  rw [listed, nodup_flatMap_iff distinct.of_map]
  constructor
  · intro ⟨each, apart⟩
    constructor
    · intro t member creates
      have own := each t member
      rw [creates.names] at own
      exact own.of_map
    · intro t member other otherMember creates otherCreates i among j otherAmong same
      -- a name that both tables give comes from one table, and there from one index
      have named := Schema.Table.indexName_eq_iff.mpr same
      have left := mem_names_createdWith.mpr ⟨creates, i, among, rfl⟩
      have right := mem_names_createdWith.mpr ⟨otherCreates, j, otherAmong, named.symm⟩
      obtain rfl := apart t member other otherMember _ left right
      have own := each t member
      rw [creates.names] at own
      exact ⟨rfl, List.inj_on_of_nodup_map own among otherAmong named⟩
  · intro ⟨once, words⟩
    constructor
    · intro t member
      by_cases creates : d.Creates t
      · rw [creates.names, List.nodup_map_iff_inj_on (once t member creates)]
        intro i among j otherAmong named
        have same := Schema.Table.indexName_eq_iff.mp named
        exact (words t member t member creates creates i among j otherAmong same).2
      · rw [names_createdWith_of_not creates]
        exact List.nodup_nil
    · intro t member other otherMember name left right
      obtain ⟨creates, i, among, rfl⟩ := mem_names_createdWith.mp left
      obtain ⟨otherCreates, j, otherAmong, named⟩ := mem_names_createdWith.mp right
      have same := Schema.Table.indexName_eq_iff.mp named.symm
      exact (words t member other otherMember creates otherCreates i among j otherAmong same).1

end Dialect

/-- The names of the indexes that are created with an accepted schema are distinct as long as their
words are, and as far as the tables list their indexes once. -/
theorem index_names_distinct_iff {tables : List Schema.Table} {enums : List Schema.Enumeration}
    {m : Schema.Model} (accepted : Schema.normalize tables enums = .ok m) (d : Dialect) :
    d.NamesIndexes tables m := by
  have distinct := (Schema.normalize_isNormal accepted).2.distinct
  constructor
  case distinct_iff => exact Dialect.nodup_names_iff distinct
  case once =>
    apply (Schema.completes_of_normalize accepted).imp
    intro declared t completes once
    obtain ⟨classified, keeps, rfl⟩ := completes
    exact (keeps.listsOnce once).nodup_indexes
  case plain =>
    intro plain
    apply (Dialect.nodup_names_iff distinct).mpr
    constructor
    · intro t member creates
      exact (plain t member creates).1
    · intro t member other otherMember creates otherCreates i among j otherAmong same
      have own := (plain t member creates).2
      have its := (plain other otherMember otherCreates).2
      obtain ⟨named, together⟩ := Schema.Table.eq_of_indexWords own its among otherAmong same
      exact ⟨List.inj_on_of_nodup_map distinct member otherMember named, together⟩

/-- Two tables whose indexes have the same words, cut into names at different places. -/
private def crossed : List Schema.Table :=
  [{ name := "A"
     fields := [{ name := "b", type := "Int" }, { name := "c", type := "Int" }]
     indexes := [⟨["b", "c"]⟩] },
    { name := "A_b"
      fields := [{ name := "c", type := "Int" }]
      indexes := [⟨["c"]⟩] }]

theorem crossed_index_names : Schema.normalize crossed [] = .ok { tables := crossed } ∧
    ∀ d ∈ [Dialect.sqlite, Dialect.postgres],
      ¬ ((d.createdIndexes { tables := crossed }).map (·.name)).Nodup := by
  refine ⟨rfl, ?_⟩
  have sqlite : (Dialect.sqlite.createdIndexes { tables := crossed }).map (·.name) =
      ["idx_A_b_c", "idx_A_b_c"] := by decide +kernel
  have postgres : (Dialect.postgres.createdIndexes { tables := crossed }).map (·.name) =
      ["idx_A_b_c", "idx_A_b_c"] := by decide +kernel
  simp [sqlite, postgres]

theorem crossed_names_indexes : Schema.normalize crossed [] = .ok { tables := crossed } ∧
    Dialect.sqlite.NamesIndexes crossed { tables := crossed } := by
  have accepted : Schema.normalize crossed [] = .ok { tables := crossed } := rfl
  exact ⟨accepted, index_names_distinct_iff accepted Dialect.sqlite⟩

end Conform
