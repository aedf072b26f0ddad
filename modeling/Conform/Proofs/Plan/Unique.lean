import Conform.Proofs.Plan.Cases
import Conform.Proofs.Schema.Folded
import Conform.Proofs.Schema.Source
import Conform.Proofs.Sql.Store
import Conform.Schema.Document

/-! What the unique indexes of a table enforce. An index is unique for the sake of a constraint all
of whose fields it covers, and in an accepted schema every constraint has an index of its own. -/
namespace Conform

section
variable {α : Type}

/-- Two rows at different places agree on all the columns, with no NULL. -/
def Sql.Content.Repeats (c : Sql.Content α) (columns : List String) : Prop :=
  ∃ (i j : Nat) (first second : List (Option α)), i ≠ j ∧ c.rows[i]? = some first ∧
    c.rows[j]? = some second ∧ ∀ column ∈ columns, ∃ value,
      c.cell first column = some value ∧ c.cell second column = some value

theorem Sql.Content.Repeats.mono {c : Sql.Content α} {columns fewer : List String}
    (repeats : c.Repeats columns) (covered : ∀ name ∈ fewer, name ∈ columns) :
    c.Repeats fewer := by
  obtain ⟨i, j, first, second, apart, one, other, agree⟩ := repeats
  exact ⟨i, j, first, second, apart, one, other,
    fun name member => agree name (covered name member)⟩

end

namespace Schema

namespace Table

/-- The declaration of the table forbids the rows. -/
def Forbids {α : Type} (t : Table) (c : Sql.Content α) : Prop :=
  (∃ u ∈ t.uniqueConstraints, c.Repeats u.fields) ∨
    ∃ f ∈ t.fields, f.isUnique = true ∧ c.Repeats [f.name]

/-- One of the indexes that are created with the table refuses the rows. -/
def Refuses {α : Type} (t : Table) (c : Sql.Content α) : Prop :=
  ∃ index : Sql.Index, .createIndex index ∈ t.createIndexes ∧ index.unique = true ∧
    c.Repeats index.columns

/-- The index is created with the table, or later on when the table is there. -/
inductive Makes (t : Table) (index : Sql.Index) : Prop where
  | created (among : .createIndex index ∈ t.createIndexes)
  | changed (declared : i ∈ t.indexes)
      (among : .inPlace (.createIndex index) ∈ indexChanges t live i)

/-- A constraint that has fields is a reason for an index over all of them to be unique. -/
def Justifies (t : Table) (columns : List String) : Prop :=
  ∃ u ∈ t.uniqueConstraints, u.fields ≠ [] ∧ ∀ name ∈ u.fields, name ∈ columns

/-- Unique fields and constraints have what is added for them. -/
structure IsComplete (t : Table) : Prop where
  constraints : ∀ name ∈ t.uniqueNames, ⟨[name]⟩ ∈ t.uniqueConstraints
  indexes : ∀ u ∈ t.uniqueConstraints, ⟨u.fields⟩ ∈ t.indexes

variable {t : Table}

theorem isComplete_completed (t : Table) : t.completed.IsComplete where
  constraints := fun name unique => mem_uniqueConstraints_completed.mpr (.inr ⟨name, unique, rfl⟩)
  indexes := fun u member => mem_indexes_completed.mpr (.inr ⟨u, member, rfl⟩)

theorem indexIsUnique_iff : t.indexIsUnique i = true ↔
    ∃ u ∈ t.uniqueConstraints, ∀ name ∈ u.fields, name ∈ i.fields := by
  simp [indexIsUnique]

theorem mem_createIndexes : .createIndex index ∈ t.createIndexes ↔
    ∃ i ∈ t.indexes, t.indexDefinition i = index := by
  simp [createIndexes]

/-- An index is made for each declared one and for no other. -/
theorem makes_iff : t.Makes index ↔ ∃ i ∈ t.indexes, t.indexDefinition i = index := by
  constructor
  · rintro (among | ⟨declared, among⟩)
    · exact mem_createIndexes.mp among
    · rcases Dialect.mem_indexChanges among with same | same <;> cases same
      exact ⟨_, declared, rfl⟩
  · exact fun made => .created (mem_createIndexes.mpr made)

section
variable {α : Type} {c : Sql.Content α}

theorem forbids_iff : t.Forbids c ↔ (∃ u ∈ t.uniqueConstraints, c.Repeats u.fields) ∨
    ∃ name ∈ t.uniqueNames, c.Repeats [name] := by
  simp [Forbids, uniqueNames, and_assoc]

/-- Rows are refused exactly when they are forbidden. -/
theorem IsComplete.refuses_iff (complete : t.IsComplete) : t.Refuses c ↔ t.Forbids c := by
  have enforced {u : UniqueConstraint} (member : u ∈ t.uniqueConstraints)
      (repeats : c.Repeats u.fields) : t.Refuses c := by
    refine ⟨t.indexDefinition ⟨u.fields⟩,
      mem_createIndexes.mpr ⟨_, complete.indexes u member, rfl⟩, ?_, repeats⟩
    exact indexIsUnique_iff.mpr ⟨u, member, fun _ named => named⟩
  constructor
  · rintro ⟨index, created, unique, repeats⟩
    obtain ⟨i, _, rfl⟩ := mem_createIndexes.mp created
    obtain ⟨u, member, covered⟩ := indexIsUnique_iff.mp unique
    exact .inl ⟨u, member, repeats.mono covered⟩
  · intro forbidden
    rcases forbids_iff.mp forbidden with ⟨u, member, repeats⟩ | ⟨name, unique, repeats⟩
    · exact enforced member repeats
    · exact enforced (complete.constraints name unique) repeats

/-- What is added for the unique fields forbids nothing more. -/
theorem forbids_completed : t.completed.Forbids c ↔ t.Forbids c := by
  rw [forbids_iff, forbids_iff]
  have names : t.completed.uniqueNames = t.uniqueNames := rfl
  constructor
  · rintro (⟨u, member, repeats⟩ | unique)
    · rcases mem_uniqueConstraints_completed.mp member with declared | ⟨name, unique, rfl⟩
      · exact .inl ⟨u, declared, repeats⟩
      · exact .inr ⟨name, unique, repeats⟩
    · exact .inr unique
  · rintro (⟨u, declared, repeats⟩ | unique)
    · exact .inl ⟨u, mem_uniqueConstraints_completed.mpr (.inl declared), repeats⟩
    · exact .inr unique

theorem forbids_congr {other : Table} (constraints : t.uniqueConstraints = other.uniqueConstraints)
    (names : t.uniqueNames = other.uniqueNames) : t.Forbids c ↔ other.Forbids c := by
  rw [forbids_iff, forbids_iff, constraints, names]

end

/-- An index is unique for a constraint that has fields, or for one that has none. -/
theorem indexIsUnique_iff_justifies : t.indexIsUnique i = true ↔
    t.Justifies i.fields ∨ ⟨[]⟩ ∈ t.uniqueConstraints := by
  rw [indexIsUnique_iff]
  constructor
  · rintro ⟨⟨fields⟩, member, covered⟩
    cases fields with
    | nil => exact .inr member
    | cons name rest => exact .inl ⟨_, member, List.cons_ne_nil name rest, covered⟩
  · rintro (⟨u, member, _, covered⟩ | member)
    · exact ⟨u, member, covered⟩
    · exact ⟨_, member, fun _ named => nomatch named⟩

/-- No constraint that has fields is a reason for an index without columns. -/
theorem not_justifies_nil (t : Table) : ¬ t.Justifies [] := by
  rintro ⟨u, _, some, covered⟩
  exact some (List.eq_nil_iff_forall_not_mem.mpr fun name named =>
    List.not_mem_nil (covered name named))

end Table

/-- A table of an accepted schema is a declared one with all that is added for its unique fields and
constraints. -/
theorem exists_declared {tables : List Table} {enums : List Enumeration}
    (normal : normalize tables enums = .ok m) (member : t ∈ m.tables) :
    ∃ declared ∈ tables, ∃ classified : Table, t = classified.completed ∧
      classified.name = declared.name ∧
      classified.uniqueConstraints = declared.uniqueConstraints ∧
      classified.uniqueNames = declared.uniqueNames := by
  obtain ⟨_, classified, done, _, rfl⟩ := normalize_ok_iff.mp normal
  obtain ⟨own, among, rfl⟩ := List.mem_map.mp member
  obtain ⟨declared, listed, found⟩ := exists_of_mem_of_mapM_ok done among
  have keeps := Table.keeps_of_classify found
  exact ⟨declared, listed, own, rfl, keeps.name, keeps.uniqueConstraints, keeps.uniqueNames⟩

/-- The unique indexes of a table refuse exactly the rows that its declaration forbids. -/
theorem unique_indexes_enforce {α : Type} {tables : List Table} {enums : List Enumeration}
    (normal : normalize tables enums = .ok m) (member : t ∈ m.tables) (c : Sql.Content α) :
    (t.Refuses c ↔ t.Forbids c) ∧
      ∃ declared ∈ tables, declared.name = t.name ∧ (t.Forbids c ↔ declared.Forbids c) := by
  obtain ⟨declared, listed, classified, rfl, named, constraints, names⟩ :=
    exists_declared normal member
  refine ⟨(Table.isComplete_completed classified).refuses_iff, declared, listed, named.symm, ?_⟩
  exact Table.forbids_completed.trans (Table.forbids_congr constraints names)

/-- Items with a unique code, and an index over the shelf and the code. -/
private def coded : Table where
  name := "Item"
  fields := [{ name := "code", type := "String", isUnique := true }, { name := "shelf", type := "Int" }]
  indexes := [⟨["shelf", "code"]⟩]

private def codedItem : Table :=
  { coded with
    uniqueConstraints := [⟨["code"]⟩]
    indexes := [⟨["shelf", "code"]⟩, ⟨["code"]⟩] }

/-- The first two codes are missing, the last two are the same. -/
private def items : Sql.Content Nat where
  columns := ["code", "shelf"]
  rows := [[none, some 1], [none, some 1], [some 7, some 1], [some 7, some 2]]
  width := by decide

theorem coded_items_refused :
    normalize [coded] [] = .ok { tables := [codedItem] } ∧ codedItem ∈ [codedItem] ∧
      (codedItem.Refuses items ↔ codedItem.Forbids items) ∧
      (∃ declared ∈ [coded], declared.name = codedItem.name ∧
        (codedItem.Forbids items ↔ declared.Forbids items)) ∧
      codedItem.Refuses items := by
  have normal : normalize [coded] [] = .ok { tables := [codedItem] } := by decide +kernel
  obtain ⟨enforced, declared⟩ :=
    unique_indexes_enforce normal (List.mem_singleton_self codedItem) items
  have forbidden : codedItem.Forbids items := by
    refine .inl ⟨_, List.mem_singleton_self _, 2, 3, _, _, by decide, rfl, rfl, ?_⟩
    intro column named
    obtain rfl := List.mem_singleton.mp named
    exact ⟨7, rfl, rfl⟩
  exact ⟨normal, List.mem_singleton_self _, enforced, declared, enforced.mpr forbidden⟩

/-- A schema as it is handed in. -/
inductive Input where
  | text (source : String)
  | documents (tables enums : String)

/-- What is declared, as written. -/
def Input.declarations : Input → Except Fault (List Table × List Enumeration)
  | text source => Source.read source
  | documents tables enums => readDocuments tables enums

def Input.model : Input → Except Fault Model
  | text source => Model.ofSource source
  | documents tables enums => Model.ofDocuments tables enums

/-- Where the unique indexes of a table come from, among what was declared. -/
structure Table.UniqueFrom (t : Table) (input : Input) (declared : Table) : Prop where
  /-- A constraint without fields makes every index unique. -/
  unique_iff : ∀ index, t.Makes index →
    (index.unique = true ↔ t.Justifies index.columns ∨ ⟨[]⟩ ∈ declared.uniqueConstraints)
  unjustified_iff : (∃ index, t.Makes index ∧ index.unique = true ∧ ¬ t.Justifies index.columns) ↔
    ⟨[]⟩ ∈ declared.uniqueConstraints
  /-- In a text such a constraint has brackets that name nothing. -/
  written : ∀ source, input = .text source → ⟨[]⟩ ∈ declared.uniqueConstraints →
    ∃ line ∈ Text.lines source.toList, Source.DeclaresUnique (Source.significant line) ⟨[]⟩

theorem Input.normalize_of_model {input : Input} (accepted : input.model = .ok m) :
    ∃ tables enums, input.declarations = .ok (tables, enums) ∧ normalize tables enums = .ok m := by
  have same : input.model = input.declarations >>= fun read => normalize read.1 read.2 := by
    cases input <;> rfl
  obtain ⟨declared, read, normal⟩ := ok_of_bind (same.symm.trans accepted)
  exact ⟨declared.1, declared.2, read, normal⟩

/-- An index is made unique without a reason exactly where a constraint is declared without
fields. -/
theorem unjustified_unique_iff {input : Input} (accepted : input.model = .ok m)
    (member : t ∈ m.tables) :
    ∃ tables enums, input.declarations = .ok (tables, enums) ∧
      ∃ declared ∈ tables, declared.name = t.name ∧ t.UniqueFrom input declared := by
  obtain ⟨tables, enums, read, normal⟩ := Input.normalize_of_model accepted
  obtain ⟨declared, listed, classified, rfl, named, constraints, _⟩ :=
    exists_declared normal member
  refine ⟨tables, enums, read, declared, listed, named.symm, ?_⟩
  have fieldless : ⟨[]⟩ ∈ classified.completed.uniqueConstraints ↔
      ⟨[]⟩ ∈ declared.uniqueConstraints := by
    rw [Table.mem_uniqueConstraints_completed, constraints]
    simp
  have unique (index : Sql.Index) (made : classified.completed.Makes index) :
      index.unique = true ↔ classified.completed.Justifies index.columns ∨
        ⟨[]⟩ ∈ declared.uniqueConstraints := by
    obtain ⟨i, _, rfl⟩ := Table.makes_iff.mp made
    rw [← fieldless]
    exact Table.indexIsUnique_iff_justifies
  constructor
  case unique_iff => exact unique
  case unjustified_iff =>
    constructor
    · rintro ⟨index, made, holds, unjustified⟩
      exact ((unique index made).mp holds).resolve_left unjustified
    · intro empty
      -- the constraint has an index without columns, for which there is no reason
      have own := (Table.isComplete_completed classified).indexes _ (fieldless.mpr empty)
      have made := Table.makes_iff.mpr ⟨_, own, rfl⟩
      exact ⟨_, made, (unique _ made).mpr (.inr empty), Table.not_justifies_nil _⟩
  case written =>
    rintro source rfl empty
    exact Source.declaresUnique_of_read read listed empty

/-- Items with a plain index, and a constraint that names nothing. -/
private def blankText : Input :=
  .text "model Item \x7b\n  shelf Int\n  @@index([shelf])\n  @@unique([ ])\n\x7d\n"

private def blankDocuments : Input :=
  .documents ("[\x7b\"name\": \"Item\", \"fields\": [\x7b\"name\": \"shelf\", " ++
    "\"type\": \"Int\"\x7d], \"indexes\": [\x7b\"fields\": [\"shelf\"]\x7d], " ++
    "\"uniqueConstraints\": [\x7b\"fields\": []\x7d]\x7d]") "[]"

private def blankItem : Table where
  name := "Item"
  fields := [{ name := "shelf", type := "Int" }]
  uniqueConstraints := [⟨[]⟩]
  indexes := [⟨["shelf"]⟩, ⟨[]⟩]

/-- Both ways of declaring it make the plain index unique. -/
theorem blank_constraint_unjustified :
    (∀ input ∈ [blankText, blankDocuments], input.model = .ok { tables := [blankItem] }) ∧
      blankItem.Makes ⟨"idx_Item_shelf", "Item", ["shelf"], true⟩ ∧
      ¬ blankItem.Justifies ["shelf"] := by
  have text : blankText.model = .ok { tables := [blankItem] } := by decide +kernel
  have documents : blankDocuments.model = .ok { tables := [blankItem] } := by decide +kernel
  refine ⟨List.forall_mem_cons.mpr ⟨text, List.forall_mem_singleton.mpr documents⟩,
    .created (by decide +kernel), ?_⟩
  rintro ⟨u, member, named, _⟩
  exact named (congrArg UniqueConstraint.fields (List.mem_singleton.mp member))

theorem blank_constraint_uniqueFrom :
    blankText.model = .ok { tables := [blankItem] } ∧ blankItem ∈ [blankItem] ∧
      ∃ tables enums, blankText.declarations = .ok (tables, enums) ∧
        ∃ declared ∈ tables, declared.name = blankItem.name ∧
          blankItem.UniqueFrom blankText declared := by
  have accepted : blankText.model = .ok { tables := [blankItem] } := by decide +kernel
  exact ⟨accepted, List.mem_singleton_self _,
    unjustified_unique_iff accepted (List.mem_singleton_self _)⟩

end Schema

end Conform
