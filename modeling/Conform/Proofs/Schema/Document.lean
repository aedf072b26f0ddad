import Conform.Proofs.Json.ReadBack
import Conform.Proofs.Traversal
import Conform.Schema.Document

/-! Declarations are read from their documents as they were written. Each record is an object with
its values under its keys, and its reader finds every value again. -/
namespace Conform

namespace Json

/-- A list is read back when its elements are. -/
theorem listOf?_map (read : Json → Option α) (write : α → Json)
    (back : ∀ a, read (write a) = some a) (list : List α) :
    (Json.array (list.map write)).listOf? read = some list := by
  have elements : (list.map write).mapM read = some list := by
    rw [mapM_some_iff, List.map_map]
    exact List.map_congr_left fun a _ => back a
  rw [listOf?, array?, Option.bind_eq_bind, Option.bind_some, elements]

theorem filter_zip_eq_nil {keys : List String} (absent : key ∉ keys) (values : List Json) :
    (keys.zip values).filter (·.1 == key) = [] := by
  rw [List.filter_eq_nil_iff]
  rintro ⟨other, value⟩ member same
  rw [← beq_iff_eq.mp same] at absent
  exact absent (List.of_mem_zip member).1

/-- The values under the keys are found, and nothing under the keys that are left. -/
theorem record?_zip (distinct : keys.Nodup) (fits : values.length ≤ keys.length) :
    (Json.object (keys.zip values)).record? keys =
      some (values.map some ++ List.replicate (keys.length - values.length) none) := by
  rw [record?, mapM_some_iff]
  induction keys generalizing values with
  | nil =>
    rw [List.length_eq_zero_iff.mp (Nat.le_zero.mp fits)]
    rfl
  | cons key keys ih =>
    obtain ⟨fresh, distinct⟩ := List.nodup_cons.mp distinct
    cases values with
    | nil => simp [List.map_const', List.replicate_succ]
    | cons value values =>
      have rest := ih distinct (Nat.le_of_succ_le_succ fits)
      rw [List.zip_cons_cons, List.map_cons, List.map_cons, List.cons_append, List.map_cons,
        List.length_cons, List.length_cons, Nat.add_sub_add_right, ← rest]
      congr 1
      · simp [filter_zip_eq_nil fresh]
      · refine List.map_congr_left fun other member => ?_
        rw [List.filter_cons_of_neg]
        simp only [beq_iff_eq]
        rintro rfl
        exact fresh member

theorem Plain.list {write : α → Json} {list : List α} (plain : ∀ a, Plain depth (write a)) :
    Plain (depth + 1) (.array (list.map write)) := by
  refine .array fun item member => ?_
  obtain ⟨a, _, rfl⟩ := List.mem_map.mp member
  exact plain a

theorem Plain.record {keys : List String} (plain : ∀ value ∈ values, Plain depth value) :
    Plain (depth + 1) (.object (keys.zip values)) :=
  .object fun member among => plain member.2 (List.of_mem_zip among).2

end Json

namespace Schema

open Json

theorem texts?_texts (list : List String) : texts? (texts list) = some list :=
  listOf?_map string? .string (fun _ => rfl) list

theorem texts_plain {list : List String} : Plain (depth + 1) (texts list) :=
  .list fun _ => .string

theorem fieldsOnly?_fieldsOnly (fields : List String) :
    fieldsOnly? (fieldsOnly fields) = some fields := by
  have record : (fieldsOnly fields).record? ["fields"] = some [some (texts fields)] := rfl
  rw [fieldsOnly?, record]
  exact texts?_texts fields

theorem fieldsOnly_plain (fields : List String) : Plain (depth + 2) (fieldsOnly fields) := by
  refine .object fun member among => ?_
  rw [List.mem_singleton.mp among]
  exact texts_plain

namespace ReferentialAction

theorem ofName?_name (action : ReferentialAction) : ofName? action.name = some action := by
  cases action <;> decide

theorem ofJson?_toJson (action : Option ReferentialAction) :
    ofJson? (toJson action) = some action := by
  cases action with
  | none => rfl
  | some action => exact congrArg some (ofName?_name action)

theorem toJson_plain {action : Option ReferentialAction} : Plain depth (toJson action) := by
  cases action with
  | none => exact .null
  | some => exact .string

end ReferentialAction

namespace Relation

theorem ofJson?_toJson (r : Relation) : ofJson? r.toJson = some r := by
  rw [ofJson?, toJson, record?_zip]
  case distinct => decide
  case fits => exact Nat.le_refl 6
  simp [keys, orElse?, string?, texts?_texts, ReferentialAction.ofJson?_toJson]

theorem toJson_plain (r : Relation) : Plain (depth + 2) r.toJson := by
  refine .record ?_
  simp only [List.forall_mem_cons]
  exact ⟨.string, .string, texts_plain, texts_plain, ReferentialAction.toJson_plain,
    ReferentialAction.toJson_plain, List.forall_mem_nil _⟩

end Relation

namespace Field

theorem ofJson?_toJson (f : Field) : ofJson? f.toJson = some f := by
  rw [ofJson?, toJson, record?_zip]
  case distinct => decide
  case fits => cases f.relation <;> simp [keys]
  -- the relation is the one value that may be missing
  obtain ⟨_, _, _, _, _, _, _, _, _, relation⟩ := f
  cases relation with
  | none => rfl
  | some r =>
    have written : nullable? Relation.ofJson? r.toJson = some (some r) := by
      rw [nullable?, Relation.ofJson?_toJson, Option.map_some]
      simp [Relation.toJson]
    simp [keys, required?, orElse?, string?, bool?, written]

theorem toJson_plain (f : Field) : Plain (depth + 3) f.toJson := by
  refine .record (List.forall_mem_append.mpr ⟨?_, ?_⟩)
  · simp only [List.forall_mem_cons]
    exact ⟨.string, .string, .bool, .bool, .bool, .bool, .bool, .bool, .bool,
      List.forall_mem_nil _⟩
  · intro value member
    obtain ⟨r, _, rfl⟩ := Option.map_eq_some_iff.mp (Option.mem_toList.mp member)
    exact r.toJson_plain

end Field

namespace Table

theorem ofJson?_toJson (t : Table) : ofJson? t.toJson = some t := by
  have fields := listOf?_map Field.ofJson? Field.toJson Field.ofJson?_toJson t.fields
  have uniqueConstraints := listOf?_map (fun j => (fieldsOnly? j).map UniqueConstraint.mk)
    (fieldsOnly ·.fields) (fun u => by rw [fieldsOnly?_fieldsOnly]; rfl) t.uniqueConstraints
  have indexes := listOf?_map (fun j => (fieldsOnly? j).map Index.mk)
    (fieldsOnly ·.fields) (fun i => by rw [fieldsOnly?_fieldsOnly]; rfl) t.indexes
  rw [ofJson?, toJson, record?_zip]
  case distinct => decide
  case fits => exact Nat.le_refl 5
  simp [keys, required?, orElse?, string?, fields, uniqueConstraints, indexes, texts?_texts]

theorem toJson_plain (t : Table) : Plain (depth + 5) t.toJson := by
  refine .record ?_
  simp only [List.forall_mem_cons]
  exact ⟨.string, .list Field.toJson_plain, .list fun u => fieldsOnly_plain u.fields,
    .list fun i => fieldsOnly_plain i.fields, texts_plain, List.forall_mem_nil _⟩

end Table

namespace Enumeration

theorem ofJson?_toJson (e : Enumeration) : ofJson? e.toJson = some e := by
  rw [ofJson?, toJson, record?_zip]
  case distinct => decide
  case fits => exact Nat.le_refl 2
  simp [keys, required?, string?, texts?_texts]

theorem toJson_plain (e : Enumeration) : Plain (depth + 2) e.toJson := by
  refine .record ?_
  simp only [List.forall_mem_cons]
  exact ⟨.string, texts_plain, List.forall_mem_nil _⟩

end Enumeration

theorem readTables?_tableDocument (tables : List Table) :
    readTables? (tableDocument tables) = some tables := by
  have plain : Plain maxDepth (.array (tables.map Table.toJson)) := .list Table.toJson_plain
  rw [readTables?, tableDocument, parse?_document plain]
  exact listOf?_map Table.ofJson? Table.toJson Table.ofJson?_toJson tables

theorem readEnums?_enumDocument (enums : List Enumeration) :
    readEnums? (enumDocument enums) = some enums := by
  have plain : Plain maxDepth (.array (enums.map Enumeration.toJson)) :=
    .list Enumeration.toJson_plain
  rw [readEnums?, enumDocument, parse?_document plain]
  exact listOf?_map Enumeration.ofJson? Enumeration.toJson Enumeration.ofJson?_toJson enums

/-- Whatever the declarations hold, they are read from their two documents exactly as they are. -/
theorem readDocuments_documents (tables : List Table) (enums : List Enumeration) :
    readDocuments (tableDocument tables) (enumDocument enums) = .ok (tables, enums) := by
  rw [readDocuments, readTables?_tableDocument, readEnums?_enumDocument]

end Schema

end Conform
