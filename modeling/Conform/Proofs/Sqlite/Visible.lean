import Conform.Proofs.Live.Schema
import Conform.Proofs.Text.Letter
import Conform.Sqlite.Catalog
import Mathlib.Data.List.Basic

/-! A catalog is read as a whole or one table at a time. Both readings see the same tables but for
those whose names only look like the database's own: the pattern that keeps the latter from view
has an underscore, which stands for any character. -/
namespace Conform.Sqlite

theorem fills_anyText (text : List Nat) : fills [.anyText] text = true := by
  rw [fills, List.any_eq_true]
  refine ⟨[], ?_, rfl⟩
  induction text with
  | nil => simp [endings]
  | cons d rest ih => simp [endings, ih]

theorem fills_anyCharacter {places : List LikePlace} {text : List Nat} :
    fills (.anyCharacter :: places) text = true ↔
      ∃ d rest, text = d :: rest ∧ fills places rest = true := by
  cases text <;> simp [fills]

/-- Characters are filled by a text with the same letters. -/
theorem fills_characters {codes text : List Nat} {places : List LikePlace} :
    fills (codes.map .character ++ places) text = true ↔ ∃ before rest, text = before ++ rest ∧
      before.map smallCode = codes.map smallCode ∧ fills places rest = true := by
  induction codes generalizing text with
  | nil => simp
  | cons c codes ih =>
    constructor
    · intro filled
      cases text with
      | nil => simp [fills] at filled
      | cons d text =>
        rw [List.map_cons, List.cons_append, fills, Bool.and_eq_true, beq_iff_eq] at filled
        obtain ⟨same, others⟩ := filled
        obtain ⟨before, rest, rfl, spelled, filled⟩ := ih.mp others
        exact ⟨d :: before, rest, rfl, by simp [same, spelled], filled⟩
    · rintro ⟨before, rest, rfl, spelled, filled⟩
      cases before with
      | nil => simp at spelled
      | cons d before =>
        simp only [List.map_cons, List.cons.injEq] at spelled
        have others := ih.mpr ⟨before, rest, rfl, spelled.2, filled⟩
        simp [fills, spelled.1, others]

theorem smallCode_toNat (c : Char) : smallCode c.toNat = c.toLower.toNat :=
  (Text.toNat_toLower c).symm

theorem smallCodes_eq_iff {before : List Char} :
    (before.map Char.toNat).map smallCode = ("sqlite".toList.map Char.toNat).map smallCode ↔
      before.map Char.toLower = "sqlite".toList := by
  have small (s : List Char) :
      (s.map Char.toNat).map smallCode = (s.map Char.toLower).map Char.toNat := by
    simp [smallCode_toNat]
  have lower : "sqlite".toList.map Char.toLower = "sqlite".toList := by decide
  rw [small, small, lower]
  have injective : Function.Injective Char.toNat := fun _ _ => Char.toNat_inj.mp
  exact (List.map_injective_iff.mpr injective).eq_iff

/-- The name has the letters of `sqlite`, in capitals or not, and then this character. -/
def Continues (name : String) (d : Char) : Prop :=
  ∃ before rest, name.toList = before ++ d :: rest ∧ before.map Char.toLower = "sqlite".toList

/-- The names that the database keeps for itself. -/
def IsReserved (name : String) : Prop := Continues name '_'

theorem isHidden_iff {name : String} : isHidden name = true ↔ ∃ d, Continues name d := by
  have places : likePlaces none (codesOf "sqlite_%") =
      ("sqlite".toList.map Char.toNat).map .character ++ [.anyCharacter, .anyText] := rfl
  rw [isHidden, like, likeWith, places, fills_characters]
  constructor
  · rintro ⟨before, rest, split, spelled, filled⟩
    obtain ⟨code, later, rfl, _⟩ := fills_anyCharacter.mp filled
    obtain ⟨before, rest, cut, rfl, same⟩ := List.map_eq_append_iff.mp split
    obtain ⟨d, rest, rfl, rfl, rfl⟩ := List.map_eq_cons_iff.mp same
    exact ⟨d, before, rest, cut, smallCodes_eq_iff.mp spelled⟩
  · rintro ⟨d, before, rest, cut, spelled⟩
    refine ⟨before.map Char.toNat, (d :: rest).map Char.toNat, ?_,
      smallCodes_eq_iff.mpr spelled, ?_⟩
    · rw [codesOf, cut, List.map_append]
    · exact fills_anyCharacter.mpr ⟨_, _, rfl, fills_anyText _⟩

namespace Catalog

variable {c : Catalog} {name : String}

theorem find?_existingSchema : c.existingSchema.find? name =
    if name ∈ c.definitions.map (·.1) ∧ ¬ isHidden name then some (c.readTable name) else none := by
  have listed : name ∈ c.tableNames ↔ name ∈ c.definitions.map (·.1) ∧ ¬ isHidden name := by
    simp [tableNames, List.mem_mergeSort]
  rw [existingSchema, Live.Schema.find?_ofList_map _ _ fun _ => rfl]
  simp only [listed]

theorem existingTable_eq : c.existingTable name =
    if name ∈ c.definitions.map (·.1) then some (c.readTable name) else none := by
  have listed : (c.definitions.lookup name).isSome ↔ name ∈ c.definitions.map (·.1) := by
    induction c.definitions with
    | nil => simp
    | cons definition rest ih =>
      rw [List.lookup_cons]
      by_cases own : name = definition.1
      · simp [own]
      · have other : (name == definition.1) = false := by simpa using own
        simp [other, own, ih]
  rw [existingTable]
  simp only [listed]

/-- Both readings of a catalog give the same for a name, unless it is that of a table and begins
like a reserved one. -/
theorem readings_agree_iff (c : Catalog) (name : String) :
    c.existingSchema.find? name = c.existingTable name ↔
      name ∈ c.definitions.map (·.1) → ¬ ∃ d, Continues name d := by
  rw [find?_existingSchema, existingTable_eq, ← isHidden_iff]
  by_cases listed : name ∈ c.definitions.map (·.1)
  · by_cases hidden : isHidden name <;> simp [listed, hidden]
  · simp [listed]

/-- A table whose name is not reserved and begins like one that is. -/
private def lookalike : Catalog where
  definitions := [("SqliteThing", "CREATE TABLE \"SqliteThing\" (\"id\" INTEGER)")]
  columns _ := [⟨"id", "INTEGER", false, none, 0⟩]
  indexes _ := []
  indexEntries _ := []
  foreignKeys _ := []

theorem lookalike_seen_once : ¬ IsReserved "SqliteThing" ∧
    lookalike.existingSchema.find? "SqliteThing" = none ∧
    lookalike.existingTable "SqliteThing" = some (lookalike.readTable "SqliteThing") := by
  refine ⟨?_, by decide +kernel, by decide +kernel⟩
  rintro ⟨before, rest, cut, _⟩
  have inside : '_' ∈ "SqliteThing".toList := by simp [cut]
  exact absurd inside (by decide)

end Catalog

end Conform.Sqlite
