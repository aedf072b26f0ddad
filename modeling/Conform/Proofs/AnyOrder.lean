import Conform.Proofs.Traversal
import Mathlib.Data.List.Find
import Mathlib.Data.List.Nodup
import Mathlib.Data.List.Perm.Basic

/-! Lists in another order. What is found by a key that no two elements share, and whether a
traversal succeeds, do not depend on the order of the elements. -/
namespace Conform

/-- Elements with keys of their own are found in whatever order they are listed. -/
theorem find?_perm (key : α → String) {xs other : List α} (distinct : (xs.map key).Nodup)
    (listed : other.Perm xs) (name : String) :
    other.find? (key · == name) = xs.find? (key · == name) := by
  refine (List.find?_eq_find?_of_perm listed.symm ?_).symm
  rintro x ⟨among, named⟩ y ⟨amongToo, namedToo⟩
  have same : key x = key y := (eq_of_beq named).trans (eq_of_beq namedToo).symm
  exact List.inj_on_of_nodup_map distinct among amongToo same

/-- An element is found among those that a property of its key singles out. -/
theorem find?_filter_key (key : α → String) {xs : List α} {p : String → Bool} {name : String}
    (kept : p name = true) :
    (xs.filter fun x => p (key x)).find? (key · == name) = xs.find? (key · == name) := by
  rw [List.find?_filter]
  congr 1
  funext x
  by_cases named : key x = name
  · simp [named, kept]
  · simp [named]

theorem mapM_congr {f g : α → Except ε β} {xs : List α} (same : ∀ x ∈ xs, f x = g x) :
    xs.mapM f = xs.mapM g := by
  have results (h : α → Except ε β) : (xs.map h).mapM id = xs.mapM h := List.mapM_map
  rw [← results f, ← results g, List.map_congr_left same]

/-- A traversal in another order gives the same results in another order. -/
theorem mapM_perm {f : α → Except ε β} {xs other : List α} {ys : List β}
    (listed : other.Perm xs) (traversed : xs.mapM f = .ok ys) :
    ∃ results, other.mapM f = .ok results ∧ results.Perm ys := by
  obtain ⟨results, related, same⟩ := List.perm_comp_forall₂ listed (forall₂_of_mapM_ok traversed)
  refine ⟨results, mapM_ok_iff.mpr ?_, same⟩
  have equal : List.Forall₂ Eq (other.map f) (results.map .ok) :=
    List.forall₂_map_left_iff.mpr (List.forall₂_map_right_iff.mpr related)
  rwa [List.forall₂_eq_eq_eq] at equal

end Conform
