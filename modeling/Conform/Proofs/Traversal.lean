import Mathlib.Data.List.Forall2

/-! Traversals of a list that succeed when every element does. What is known of the elements holds
of what the whole traversal gives. -/
namespace Conform

/-- What succeeds in two steps succeeds in both of them. -/
theorem ok_of_bind {r : Except ε α} {f : α → Except ε β} {b : β} (done : r >>= f = .ok b) :
    ∃ a, r = .ok a ∧ f a = .ok b := by
  cases r with
  | error => cases done
  | ok a => exact ⟨a, rfl, done⟩

/-- A traversal succeeds when every element does, and keeps what they give. -/
theorem mapM_ok_iff {f : α → Except ε β} {xs : List α} {ys : List β} :
    xs.mapM f = .ok ys ↔ xs.map f = ys.map .ok := by
  induction xs generalizing ys with
  | nil =>
    rw [List.mapM_nil, List.map_nil, eq_comm (a := []), List.map_eq_nil_iff]
    exact ⟨fun same => (Except.ok.inj same).symm, fun empty => by rw [empty]; rfl⟩
  | cons x xs ih =>
    rw [List.mapM_cons, List.map_cons]
    rcases f x with e | y
    · cases ys <;> simp [bind, Except.bind]
    · cases rest : xs.mapM f with
      | error e =>
        have none (zs : List β) : xs.map f ≠ zs.map .ok := by
          intro same
          cases rest.symm.trans (ih.mpr same)
        cases ys <;> simp [bind, Except.bind, none]
      | ok zs =>
        rw [ih.mp rest]
        cases ys <;> simp [bind, Except.bind, pure, Except.pure, List.map_inj_right]

/-- What is collected from the results of a traversal is collected from its elements. -/
theorem flatMap_of_mapM_ok {f : α → Except ε β} {xs : List α} {ys : List β}
    (traversed : xs.mapM f = .ok ys) (g : β → List γ) :
    ys.flatMap g = xs.flatMap fun x => match f x with
      | .ok y => g y
      | .error _ => [] := by
  have same := congrArg (List.flatMap fun r => match r with
    | .ok y => g y
    | .error _ => []) (mapM_ok_iff.mp traversed)
  rw [List.flatMap_map, List.flatMap_map] at same
  exact same.symm

theorem exists_of_mem_of_mapM_ok {f : α → Except ε β} {xs : List α} {ys : List β}
    (traversed : xs.mapM f = .ok ys) (member : y ∈ ys) : ∃ x ∈ xs, f x = .ok y := by
  have listed : Except.ok y ∈ xs.map f := by
    rw [mapM_ok_iff.mp traversed]
    exact List.mem_map_of_mem member
  exact List.mem_map.mp listed

theorem result_of_mapM_ok {f : α → Except ε β} {xs : List α} {ys : List β}
    (traversed : xs.mapM f = .ok ys) (member : x ∈ xs) : ∃ y ∈ ys, f x = .ok y := by
  have listed : f x ∈ ys.map .ok := by
    rw [← mapM_ok_iff.mp traversed]
    exact List.mem_map_of_mem member
  obtain ⟨y, listed, same⟩ := List.mem_map.mp listed
  exact ⟨y, listed, same.symm⟩

/-- A traversal succeeds with good results when every element does. -/
theorem exists_mapM_ok_iff {f : α → Except ε β} {xs : List α} {P : β → Prop} :
    (∃ ys, xs.mapM f = .ok ys ∧ ∀ y ∈ ys, P y) ↔ ∀ x ∈ xs, ∃ y, f x = .ok y ∧ P y := by
  constructor
  · rintro ⟨ys, traversed, all⟩ x member
    obtain ⟨y, among, found⟩ := result_of_mapM_ok traversed member
    exact ⟨y, found, all y among⟩
  · intro each
    induction xs with
    | nil => exact ⟨[], rfl, fun _ member => absurd member List.not_mem_nil⟩
    | cons x xs ih =>
      obtain ⟨y, found, good⟩ := each x List.mem_cons_self
      obtain ⟨ys, traversed, all⟩ := ih fun x member => each x (List.mem_cons_of_mem _ member)
      refine ⟨y :: ys, mapM_ok_iff.mpr ?_, List.forall_mem_cons.mpr ⟨good, all⟩⟩
      rw [List.map_cons, List.map_cons, found, mapM_ok_iff.mp traversed]

/-- The results of a traversal are those of its elements, in their order. -/
theorem forall₂_of_mapM_ok {f : α → Except ε β} {xs : List α} {ys : List β}
    (traversed : xs.mapM f = .ok ys) : List.Forall₂ (fun x y => f x = .ok y) xs ys := by
  have same : List.Forall₂ Eq (xs.map f) (ys.map .ok) := by
    rw [mapM_ok_iff.mp traversed]
    exact List.forall₂_refl _
  exact List.forall₂_map_right_iff.mp (List.forall₂_map_left_iff.mp same)

/-- What every element passes on to its result, the list passes on. -/
theorem map_of_mapM_ok {f : α → Except ε β} {xs : List α} {ys : List β}
    (traversed : xs.mapM f = .ok ys) {g : α → γ} {h : β → γ}
    (kept : ∀ x y, f x = .ok y → h y = g x) : ys.map h = xs.map g := by
  rw [mapM_ok_iff] at traversed
  induction xs generalizing ys with
  | nil =>
    rw [List.map_eq_nil_iff.mp traversed.symm]
    rfl
  | cons x xs ih =>
    cases ys with
    | nil => cases traversed
    | cons y ys =>
      obtain ⟨first, rest⟩ := List.cons.inj traversed
      rw [List.map_cons, List.map_cons, kept x y first, ih rest]

/-- A traversal fails at the first element that does. -/
theorem first_of_mapM_error {f : α → Except ε β} {xs : List α} (failed : xs.mapM f = .error e) :
    ∃ before x after, xs = before ++ x :: after ∧ (∀ y ∈ before, ∃ z, f y = .ok z) ∧
      f x = .error e := by
  induction xs with
  | nil => cases failed
  | cons x xs ih =>
    rw [List.mapM_cons] at failed
    cases first : f x with
    | error =>
      rw [first] at failed
      cases failed
      exact ⟨[], x, xs, rfl, fun _ member => absurd member List.not_mem_nil, first⟩
    | ok y =>
      cases rest : xs.mapM f with
      | error =>
        rw [first, rest] at failed
        cases failed
        obtain ⟨before, x', after, rfl, passed, found⟩ := ih rest
        refine ⟨x :: before, x', after, rfl, ?_, found⟩
        exact List.forall_mem_cons.mpr ⟨⟨y, first⟩, passed⟩
      | ok ys =>
        rw [first, rest] at failed
        cases failed

theorem exists_of_mapM_error {f : α → Except ε β} {xs : List α} (failed : xs.mapM f = .error e) :
    ∃ x ∈ xs, f x = .error e := by
  obtain ⟨before, x, after, rfl, _, found⟩ := first_of_mapM_error failed
  exact ⟨x, List.mem_append_right _ List.mem_cons_self, found⟩

/-- What is done to each result may be done to all of them in the end. -/
theorem mapM_map {f : α → Except ε β} {xs : List α} (g : β → γ) :
    xs.mapM (fun x => (f x).map g) = (xs.mapM f).map (List.map g) := by
  induction xs with
  | nil => rfl
  | cons x xs ih =>
    rw [List.mapM_cons, List.mapM_cons, ih]
    cases f x with
    | error => rfl
    | ok y => cases xs.mapM f <;> rfl

theorem mapM_some_iff {f : α → Option β} {xs : List α} {ys : List β} :
    xs.mapM f = some ys ↔ xs.map f = ys.map some := by
  induction xs generalizing ys with
  | nil => cases ys <;> simp
  | cons x xs ih =>
    rw [List.mapM_cons, List.map_cons]
    cases f x with
    | none => cases ys <;> simp
    | some y =>
      cases rest : xs.mapM f with
      | none =>
        have none (zs : List β) : xs.map f ≠ zs.map some := by
          intro same
          cases rest.symm.trans (ih.mpr same)
        cases ys <;> simp [none]
      | some zs =>
        rw [ih.mp rest]
        cases ys <;> simp [List.map_inj_right]

end Conform
