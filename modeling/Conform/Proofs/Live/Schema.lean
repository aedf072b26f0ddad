import Conform.Live.Basic

/-! Tables of a database are found by their names. What is added or erased under one name leaves
the tables of all other names as they are. -/
namespace Conform.Live.Schema

/-- Erasing a table leaves the others as they are. -/
theorem find?_erase (s : Live.Schema) (name other : String) :
    (s.erase name).find? other = if other = name then none else s.find? other := by
  rw [find?, erase, List.find?_filter, find?]
  by_cases same : other = name
  · subst same
    simp
  · rw [if_neg same]
    congr 1
    funext t
    by_cases named : t.name = other
    · simp [named, same]
    · simp [named]

theorem find?_insert (s : Live.Schema) (t : Table) (name : String) :
    (s.insert t).find? name = if t.name = name then some t else s.find? name := by
  have erased := find?_erase s t.name name
  rw [find?] at erased
  rw [find?, insert, List.find?_append, erased]
  by_cases same : t.name = name
  · simp [same]
  · simp [same, Ne.symm same]

/-- Of tables that are read by their names, each name finds its own. -/
theorem find?_ofList_map (names : List String) (read : String → Table)
    (named : ∀ name, (read name).name = name) (name : String) :
    (ofList (names.map read)).find? name = if name ∈ names then some (read name) else none := by
  have folded (s : Live.Schema) : ((names.map read).foldl insert s).find? name =
      if name ∈ names then some (read name) else s.find? name := by
    induction names generalizing s with
    | nil => simp
    | cons first rest ih =>
      rw [List.map_cons, List.foldl_cons, ih, find?_insert, named]
      by_cases later : name ∈ rest
      · simp [later]
      · by_cases own : first = name
        · simp [own]
        · simp [later, own, Ne.symm own]
  exact folded {}

end Conform.Live.Schema
