import Conform.Text.Blank
import Mathlib.Data.List.TakeWhile

/-! Cutting a text that was put together from pieces gives the pieces back. White space around a
text is trimmed away, whatever stands between. -/
namespace Conform.Text

section pieces
variable {cut : α → Bool} {piece : List α}

theorem pieces_append (cuts : cut c = true) (before after : List α) :
    pieces cut (before ++ c :: after) = pieces cut before ++ pieces cut after := by
  induction before with
  | nil => simp [pieces, cuts]
  | cons d before ih =>
    rw [List.cons_append, pieces, pieces, ih]
    by_cases other : cut d = true
    · simp [other]
    · -- The first piece of what follows takes in `d`, and there is one.
      cases rest : pieces cut before with
      | nil => exact absurd rest (pieces_ne_nil cut before)
      | cons first others => simp [other]

theorem pieces_of_uncut (uncut : ∀ c ∈ piece, cut c = false) : pieces cut piece = [piece] := by
  induction piece with
  | nil => rfl
  | cons c piece ih =>
    obtain ⟨own, others⟩ := List.forall_mem_cons.mp uncut
    simp [pieces, own, ih others]

/-- The first piece ends where the text is cut first. -/
theorem pieces_cons (uncut : ∀ c ∈ piece, cut c = false) (cuts : cut c = true) (after : List α) :
    pieces cut (piece ++ c :: after) = piece :: pieces cut after := by
  rw [pieces_append cuts, pieces_of_uncut uncut, List.singleton_append]

end pieces

theorem lines_append (a b : List Char) : lines (a ++ '\n' :: b) = lines a ++ lines b :=
  pieces_append rfl a b

section words
variable {word : List Char}

theorem words_of_visible (filled : word ≠ []) (visible : ∀ c ∈ word, isBlank c = false) :
    words word = [word] := by
  simp [words, pieces_of_uncut visible, filled]

theorem words_cons (filled : word ≠ []) (visible : ∀ c ∈ word, isBlank c = false)
    (blank : isBlank c = true) (after : List Char) :
    words (word ++ c :: after) = word :: words after := by
  simp [words, pieces_cons visible blank, filled]

theorem words_append (blank : isBlank c = true) (s t : List Char) :
    words (s ++ c :: t) = words s ++ words t := by
  rw [words, pieces_append blank, List.filter_append]
  rfl

theorem words_cons_blank (blank : isBlank c = true) (s : List Char) : words (c :: s) = words s :=
  words_append (s := []) blank s

theorem words_append_of_ends (filled : word ≠ []) (visible : ∀ c ∈ word, isBlank c = false)
    (ends : ∀ c ∈ rest.head?, isBlank c = true) : words (word ++ rest) = word :: words rest := by
  cases rest with
  | nil =>
    rw [List.append_nil, words_of_visible filled visible]
    rfl
  | cons c rest =>
    have blank := ends c rfl
    rw [words_cons filled visible blank, words_cons_blank blank]

end words

theorem visible_of_all {s : List Char} (all : s.all (!isBlank ·) = true) : ∀ c ∈ s, isBlank c = false := by
  simpa using all

theorem end_visible_of_all {last : Option Char} (all : last.all (!isBlank ·) = true) :
    ∀ c ∈ last, isBlank c = false := by
  rintro c rfl
  simpa using all

section trim
variable {s left right : List Char}

theorem trimStart_of_blank (blank : ∀ c ∈ s, isBlank c = true) : trimStart s = [] :=
  List.dropWhile_eq_nil_iff.mpr blank

theorem trimStart_of_visible (first : ∀ c ∈ s.head?, isBlank c = false) : trimStart s = s := by
  cases s with
  | nil => rfl
  | cons c s => exact List.dropWhile_cons_of_neg (by simp [first c rfl])

theorem trimEnd_append (blank : ∀ c ∈ right, isBlank c = true) (s : List Char) :
    trimEnd (s ++ right) = trimEnd s := by
  have passes : ∀ c ∈ right.reverse, isBlank c = true := by simpa using blank
  rw [trimEnd, List.reverse_append, List.dropWhile_append_of_pos passes, trimEnd]

theorem trimEnd_of_visible (last : ∀ c ∈ s.getLast?, isBlank c = false) : trimEnd s = s := by
  have first : ∀ c ∈ s.reverse.head?, isBlank c = false := by simpa using last
  have kept : s.reverse.dropWhile isBlank = s.reverse := trimStart_of_visible first
  rw [trimEnd, kept, List.reverse_reverse]

theorem trim_of_visible (first : ∀ c ∈ s.head?, isBlank c = false)
    (last : ∀ c ∈ s.getLast?, isBlank c = false) : trim s = s := by
  rw [trim, trimStart_of_visible first, trimEnd_of_visible last]

theorem trim_append_left (blank : ∀ c ∈ left, isBlank c = true) (s : List Char) :
    trim (left ++ s) = trim s := by
  rw [trim, trimStart, List.dropWhile_append_of_pos blank, trim, trimStart]

theorem trim_append_right (blank : ∀ c ∈ right, isBlank c = true) (s : List Char) :
    trim (s ++ right) = trim s := by
  rw [trim, trimStart, List.dropWhile_append]
  split
  case isTrue empty =>
    -- Nothing but white space: all of it goes from the front.
    have none : trimStart s = [] := List.isEmpty_iff.mp empty
    have rest : List.dropWhile isBlank right = [] := trimStart_of_blank blank
    rw [rest, trim, none]
  case isFalse => exact trimEnd_append blank _

theorem words_trimStart (s : List Char) : words (trimStart s) = words s := by
  induction s with
  | nil => rfl
  | cons c s ih =>
    by_cases blank : isBlank c = true
    · rw [words_cons_blank blank, ← ih, trimStart, List.dropWhile_cons_of_pos blank, trimStart]
    · rw [trimStart, List.dropWhile_cons_of_neg blank]

theorem trimStart_head (s : List Char) : ∀ c ∈ (trimStart s).head?, isBlank c = false := by
  intro c first
  have kept := List.head?_dropWhile_not isBlank s
  have first : (s.dropWhile isBlank).head? = some c := first
  simpa [first] using kept

/-- The first word of a text reaches up to white space or the end. -/
theorem exists_first_word (s : List Char) : trimStart s = [] ∧ words s = [] ∨
    ∃ word rest, trimStart s = word ++ rest ∧ word ≠ [] ∧ (∀ c ∈ word, isBlank c = false) ∧
      (∀ c ∈ rest.head?, isBlank c = true) ∧ words s = word :: words rest := by
  rw [← words_trimStart s]
  cases starts : trimStart s with
  | nil => exact .inl ⟨rfl, rfl⟩
  | cons first others =>
    have start : isBlank first = false := trimStart_head s first (by rw [starts]; rfl)
    have split :=
      List.takeWhile_append_dropWhile (p := fun c => !isBlank c) (l := first :: others)
    have filled : (first :: others).takeWhile (!isBlank ·) ≠ [] := by simp [start]
    have visible : ∀ c ∈ (first :: others).takeWhile (!isBlank ·), isBlank c = false := by
      intro c member
      simpa using List.mem_takeWhile_imp member
    have ends : ∀ c ∈ ((first :: others).dropWhile (!isBlank ·)).head?, isBlank c = true := by
      intro c next
      have stopped := List.head?_dropWhile_not (fun c => !isBlank c) (first :: others)
      have next : ((first :: others).dropWhile (!isBlank ·)).head? = some c := next
      simpa [next] using stopped
    have worded := words_append_of_ends filled visible ends
    rw [split] at worded
    exact .inr ⟨_, _, split.symm, filled, visible, ends, worded⟩

theorem trimStart_suffix (s : List Char) : trimStart s <:+ s := List.dropWhile_suffix _

theorem trimEnd_prefix (s : List Char) : trimEnd s <+: s := by
  rw [trimEnd, ← List.reverse_suffix, List.reverse_reverse]
  exact List.dropWhile_suffix _

theorem trimStart_trim (s : List Char) : trimStart (trim s) = trim s := by
  refine trimStart_of_visible fun c first => trimStart_head s c ?_
  obtain ⟨rest, joined⟩ := trimEnd_prefix (trimStart s)
  have first : (trimEnd (trimStart s)).head? = some c := first
  rw [← joined, List.head?_append, first]
  rfl

theorem visible_last_of_suffix (suffix : right <:+ s) (last : ∀ c ∈ s.getLast?, isBlank c = false) :
    ∀ c ∈ right.getLast?, isBlank c = false := by
  obtain ⟨before, rfl⟩ := suffix
  intro c ends
  have ends : right.getLast? = some c := ends
  exact last c (by simp [List.getLast?_append, ends])

theorem trim_of_visible_last (last : ∀ c ∈ s.getLast?, isBlank c = false) :
    trim s = trimStart s :=
  trimEnd_of_visible (visible_last_of_suffix (trimStart_suffix s) last)

theorem visible_last_of_trim (trimmed : trim s = s) : ∀ c ∈ s.getLast?, isBlank c = false := by
  intro c ends
  have kept := List.head?_dropWhile_not isBlank (trimStart s).reverse
  rw [← trimmed, trim, trimEnd, List.getLast?_reverse] at ends
  have ends : ((trimStart s).reverse.dropWhile isBlank).head? = some c := ends
  simpa [ends] using kept

end trim

end Conform.Text
