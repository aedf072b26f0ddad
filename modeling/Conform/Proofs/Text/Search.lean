import Conform.Text.Scan
import Mathlib.Data.List.Infix

/-! Searching a text that was put together from parts. A part is passed over when what is looked for
cannot begin in it, whatever follows. -/
namespace Conform.Text

variable {opening s : List Char}

theorem after_append (opening rest : List Char) : after opening (opening ++ rest) = some rest := by
  induction opening with
  | nil => rfl
  | cons c opening ih => simpa [after] using ih

theorem after_of_not_mem (inside : c ∈ opening) (absent : c ∉ s) : after opening s = none := by
  induction opening generalizing s with
  | nil => cases inside
  | cons d opening ih =>
    cases s with
    | nil => rfl
    | cons e s =>
      rw [after]
      by_cases same : d = e
      · subst same
        rw [if_pos rfl]
        have later : c ∈ opening :=
          (List.mem_cons.mp inside).resolve_left (List.ne_of_not_mem_cons absent)
        exact ih later (List.not_mem_of_not_mem_cons absent)
      · rw [if_neg same]

/-- An opening that lacks the character does not reach over it. -/
theorem after_append_cons (absent : c ∉ opening) (s t : List Char) :
    after opening (s ++ c :: t) = (after opening s).map (· ++ c :: t) := by
  induction opening generalizing s with
  | nil => rfl
  | cons d opening ih =>
    have differs : d ≠ c := (List.ne_of_not_mem_cons absent).symm
    cases s with
    | nil => simp [after, differs]
    | cons e s =>
      rw [List.cons_append, after, after]
      by_cases same : d = e
      · rw [if_pos same, if_pos same]
        exact ih (List.not_mem_of_not_mem_cons absent) s
      · rw [if_neg same, if_neg same]
        rfl

theorem eq_append_of_after (found : after opening s = some rest) : s = opening ++ rest := by
  induction opening generalizing s with
  | nil => exact Option.some.inj found
  | cons c opening ih =>
    cases s with
    | nil => cases found
    | cons d s =>
      rw [after] at found
      split at found
      case isTrue same => rw [same, ih found, List.cons_append]
      case isFalse => cases found

/-- The texts differ at a place that both of them have. -/
def clash : List Char → List Char → Bool
  | c :: s, d :: t => c != d || clash s t
  | _, _ => false

/-- The opening begins nowhere in the text, whatever follows. -/
def skips (opening : List Char) : List Char → Bool
  | [] => true
  | c :: s => clash opening (c :: s) && skips opening s

theorem after_of_clash (clashes : clash opening s = true) (rest : List Char) :
    after opening (s ++ rest) = none := by
  induction opening generalizing s with
  | nil => simp [clash] at clashes
  | cons c opening ih =>
    cases s with
    | nil => simp [clash] at clashes
    | cons d s =>
      rw [List.cons_append, after]
      by_cases same : c = d
      · subst same
        rw [if_pos rfl]
        exact ih (by simpa [clash] using clashes)
      · rw [if_neg same]

theorem clash_append (clashes : clash opening s = true) (rest : List Char) :
    clash opening (s ++ rest) = true := by
  induction opening generalizing s with
  | nil => simp [clash] at clashes
  | cons c opening ih =>
    cases s with
    | nil => simp [clash] at clashes
    | cons d s =>
      simp only [clash, Bool.or_eq_true] at clashes
      rw [List.cons_append, clash, Bool.or_eq_true]
      exact clashes.imp_right ih

theorem skips_of_not_mem_head (absent : c ∉ s) (opening : List Char) :
    skips (c :: opening) s = true := by
  induction s with
  | nil => rfl
  | cons d s ih =>
    have differs := List.ne_of_not_mem_cons absent
    simp [skips, clash, differs, ih (List.not_mem_of_not_mem_cons absent)]

/-- The opening has a character that the text lacks, and does not reach over its end. -/
theorem clash_of_last (inside : c ∈ opening) (absent : c ∉ s) (last : d ∉ opening) :
    clash opening (s ++ [d]) = true := by
  induction opening generalizing s with
  | nil => cases inside
  | cons first opening ih =>
    cases s with
    | nil => simp [clash, (List.ne_of_not_mem_cons last).symm]
    | cons e s =>
      by_cases same : first = e
      · subst same
        have later : c ∈ opening :=
          (List.mem_cons.mp inside).resolve_left (List.ne_of_not_mem_cons absent)
        simpa [clash] using ih later (List.not_mem_of_not_mem_cons absent)
          (List.not_mem_of_not_mem_cons last)
      · simp [clash, same]

theorem skips_of_last (inside : c ∈ opening) (absent : c ∉ s) (last : d ∉ opening) :
    skips opening (s ++ [d]) = true := by
  induction s with
  | nil => simpa [skips] using clash_of_last inside absent last
  | cons e s ih =>
    have whole := clash_of_last inside absent last
    rw [List.cons_append, skips, Bool.and_eq_true]
    exact ⟨whole, ih (List.not_mem_of_not_mem_cons absent)⟩

section upTo
variable {stop : Char} {t : List Char}

theorem ne_of_not_mem (absent : stop ∉ s) : ∀ c ∈ s, (c != stop) = true := by
  intro c member
  have differs : c ≠ stop := fun same => absent (same ▸ member)
  simpa using differs

theorem upTo_append (absent : stop ∉ s) (rest : List Char) :
    upTo stop (s ++ stop :: rest) = some s := by
  have there : (s ++ stop :: rest).contains stop = true := by simp
  rw [upTo, if_pos there, List.takeWhile_append_of_pos (ne_of_not_mem absent)]
  simp

theorem upToLast_append (absent : stop ∉ rest) (s : List Char) :
    upToLast stop (s ++ stop :: rest) = some s := by
  have there : (s ++ stop :: rest).contains stop = true := by simp
  have passes : ∀ c ∈ rest.reverse, (c != stop) = true := by
    simpa using ne_of_not_mem absent
  have turned : (s ++ stop :: rest).reverse = rest.reverse ++ stop :: s.reverse := by simp
  rw [upToLast, if_pos there, turned, List.dropWhile_append_of_pos passes]
  simp

theorem upToLast_concat (stop : Char) (s : List Char) : upToLast stop (s ++ [stop]) = some s :=
  upToLast_append List.not_mem_nil s

theorem upToLast_eq_none_iff : upToLast stop s = none ↔ stop ∉ s := by
  simp [upToLast]

theorem eq_append_of_upTo (found : upTo stop s = some t) :
    stop ∉ t ∧ ∃ rest, s = t ++ stop :: rest := by
  unfold upTo at found
  split at found
  case isFalse => cases found
  case isTrue there =>
    obtain ⟨before, rest, rfl, absent⟩ :=
      List.eq_append_cons_of_mem (List.contains_iff_mem.mp there)
    rw [List.takeWhile_append_of_pos (ne_of_not_mem absent)] at found
    obtain rfl : before = t := by simpa using found
    exact ⟨absent, rest, rfl⟩

theorem eq_append_of_upToLast (found : upToLast stop s = some t) :
    ∃ rest, s = t ++ stop :: rest := by
  have member : stop ∈ s := by
    by_contra absent
    rw [upToLast_eq_none_iff.mpr absent] at found
    cases found
  obtain ⟨after, before, turned, absent⟩ :=
    List.eq_append_cons_of_mem (List.mem_reverse.mpr member)
  have split : s = before.reverse ++ stop :: after.reverse := by
    rw [← List.reverse_inj, turned]
    simp
  rw [split, upToLast_append (by simpa using absent)] at found
  cases found
  exact ⟨_, split⟩

end upTo

/-- The reader finds something only where the opening stands. -/
def NeedsOpening (opening : List Char) (read : List Char → Option α) : Prop :=
  ∀ s, after opening s = none → read s = none

section firstIn
variable {read : List Char → Option α}

theorem needsOpening_after (opening : List Char) : NeedsOpening opening (after opening) :=
  fun _ missing => missing

theorem needsOpening_bind (opening : List Char) (next : List Char → Option α) :
    NeedsOpening opening fun s => (after opening s).bind next := by
  intro s missing
  simp only [missing, Option.bind_none]

theorem firstIn_append (needs : NeedsOpening opening read) (passed : skips opening s = true)
    (rest : List Char) : firstIn read (s ++ rest) = firstIn read rest := by
  induction s with
  | nil => rfl
  | cons c s ih =>
    obtain ⟨clashes, others⟩ := Bool.and_eq_true_iff.mp passed
    have missing := needs _ (after_of_clash clashes rest)
    rw [List.cons_append] at missing ⊢
    rw [firstIn, missing]
    exact ih others

theorem firstIn_of_not_mem (needs : NeedsOpening opening read) (inside : c ∈ opening)
    (absent : c ∉ s) : firstIn read s = none := by
  induction s with
  | nil => exact needs _ (after_of_not_mem inside absent)
  | cons d s ih =>
    rw [firstIn, needs _ (after_of_not_mem inside absent)]
    exact ih (List.not_mem_of_not_mem_cons absent)

theorem firstIn_of_some (found : read s = some value) : firstIn read s = some value := by
  cases s with
  | nil => exact found
  | cons c s => simp [firstIn, found]

/-- Where the reader does not reach over a character, it is the same before it and after it. -/
theorem firstIn_append_cons {widen : α → α}
    (own : ∀ s, read (s ++ c :: t) = (read s).map widen) (s : List Char) :
    firstIn read (s ++ c :: t) = ((firstIn read s).map widen).or (firstIn read t) := by
  induction s with
  | nil =>
    have first : read (c :: t) = (read []).map widen := own []
    rw [List.nil_append, firstIn, firstIn, first]
    cases read [] <;> rfl
  | cons d s ih =>
    have first : read (d :: (s ++ c :: t)) = (read (d :: s)).map widen := own (d :: s)
    rw [List.cons_append, firstIn, firstIn, first, ih]
    cases read (d :: s) <;> rfl

theorem isSome_firstIn_after :
    (firstIn (after opening) s).isSome = true ↔ opening <:+: s := by
  induction s with
  | nil => cases opening <;> simp [firstIn, after]
  | cons c s ih =>
    rw [firstIn, List.infix_cons_iff, ← ih]
    cases found : after opening (c :: s) with
    | some rest =>
      have start : opening <+: c :: s := ⟨rest, (eq_append_of_after found).symm⟩
      simp [start]
    | none =>
      have other : ¬opening <+: c :: s := by
        rintro ⟨rest, same⟩
        rw [← same, after_append] at found
        cases found
      simp [other]

theorem exists_suffix_of_firstIn (found : firstIn read s = some value) :
    ∃ rest, rest <:+ s ∧ read rest = some value := by
  induction s with
  | nil => exact ⟨[], List.suffix_rfl, found⟩
  | cons c s ih =>
    rw [firstIn] at found
    split at found
    case h_1 first =>
      cases found
      exact ⟨c :: s, List.suffix_rfl, first⟩
    case h_2 =>
      obtain ⟨rest, later, reads⟩ := ih found
      exact ⟨rest, later.trans (List.suffix_cons c s), reads⟩

/-- Only the first opening matters, since a text that ends nowhere after it ends nowhere later. -/
theorem firstIn_upToLast {stop : Char} (absent : stop ∉ opening) (s : List Char) :
    firstIn (fun s => (after opening s).bind (upToLast stop)) s =
      (firstIn (after opening) s).bind (upToLast stop) := by
  induction s with
  | nil => rfl
  | cons c s ih =>
    rw [firstIn, firstIn, ih]
    cases found : after opening (c :: s) with
    | none => rfl
    | some rest =>
      simp only [Option.bind_some]
      cases ends : upToLast stop rest with
      | some => rfl
      | none =>
        have unended : stop ∉ s := by
          have whole : stop ∉ c :: s := by
            rw [eq_append_of_after found]
            simp [absent, upToLast_eq_none_iff.mp ends]
          exact List.not_mem_of_not_mem_cons whole
        cases later : firstIn (after opening) s with
        | none => rfl
        | some rest' =>
          obtain ⟨suffix, below, begins⟩ := exists_suffix_of_firstIn later
          refine upToLast_eq_none_iff.mpr fun member => unended (below.subset ?_)
          rw [eq_append_of_after begins]
          exact List.mem_append_right _ member

end firstIn

end Conform.Text
