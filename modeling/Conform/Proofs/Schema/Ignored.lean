import Conform.Proofs.Schema.ReadBack

/-! Attributes that the reader does not know. It looks for those it knows in the whole text of the
attributes of a field, so that it also finds them inside of a literal. -/
namespace Conform.Schema.Source

open Text

/-- An attribute of another kind: its key, and a string literal as its argument. -/
structure OtherAttribute where
  key : List Char
  literal : List Char
  word : ∀ c ∈ key, isWordChar c = true
  other : key ∉ ["id".toList, "unique".toList, "relation".toList]
  unquoted : '"' ∉ literal

namespace OtherAttribute

/-- The text of the attribute up to its closing parenthesis. -/
def body (a : OtherAttribute) : List Char :=
  '@' :: (a.key ++ '(' :: '"' :: (a.literal ++ ['"']))

def text (a : OtherAttribute) : List Char := a.body ++ [')']

end OtherAttribute

/-- The text begins with the name, and white space or a parenthesis follows it. -/
def Introduces (name s : List Char) : Prop :=
  ∃ c rest, s = name ++ c :: rest ∧ (isBlank c = true ∨ c = '(')

/-- Somewhere in the text the name stands after white space, and white space or a parenthesis
follows it. -/
def HasWord (name s : List Char) : Prop :=
  ∃ before b rest, s = before ++ b :: rest ∧ isBlank b = true ∧ Introduces name rest

/-- What the arguments leave open, the whole text does not give either. -/
structure Settles (arguments whole : List Char) : Prop where
  fields : (firstIn (bracketed "fields:".toList) arguments).isSome = true ∨
    namesIn "fields:" whole = []
  references : (firstIn (bracketed "references:".toList) arguments).isSome = true ∨
    namesIn "references:" whole = []
  onDelete : (firstIn (wordAfter "onDelete:".toList) arguments).isSome = true ∨
    actionIn "onDelete:" whole = none
  onUpdate : (firstIn (wordAfter "onUpdate:".toList) arguments).isSome = true ∨
    actionIn "onUpdate:" whole = none

namespace OtherAttribute

/-- The literal gives no relation, and adds nothing to the one that the attributes give. The
arguments of a relation reach to the last parenthesis of the line, which is now that of the
attribute. -/
structure Unrelated (a : OtherAttribute) (attributes : List Char) : Prop where
  none : ¬"@relation(".toList <:+: attributes → ¬"@relation(".toList <:+: a.literal
  settled : ∀ rest, firstIn (after "@relation(".toList) attributes = some rest →
    ∃ arguments, upToLast ')' rest = some arguments ∧ Settles arguments (rest ++ ' ' :: a.body)

/-- The literal holds nothing that the reader looks for and does not have from the attributes. -/
structure Harmless (a : OtherAttribute) (attributes : List Char) : Prop where
  id : hasAttribute "@id".toList true attributes = true ∨ ¬HasWord "@id".toList a.literal
  unique : hasAttribute "@unique".toList true attributes = true ∨
    ¬HasWord "@unique".toList a.literal
  objectId : "@db.ObjectId".toList <:+: attributes ∨ ¬"@db.ObjectId".toList <:+: a.literal
  relation : a.Unrelated attributes

end OtherAttribute

section wordChars

/-- The numbers of the characters that are white space. -/
def blankCodes : List Nat :=
  [9, 10, 11, 12, 13, 0x20, 0x85, 0xA0, 0x1680, 0x2000, 0x2001, 0x2002, 0x2003, 0x2004, 0x2005,
    0x2006, 0x2007, 0x2008, 0x2009, 0x200A, 0x2028, 0x2029, 0x202F, 0x205F, 0x3000]

theorem mem_blankCodes (blank : isBlank c = true) : c.toNat ∈ blankCodes := by
  simp only [isBlank, Bool.or_eq_true, Bool.and_eq_true, decide_eq_true_eq, beq_iff_eq] at blank
  simp only [blankCodes, List.mem_cons, List.not_mem_nil, or_false]
  omega

theorem not_isBlank_of_isWordChar (word : isWordChar c = true) : isBlank c = false := by
  have all : blankCodes.all (fun n => !isWordChar (Char.ofNat n)) = true := by decide +kernel
  by_contra blank
  have blank : isBlank c = true := by simpa using blank
  have outside := List.all_eq_true.mp all _ (mem_blankCodes blank)
  rw [Char.ofNat_toNat] at outside
  simp [word] at outside

theorem not_mem_of_isWordChar {word : List Char} (spelled : ∀ c ∈ word, isWordChar c = true)
    (special : isWordChar c = false) : c ∉ word := by
  intro member
  rw [spelled c member] at special
  cases special

end wordChars

section hasAttribute
variable {name s : List Char}

/-- A word ends here. -/
def endsWord (rest : List Char) : Bool := rest.head?.all fun c => isBlank c || c == '('

@[simp] theorem endsWord_cons (c : Char) (rest : List Char) :
    endsWord (c :: rest) = (isBlank c || c == '(') := rfl

theorem hasAttribute_nil (name : List Char) (fresh : Bool) :
    hasAttribute name fresh [] = (fresh && (after name []).any endsWord) := by
  rw [hasAttribute, Bool.or_false]
  rfl

theorem hasAttribute_step (name : List Char) (fresh : Bool) (c : Char) (s : List Char) :
    hasAttribute name fresh (c :: s) =
      (fresh && (after name (c :: s)).any endsWord || hasAttribute name (isBlank c) s) := by
  rw [hasAttribute]
  rfl

theorem hasWord_cons : HasWord name (c :: s) ↔
    (isBlank c = true ∧ Introduces name s) ∨ HasWord name s := by
  constructor
  · rintro ⟨before, b, rest, split, blank, introduces⟩
    cases before with
    | nil =>
      obtain ⟨rfl, rfl⟩ := List.cons.inj split
      exact .inl ⟨blank, introduces⟩
    | cons d before =>
      obtain ⟨rfl, rfl⟩ := List.cons.inj split
      exact .inr ⟨before, b, rest, rfl, blank, introduces⟩
  · rintro (⟨blank, introduces⟩ | ⟨before, b, rest, rfl, blank, introduces⟩)
    · exact ⟨[], c, s, rfl, blank, introduces⟩
    · exact ⟨c :: before, b, rest, rfl, blank, introduces⟩

/-- A quote after a name keeps it from being taken for an attribute. -/
theorem any_after_quote (absent : '"' ∉ name) (s t : List Char) :
    (after name (s ++ '"' :: t)).any endsWord = true ↔ Introduces name s := by
  rw [after_append_cons absent]
  constructor
  · intro found
    cases start : after name s with
    | none => simp [start] at found
    | some rest =>
      rw [start] at found
      cases rest with
      | nil => cases found
      | cons c rest => exact ⟨c, rest, eq_append_of_after start, by simpa using found⟩
  · rintro ⟨c, rest, rfl, ends⟩
    simpa [after_append] using ends

theorem hasAttribute_quote (absent : '"' ∉ name) (fresh : Bool) (s : List Char) :
    hasAttribute name fresh (s ++ ['"', ')']) = true ↔
      (fresh = true ∧ Introduces name s) ∨ HasWord name s := by
  induction s generalizing fresh with
  | nil =>
    have own : ¬Introduces name [] := by simp [Introduces]
    have word : ¬HasWord name [] := by simp [HasWord]
    have first := mt (any_after_quote absent [] [')']).mp own
    rw [Bool.not_eq_true, List.nil_append] at first
    have quote : isBlank '"' = false := rfl
    have bracket : isBlank ')' = false := rfl
    simp [hasAttribute_step, first, quote, bracket, hasAttribute_nil, own, word]
  | cons c s ih =>
    rw [List.cons_append, hasAttribute_step, Bool.or_eq_true, Bool.and_eq_true, ih, hasWord_cons,
      ← List.cons_append, any_after_quote absent]

theorem hasAttribute_of_visible (visible : ∀ c ∈ s, isBlank c = false) (name t : List Char) :
    hasAttribute name false (s ++ t) = hasAttribute name false t := by
  induction s with
  | nil => rfl
  | cons c s ih =>
    obtain ⟨own, others⟩ := List.forall_mem_cons.mp visible
    rw [List.cons_append, hasAttribute_step, own, Bool.false_and, Bool.false_or]
    exact ih others

theorem hasAttribute_append_blank (blank : isBlank c = true) (absent : c ∉ name) (fresh : Bool)
    (s t : List Char) : hasAttribute name fresh (s ++ c :: t) =
      (hasAttribute name fresh s || hasAttribute name true t) := by
  have widened (s : List Char) :
      (after name (s ++ c :: t)).any endsWord = (after name s).any endsWord := by
    rw [after_append_cons absent]
    cases after name s with
    | none => rfl
    | some rest =>
      cases rest with
      | nil => simp [blank, endsWord]
      | cons => rfl
  induction s generalizing fresh with
  | nil =>
    have first := widened []
    rw [List.nil_append] at first ⊢
    rw [hasAttribute_step, first, blank, hasAttribute_nil]
  | cons d s ih =>
    rw [List.cons_append, hasAttribute_step, hasAttribute_step, ih, ← List.cons_append, widened,
      Bool.or_assoc]

namespace OtherAttribute

/-- The key ends where its parenthesis opens. -/
theorem key_eq {word : List Char} (a : OtherAttribute) (spelled : ∀ c ∈ word, isWordChar c = true)
    (stops : isWordChar d = false) (split : a.key ++ '(' :: s = word ++ d :: t) : a.key = word := by
  have bracket : isWordChar '(' = false := by decide +kernel
  have own : (a.key ++ '(' :: s).takeWhile isWordChar = a.key := by
    simp [List.takeWhile_append_of_pos a.word, bracket]
  have other : (word ++ d :: t).takeWhile isWordChar = word := by
    simp [List.takeWhile_append_of_pos spelled, stops]
  rw [← own, split, other]

/-- The quotes cut the text at places that no name of an attribute reaches over. -/
theorem text_eq (a : OtherAttribute) :
    a.text = ('@' :: (a.key ++ ['('])) ++ '"' :: (a.literal ++ '"' :: [')']) := by
  simp [text, body]

/-- Another key is not taken for the name. -/
theorem not_begins {word : List Char} (a : OtherAttribute)
    (spelled : ∀ c ∈ word, isWordChar c = true) (other : a.key ≠ word) (s : List Char) :
    (after word (a.key ++ '(' :: s)).any endsWord = false := by
  have bracket : isWordChar '(' = false := by decide +kernel
  cases begins : after word (a.key ++ '(' :: s) with
  | none => rfl
  | some rest =>
    have split := eq_append_of_after begins
    cases rest with
    | nil =>
      have member : '(' ∈ word := by
        rw [List.append_nil] at split
        simp [← split]
      exact absurd member (not_mem_of_isWordChar spelled bracket)
    | cons c rest =>
      refine Bool.eq_false_iff.mpr fun ends => ?_
      have ends : isBlank c = true ∨ c = '(' := by simpa using ends
      have stops : isWordChar c = false := by
        rcases ends with blank | rfl
        · by_contra wordChar
          rw [not_isBlank_of_isWordChar (by simpa using wordChar)] at blank
          cases blank
        · exact bracket
      exact other (a.key_eq spelled stops split)

theorem hasAttribute_text {word : List Char} (a : OtherAttribute)
    (spelled : ∀ c ∈ word, isWordChar c = true) (other : a.key ≠ word) :
    hasAttribute ('@' :: word) true a.text = true ↔ HasWord ('@' :: word) a.literal := by
  have unquoted : '"' ∉ '@' :: word := by
    have absent := not_mem_of_isWordChar spelled (c := '"') (by decide +kernel)
    simpa using absent
  have visible : ∀ c ∈ a.key ++ ['(', '"'], isBlank c = false := by
    have marks : ∀ c ∈ ['(', '"'], isBlank c = false := visible_of_all rfl
    intro c member
    rcases List.mem_append.mp member with own | mark
    · exact not_isBlank_of_isWordChar (a.word c own)
    · exact marks c mark
  have split : a.text = '@' :: ((a.key ++ ['(', '"']) ++ (a.literal ++ ['"', ')'])) := by
    simp [text, body]
  have start : (after ('@' :: word) a.text).any endsWord = false := by
    rw [split, after, if_pos rfl, List.append_assoc]
    exact a.not_begins spelled other _
  have sign : isBlank '@' = false := rfl
  rw [split] at start ⊢
  rw [hasAttribute_step, start, sign, Bool.and_false, Bool.false_or,
    hasAttribute_of_visible visible, hasAttribute_quote unquoted]
  simp

end OtherAttribute

end hasAttribute

section opening
variable {name word : List Char}

namespace OtherAttribute

/-- What begins with the sign of an attribute and does not begin at the key is found in the
literal. -/
theorem firstIn_text (a : OtherAttribute) (signed : name = '@' :: word) (unquoted : '"' ∉ word)
    (other : after word (a.key ++ ['(']) = none) :
    firstIn (after name) a.text = (firstIn (after name) a.literal).map (· ++ ['"', ')']) := by
  subst signed
  have absent : '"' ∉ '@' :: word := by simpa using unquoted
  have needs := needsOpening_after ('@' :: word)
  have key : firstIn (after ('@' :: word)) ('@' :: (a.key ++ ['('])) = none := by
    have unsigned : '@' ∉ a.key ++ ['('] := by
      have own := not_mem_of_isWordChar a.word (c := '@') (by decide +kernel)
      simpa using own
    rw [firstIn, after, if_pos rfl, other]
    exact firstIn_of_not_mem needs (.head _) unsigned
  have bracket : firstIn (after ('@' :: word)) [')'] = none :=
    firstIn_of_not_mem needs (.head _) (by decide)
  rw [text_eq, firstIn_append_cons (after_append_cons absent · _), key,
    firstIn_append_cons (after_append_cons absent · _), bracket]
  simp

theorem after_objectId (a : OtherAttribute) :
    after "db.ObjectId".toList (a.key ++ ['(']) = none := by
  by_contra found
  obtain ⟨rest, begins⟩ := Option.ne_none_iff_exists'.mp found
  have split := eq_append_of_after begins
  have member : '.' ∈ a.key ++ ['('] := by
    rw [split]
    exact List.mem_append_left _ (by decide)
  have absent := not_mem_of_isWordChar a.word (c := '.') (by decide +kernel)
  simp [absent] at member

theorem after_relation (a : OtherAttribute) :
    after "relation(".toList (a.key ++ ['(']) = none := by
  by_contra found
  obtain ⟨rest, begins⟩ := Option.ne_none_iff_exists'.mp found
  have split := eq_append_of_after begins
  have spelled : ∀ c ∈ "relation".toList, isWordChar c = true :=
    List.all_eq_true.mp (by decide +kernel)
  have same : a.key = "relation".toList := a.key_eq spelled (by decide +kernel) split
  exact a.other (by simp [same])

end OtherAttribute

end opening

section relation
variable {opening s t v : List Char}

theorem bracketed_eq_some_iff : bracketed opening s = some v ↔
    ∃ gap rest, s = opening ++ (gap ++ '[' :: (v ++ ']' :: rest)) ∧
      (∀ c ∈ gap, isBlank c = true) ∧ ']' ∉ v := by
  constructor
  · intro found
    obtain ⟨rest, begins, found⟩ := Option.bind_eq_some_iff.mp found
    obtain ⟨inner, bracket, found⟩ := Option.bind_eq_some_iff.mp found
    obtain ⟨absent, last, rfl⟩ := eq_append_of_upTo found
    have blank : ∀ c ∈ rest.takeWhile isBlank, isBlank c = true :=
      fun c member => (List.mem_takeWhile_imp member)
    have inside : trimStart rest = '[' :: (v ++ ']' :: last) := eq_append_of_after bracket
    refine ⟨rest.takeWhile isBlank, last, ?_, blank, absent⟩
    rw [eq_append_of_after begins, ← inside, trimStart, List.takeWhile_append_dropWhile]
  · rintro ⟨gap, rest, rfl, blank, absent⟩
    exact bracketed_append gap blank absent opening rest

theorem bracketed_append_of_some (found : bracketed opening s = some v) (t : List Char) :
    bracketed opening (s ++ t) = some v := by
  obtain ⟨gap, rest, rfl, blank, absent⟩ := bracketed_eq_some_iff.mp found
  exact bracketed_eq_some_iff.mpr ⟨gap, rest ++ t, by simp, blank, absent⟩

/-- A text with a closing bracket holds all that is read from it, whatever follows. -/
theorem bracketed_append_of_none (missing : bracketed opening s = none) (absent : ']' ∉ opening)
    (closes : ']' ∈ s) (t : List Char) : bracketed opening (s ++ t) = none := by
  by_contra found
  obtain ⟨v, found⟩ := Option.ne_none_iff_exists'.mp found
  obtain ⟨gap, rest, split, blank, inside⟩ := bracketed_eq_some_iff.mp found
  have unclosed : ']' ∉ opening ++ (gap ++ '[' :: v) := by
    have visible : ']' ∉ gap := fun member => by cases blank ']' member
    simp [absent, visible, inside]
  have split : s ++ t = (opening ++ (gap ++ '[' :: v)) ++ ']' :: rest := by simpa using split
  rcases List.append_eq_append_iff.mp split with ⟨x, longer, _⟩ | ⟨x, whole, others⟩
  · exact unclosed (longer ▸ List.mem_append_left _ closes)
  · cases x with
    | nil =>
      rw [List.append_nil] at whole
      exact unclosed (whole ▸ closes)
    | cons c x =>
      obtain ⟨rfl, _⟩ := List.cons.inj others
      have found : bracketed opening s = some v :=
        bracketed_eq_some_iff.mpr ⟨gap, x, by simpa using whole, blank, inside⟩
      rw [missing] at found
      cases found

theorem firstIn_bracketed_append (absent : ']' ∉ opening)
    (found : firstIn (bracketed opening) s = some v) (t : List Char) :
    firstIn (bracketed opening) (s ++ t) = some v := by
  induction s with
  | nil => exact firstIn_of_some (bracketed_append_of_some (s := []) found t)
  | cons c s ih =>
    rw [firstIn] at found
    split at found
    case h_1 first =>
      cases found
      exact firstIn_of_some (bracketed_append_of_some first t)
    case h_2 missing =>
      obtain ⟨rest, later, reads⟩ := exists_suffix_of_firstIn found
      obtain ⟨_, _, split, _⟩ := bracketed_eq_some_iff.mp reads
      have closes : ']' ∈ c :: s := by
        refine List.mem_cons_of_mem c (later.subset ?_)
        simp [split]
      have none := bracketed_append_of_none missing absent closes t
      rw [List.cons_append] at none ⊢
      rw [firstIn, none]
      exact ih found

theorem takeWhile_append_cons {p : Char → Bool} (stops : p c = false) (s t : List Char) :
    (s ++ c :: t).takeWhile p = s.takeWhile p := by
  induction s with
  | nil => simp [stops]
  | cons d s ih => simp only [List.cons_append, List.takeWhile_cons, ih]

/-- A parenthesis ends every word. -/
theorem wordAfter_append_cons (absent : ')' ∉ opening) (s t : List Char) :
    wordAfter opening (s ++ ')' :: t) = wordAfter opening s := by
  have ended : isWordChar ')' = false := by decide +kernel
  have same (rest : List Char) : (trimStart (rest ++ ')' :: t)).takeWhile isWordChar =
      (trimStart rest).takeWhile isWordChar := by
    have visible : isBlank ')' = false := rfl
    rw [trimStart, List.dropWhile_append]
    split
    case isTrue empty =>
      have empty : trimStart rest = [] := List.isEmpty_iff.mp empty
      simp [empty, visible, ended]
    case isFalse => exact takeWhile_append_cons ended _ t
  simp only [wordAfter, after_append_cons absent]
  cases after opening s with
  | none => rfl
  | some rest => simp only [Option.map_some, Option.bind_eq_bind, Option.bind_some, same]

variable {arguments : List Char} {label : String}

theorem namesIn_append_iff (absent : ']' ∉ label.toList) :
    namesIn label (s ++ t) = namesIn label s ↔
      (firstIn (bracketed label.toList) s).isSome = true ∨ namesIn label (s ++ t) = [] := by
  cases found : firstIn (bracketed label.toList) s with
  | none => simp [namesIn, found]
  | some list => simp [namesIn, found, firstIn_bracketed_append absent found t]

theorem actionIn_append_iff (absent : ')' ∉ label.toList) :
    actionIn label (s ++ ')' :: t) = actionIn label s ↔
      (firstIn (wordAfter label.toList) s).isSome = true ∨
        actionIn label (s ++ ')' :: t) = none := by
  have own (s : List Char) : wordAfter label.toList (s ++ ')' :: t) =
      (wordAfter label.toList s).map id := by
    rw [wordAfter_append_cons absent, Option.map_id, id]
  cases found : firstIn (wordAfter label.toList) s with
  | none => simp [actionIn, found]
  | some word => simp [actionIn, found, firstIn_append_cons own]

theorem readRelation_append_iff (arguments t : List Char) :
    readRelation (arguments ++ ')' :: t) = readRelation arguments ↔
      Settles arguments (arguments ++ ')' :: t) := by
  simp only [readRelation, Relation.mk.injEq, true_and]
  rw [namesIn_append_iff (by decide), namesIn_append_iff (by decide),
    actionIn_append_iff (by decide), actionIn_append_iff (by decide)]
  constructor
  · rintro ⟨fields, references, onDelete, onUpdate⟩
    exact ⟨fields, references, onDelete, onUpdate⟩
  · rintro ⟨fields, references, onDelete, onUpdate⟩
    exact ⟨fields, references, onDelete, onUpdate⟩

theorem relationArguments_eq_bind (s : List Char) : relationArguments s =
    (firstIn (after "@relation(".toList) s).bind (upToLast ')') :=
  firstIn_upToLast (by decide) s

section appended
variable {attributes : List Char} {rest : List Char}

/-- The relation that the attributes give now reaches to the end of the line. -/
theorem OtherAttribute.relationArguments_of_some (a : OtherAttribute)
    (found : firstIn (after "@relation(".toList) attributes = some rest) :
    relationArguments (attributes ++ ' ' :: a.text) = some (rest ++ ' ' :: a.body) := by
  have absent : ' ' ∉ "@relation(".toList := by decide
  rw [relationArguments_eq_bind, firstIn_append_cons (after_append_cons absent · _), found,
    Option.map_some, Option.some_or, Option.bind_some]
  simpa [OtherAttribute.text] using upToLast_concat ')' (rest ++ ' ' :: a.body)

/-- Without a relation among the attributes one is looked for in the literal. -/
theorem OtherAttribute.relationArguments_of_none (a : OtherAttribute)
    (missing : firstIn (after "@relation(".toList) attributes = none) :
    relationArguments (attributes ++ ' ' :: a.text) =
      (firstIn (after "@relation(".toList) a.literal).map (· ++ ['"']) := by
  have absent : ' ' ∉ "@relation(".toList := by decide
  have signed : "@relation(".toList = '@' :: "relation(".toList := by decide
  rw [relationArguments_eq_bind, firstIn_append_cons (after_append_cons absent · _), missing,
    Option.map_none, Option.none_or, a.firstIn_text signed (by decide) a.after_relation]
  cases firstIn (after "@relation(".toList) a.literal with
  | none => rfl
  | some rest => simpa using upToLast_concat ')' (rest ++ ['"'])

end appended

theorem OtherAttribute.relation_append_iff (a : OtherAttribute) (attributes : List Char) :
    (relationArguments (attributes ++ ' ' :: a.text)).map readRelation =
        (relationArguments attributes).map readRelation ↔ a.Unrelated attributes := by
  cases found : firstIn (after "@relation(".toList) attributes with
  | none =>
    have lacks : ¬"@relation(".toList <:+: attributes := by
      rw [← isSome_firstIn_after, found]
      exact Bool.false_ne_true
    rw [a.relationArguments_of_none found, relationArguments_eq_bind, found, Option.bind_none,
      Option.map_none, Option.map_eq_none_iff, Option.map_eq_none_iff,
      ← Option.not_isSome_iff_eq_none, isSome_firstIn_after]
    constructor
    · intro clear
      refine ⟨fun _ => clear, fun rest other => ?_⟩
      rw [found] at other
      cases other
    · intro unrelated
      exact unrelated.none lacks
  | some rest =>
    have given : "@relation(".toList <:+: attributes := by
      rw [← isSome_firstIn_after, found]
      rfl
    rw [a.relationArguments_of_some found, relationArguments_eq_bind, found, Option.bind_some]
    cases closed : upToLast ')' rest with
    | none =>
      refine ⟨nofun, fun unrelated => ?_⟩
      obtain ⟨arguments, ended, _⟩ := unrelated.settled rest found
      rw [closed] at ended
      cases ended
    | some arguments =>
      obtain ⟨tail, rfl⟩ := eq_append_of_upToLast closed
      rw [Option.map_some, Option.map_some, Option.some_inj, List.append_assoc, List.cons_append,
        readRelation_append_iff]
      constructor
      · intro settled
        refine ⟨fun lacks => absurd given lacks, fun rest' again => ?_⟩
        obtain rfl := Option.some.inj (found.symm.trans again)
        exact ⟨arguments, closed, by simpa using settled⟩
      · intro unrelated
        obtain ⟨arguments', ended, settled⟩ := unrelated.settled _ found
        obtain rfl := Option.some.inj (closed.symm.trans ended)
        simpa using settled

end relation

section field
variable {attributes s t : List Char}

theorem OtherAttribute.hasAttribute_append_iff (a : OtherAttribute) (name word : List Char)
    (signed : name = '@' :: word) (spelled : ∀ c ∈ word, isWordChar c = true)
    (other : a.key ≠ word) (attributes : List Char) :
    hasAttribute name true (attributes ++ ' ' :: a.text) = hasAttribute name true attributes ↔
      hasAttribute name true attributes = true ∨ ¬HasWord name a.literal := by
  have absent : ' ' ∉ name := by
    have spaceless := not_mem_of_isWordChar spelled (c := ' ') (by decide +kernel)
    simpa [signed] using spaceless
  rw [hasAttribute_append_blank rfl absent, signed, ← a.hasAttribute_text spelled other]
  cases hasAttribute ('@' :: word) true attributes <;> simp

theorem OtherAttribute.objectId_append_iff (a : OtherAttribute) (attributes : List Char) :
    Text.contains "@db.ObjectId".toList (attributes ++ ' ' :: a.text) =
        Text.contains "@db.ObjectId".toList attributes ↔
      "@db.ObjectId".toList <:+: attributes ∨ ¬"@db.ObjectId".toList <:+: a.literal := by
  have absent : ' ' ∉ "@db.ObjectId".toList := by decide
  have signed : "@db.ObjectId".toList = '@' :: "db.ObjectId".toList := by decide
  rw [Text.contains, Text.contains, firstIn_append_cons (after_append_cons absent · _),
    a.firstIn_text signed (by decide) a.after_objectId, ← isSome_firstIn_after,
    ← isSome_firstIn_after]
  cases firstIn (after "@db.ObjectId".toList) attributes <;>
    cases firstIn (after "@db.ObjectId".toList) a.literal <;> simp

theorem OtherAttribute.readField_append_iff (a : OtherAttribute)
    (name type attributes : List Char) :
    readField name type (attributes ++ ' ' :: a.text) = readField name type attributes ↔
      a.Harmless attributes := by
  have id := a.hasAttribute_append_iff "@id".toList "id".toList (by decide)
    (List.all_eq_true.mp (by decide +kernel)) (fun same => a.other (by simp [same])) attributes
  have unique := a.hasAttribute_append_iff "@unique".toList "unique".toList (by decide)
    (List.all_eq_true.mp (by decide +kernel)) (fun same => a.other (by simp [same])) attributes
  simp only [readField, Field.mk.injEq, true_and]
  rw [id, unique, a.objectId_append_iff, a.relation_append_iff]
  constructor
  · rintro ⟨unique, objectId, id, relation⟩
    exact ⟨id, unique, objectId, relation⟩
  · rintro ⟨id, unique, objectId, relation⟩
    exact ⟨unique, objectId, id, relation⟩

theorem readField_cons (blank : isBlank c = true) (name type s : List Char) :
    readField name type (c :: s) = readField name type s := by
  have differs : c ≠ '@' := by
    rintro rfl
    cases blank
  have skipped (word : List Char) : skips ('@' :: word) [c] = true :=
    skips_of_not_mem_head (by simpa using differs.symm) word
  have flag (word : List Char) :
      hasAttribute ('@' :: word) true (c :: s) = hasAttribute ('@' :: word) true s := by
    rw [hasAttribute_cons differs, blank]
  have objectId : Text.contains "@db.ObjectId".toList (c :: s) =
      Text.contains "@db.ObjectId".toList s :=
    congrArg Option.isSome (firstIn_append (s := [c]) (needsOpening_after _) (skipped _) s)
  have relation : relationArguments (c :: s) = relationArguments s :=
    firstIn_append (s := [c]) (needsOpening_bind _ _) (skipped _) s
  obtain ⟨id, unique, _, _⟩ := toList_word
  rw [readField, readField, id, unique, flag, flag, objectId, relation]

/-- White space before attributes tells nothing. -/
theorem readField_trimStart (name type s t : List Char) :
    readField name type (trimStart s ++ t) = readField name type (s ++ t) := by
  induction s with
  | nil => rfl
  | cons c s ih =>
    by_cases blank : isBlank c = true
    · rw [List.cons_append, readField_cons blank, ← ih, trimStart,
        List.dropWhile_cons_of_pos blank, trimStart]
    · rw [trimStart, List.dropWhile_cons_of_neg blank]

end field

section line
variable {s : List Char}

theorem afterWord_append_space (filled : words s ≠ []) (t : List Char) :
    afterWord (s ++ ' ' :: t) = afterWord s ++ ' ' :: t := by
  have visible : ¬(s.dropWhile isBlank).isEmpty = true := by
    intro none
    have none : trimStart s = [] := List.isEmpty_iff.mp none
    rw [← words_trimStart, none] at filled
    exact filled rfl
  have trimmed : trimStart (s ++ ' ' :: t) = trimStart s ++ ' ' :: t := by
    rw [trimStart, List.dropWhile_append, if_neg visible, trimStart]
  have blank : isBlank ' ' = true := rfl
  rw [afterWord, trimmed, List.dropWhile_append, afterWord]
  split
  case isTrue none => simp [List.isEmpty_iff.mp none, blank]
  case isFalse => rfl

theorem afterWord_suffix (s : List Char) : afterWord s <:+ s :=
  (List.dropWhile_suffix _).trans (trimStart_suffix s)

end line

theorem readField_attributesOn {line : List Char} (a : OtherAttribute) (trimmed : trim line = line)
    (worded : words line = word :: other :: others) (name type : List Char) :
    readField name type (attributesOn (line ++ ' ' :: a.text)) =
      readField name type (attributesOn line ++ ' ' :: a.text) := by
  have first := afterWord_append_space (s := line) (by simp [worded]) a.text
  have second :=
    afterWord_append_space (s := afterWord line) (by simp [words_afterWord, worded]) a.text
  have last := visible_last_of_suffix ((afterWord_suffix _).trans (afterWord_suffix line))
    (visible_last_of_trim trimmed)
  have closed :
      ∀ c ∈ (afterWord (afterWord line) ++ ' ' :: a.text).getLast?, isBlank c = false := by
    intro c ends
    have closing : (afterWord (afterWord line) ++ ' ' :: a.text).getLast? = some ')' := by
      simp [OtherAttribute.text, List.getLast?_append, List.getLast?_cons]
    rw [closing] at ends
    cases ends
    rfl
  have whole := readField_trimStart name type (afterWord (afterWord line) ++ ' ' :: a.text) []
  rw [List.append_nil, List.append_nil] at whole
  rw [attributesOn, first, second, trim_of_visible_last closed, whole, attributesOn,
    trim_of_visible_last last, readField_trimStart]

theorem addField_inj {t : Table} : addField t f = addField t g ↔ f = g := by
  constructor
  · intro same
    have fields : t.fields ++ [f] = t.fields ++ [g] := congrArg Table.fields same
    simpa using fields
  · rintro rfl
    rfl

/-- Another attribute changes nothing exactly when its literal holds nothing that the reader looks
for and does not have yet. -/
theorem other_attribute_ignored_iff {t read : Table} {line : List Char} (a : OtherAttribute)
    (trimmed : trim line = line) (plain : after ['@', '@'] line = none)
    (accepted : readModelLine t number line = .ok read) :
    ∃ read', readModelLine t number (line ++ ' ' :: a.text) = .ok read' ∧
      (read' = read ↔ a.Harmless (attributesOn line)) := by
  have plain' : after ['@', '@'] (line ++ ' ' :: a.text) = none := by
    rw [after_append_cons (by decide), plain]
    rfl
  rw [readModelLine_plain plain] at accepted
  rw [readModelLine_plain plain']
  unfold fieldOn? at accepted ⊢
  cases worded : words line with
  | nil => simp [worded] at accepted
  | cons name others =>
    cases others with
    | nil => simp [worded] at accepted
    | cons type others =>
      have worded' : words (line ++ ' ' :: a.text) = name :: type :: (others ++ words a.text) := by
        rw [words_append rfl, worded]
        rfl
      rw [worded] at accepted
      rw [worded', ← a.readField_append_iff name type, ← readField_attributesOn a trimmed worded]
      cases accepted
      exact ⟨_, rfl, addField_inj⟩

/-- The writer of a post. -/
def writerLine : List Char :=
  "author User @relation(fields: [authorId], references: [id])".toList

/-- A comment with a word of the reader's own in it, which the relation has given before. -/
def commented : OtherAttribute where
  key := "comment".toList
  literal := "fields: [authorId] on id".toList
  word := List.all_eq_true.mp (by decide +kernel)
  other := by decide
  unquoted := by decide

theorem commented_harmless : commented.Harmless (attributesOn writerLine) := by
  have text : attributesOn writerLine =
      "@relation(fields: [authorId], references: [id])".toList := by decide +kernel
  have unsigned (name : List Char) : ¬HasWord ('@' :: name) commented.literal := by
    rintro ⟨before, b, rest, split, _, c, after, rfl, _⟩
    have member : '@' ∈ commented.literal := by
      rw [split]
      simp
    exact absurd member (by decide)
  rw [text]
  refine ⟨.inr (unsigned _), .inr (unsigned _), .inr (by decide), ⟨fun _ => by decide, ?_⟩⟩
  intro rest found
  have opened : firstIn (after "@relation(".toList)
      "@relation(fields: [authorId], references: [id])".toList =
        some "fields: [authorId], references: [id])".toList := by decide
  obtain rfl := Option.some.inj (opened.symm.trans found)
  refine ⟨"fields: [authorId], references: [id]".toList, by decide, ?_⟩
  exact ⟨.inl (by decide), .inl (by decide), .inr (by decide +kernel), .inr (by decide +kernel)⟩

theorem commented_ignored : ∃ read,
    readModelLine { name := "Post" } 2 writerLine = .ok read ∧
      readModelLine { name := "Post" } 2 (writerLine ++ ' ' :: commented.text) = .ok read := by
  have accepted : ∃ read, readModelLine { name := "Post" } 2 writerLine = .ok read := by
    rw [readModelLine_plain (by decide)]
    exact ⟨_, rfl⟩
  obtain ⟨read, accepted⟩ := accepted
  obtain ⟨read', appended, same⟩ :=
    other_attribute_ignored_iff commented (by decide) (by decide) accepted
  rw [same.mpr commented_harmless] at appended
  exact ⟨read, accepted, appended⟩

/-- A default with the word of an attribute in it. -/
def quotedUnique : OtherAttribute where
  key := "default".toList
  literal := " @unique ".toList
  word := List.all_eq_true.mp (by decide +kernel)
  other := by decide
  unquoted := by decide

theorem quoted_unique_read :
    readModelLine { name := "Page" } 3 "note String".toList =
        .ok { name := "Page", fields := [{ name := "note", type := "String" }] } ∧
      readModelLine { name := "Page" } 3 ("note String".toList ++ ' ' :: quotedUnique.text) =
        .ok {
          name := "Page"
          fields := [{ name := "note", type := "String", isUnique := true }] } := by
  decide +kernel

end Conform.Schema.Source
