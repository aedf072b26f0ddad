import Conform.Proofs.Schema.ReadBack
import Conform.Proofs.Text.Offset

/-! Reading by byte offsets. A line is cut before its comment, and the line of a field behind its
name and behind its type, at offsets that are counted in one pass over the text and used in another.
Each of them lies in the text it is used for and between two characters, so that reading by offsets
never stops at a cut. -/
namespace Conform.Schema

namespace Source

open Text

/-- Why reading by offsets stops: the source is malformed, or a text has no cut where one is
asked for. -/
inductive Stop where
  | malformed (fault : Fault)
  | noCut (text : List Char) (offset : Nat)
  deriving DecidableEq, Repr

/-- The text before the offset, if it can be cut there. -/
def sliceTo (offset : Nat) (s : List Char) : Except Stop (List Char) :=
  match cutAt? offset s with
  | some (front, _) => .ok front
  | none => .error (.noCut s offset)

/-- The text after the offset, if it can be cut there. -/
def sliceFrom (offset : Nat) (s : List Char) : Except Stop (List Char) :=
  match cutAt? offset s with
  | some (_, rest) => .ok rest
  | none => .error (.noCut s offset)

/-- The offset of the second slash of a comment. `previous` is the character that was read last, and
`offset` the number of bytes read so far. -/
def secondSlash? (quoted : Bool) (previous : Char) (offset : Nat) : List Char → Option Nat
  | [] => none
  | c :: rest =>
    if c == '/' && !quoted && previous == '/' then some offset
    else secondSlash? (if c == '"' && previous != '\\' then !quoted else quoted) c
      (offset + c.utf8Size) rest

/-- The line before its comment, which begins one byte before the second slash. -/
def uncommentByOffset (line : List Char) : Except Stop (List Char) :=
  match secondSlash? false '\x00' 0 line with
  | none => .ok line
  | some 0 => .error (.noCut line 0)
  | some (offset + 1) => sliceTo offset line

/-- The text behind the first two words of a line, which are cut off one after the other. -/
def attributesByOffset (name type line : List Char) : Except Stop (List Char) := do
  let rest ← sliceFrom (byteSize name) line
  let attributes ← sliceFrom (byteSize type) (trimStart rest)
  return trim attributes

def readModelLineByOffset (t : Table) (number : Nat) (line : List Char) : Except Stop Table :=
  if (after ['@', '@'] line).isSome then .ok (readBlockAttribute t line)
  else match words line with
    | name :: type :: _ => do
      let attributes ← attributesByOffset name type line
      return addField t (readField name type attributes)
    | _ => .error (.malformed (.fieldWithoutType t.name number (String.ofList line)))

/-- Takes in one line. Only the lines of an open model are cut. -/
def Progress.stepByOffset (p : Progress) (number : Nat) (line : List Char) :
    Except Stop Progress :=
  match p.block, line.isEmpty || line == ['\x7d'] with
  | some (.model table, opened), false =>
    (readModelLineByOffset table number line).map fun table =>
      { p with block := some (.model table, opened) }
  | _, _ => (p.step number line).mapError .malformed

def Progress.runByOffset (p : Progress) (number : Nat) : List (List Char) → Except Stop Progress
  | [] => .ok p
  | line :: rest => do
    let text ← uncommentByOffset line
    (← p.stepByOffset number (trim text)).runByOffset (number + 1) rest

def withoutReturn (line : List Char) : List Char := (line.dropSuffix? ['\r']).getD line

/-- The lines of which the text between line feeds is given. A carriage return before a line feed is
part of the break, and after the last one there is a line only if something stands there. -/
def withoutBreaks : List (List Char) → List (List Char)
  | [] => []
  | [last] => if last.isEmpty then [] else [last]
  | line :: rest => withoutReturn line :: withoutBreaks rest

def readByOffset (source : String) : Except Stop (List Table × List Enumeration) := do
  let lines := withoutBreaks (lines source.toList)
  (← Progress.runByOffset {} 1 lines).finish.mapError .malformed

theorem sliceTo_append (front rest : List Char) :
    sliceTo (byteSize front) (front ++ rest) = .ok front := by
  rw [sliceTo, cutAt?_append]

theorem sliceFrom_append (front rest : List Char) :
    sliceFrom (byteSize front) (front ++ rest) = .ok rest := by
  rw [sliceFrom, cutAt?_append]

section comment
variable {quoted : Bool} {previous : Char} {s : List Char}

theorem uncomment_prefix (quoted escaped : Bool) (s : List Char) :
    uncomment quoted escaped s <+: s := by
  induction s generalizing quoted escaped with
  | nil => exact List.prefix_rfl
  | cons c s ih =>
    by_cases starts : StartsComment quoted c s
    · rw [uncomment_comment starts]
      exact List.nil_prefix
    · rw [uncomment_cons starts]
      exact (List.prefix_cons_inj c).mpr (ih _ _)

/-- The search goes on where no comment has begun with the character before. -/
theorem secondSlash?_cons (unstarted : ¬StartsComment quoted previous (c :: s)) (offset : Nat) :
    secondSlash? quoted previous offset (c :: s) =
      secondSlash? (if c == '"' && previous != '\\' then !quoted else quoted) c
        (offset + c.utf8Size) s := by
  rw [secondSlash?, if_neg]
  simp only [Bool.and_eq_true, beq_iff_eq, Bool.not_eq_true']
  rintro ⟨⟨rfl, unquoted⟩, rfl⟩
  exact unstarted ⟨⟨rfl, unquoted⟩, rfl⟩

/-- The second slash stands one byte behind the text before the comment. Looking back from it finds
the comment that looking ahead from the first slash finds. -/
theorem secondSlash?_eq (unstarted : ¬StartsComment quoted previous s) (offset : Nat) :
    secondSlash? quoted previous offset s = none ∧ uncomment quoted (previous == '\\') s = s ∨
      secondSlash? quoted previous offset s =
        some (offset + byteSize (uncomment quoted (previous == '\\') s) + 1) := by
  induction s generalizing quoted previous offset with
  | nil => exact .inl ⟨rfl, rfl⟩
  | cons c s ih =>
    rw [secondSlash?_cons unstarted]
    by_cases starts : StartsComment quoted c s
    · -- The slash takes one byte, and the next character is the second one.
      right
      rw [uncomment_comment starts]
      obtain ⟨⟨rfl, rfl⟩, second⟩ := starts
      obtain ⟨rest, rfl⟩ := List.head?_eq_some_iff.mp second
      rfl
    · rw [uncomment_cons starts]
      have later :
          ¬StartsComment (if c == '"' && previous != '\\' then !quoted else quoted) c s := by
        rintro ⟨⟨rfl, unquoted⟩, second⟩
        exact starts ⟨⟨rfl, unquoted⟩, second⟩
      rcases ih later (offset + c.utf8Size) with ⟨none, same⟩ | found
      · exact .inl ⟨none, congrArg (c :: ·) same⟩
      · right
        rw [found, byteSize_cons, ← Nat.add_assoc]
        rfl

theorem uncommentByOffset_eq (line : List Char) :
    uncommentByOffset line = .ok (uncomment false false line) := by
  have unstarted : ¬StartsComment false '\x00' line := fun starts => nomatch starts.1.1
  obtain ⟨rest, joined⟩ := uncomment_prefix false false line
  rw [uncommentByOffset]
  rcases secondSlash?_eq unstarted 0 with ⟨none, same⟩ | found
  · have same : uncomment false false line = line := same
    rw [none, same]
  · have cut := sliceTo_append (uncomment false false line) rest
    rw [joined] at cut
    rw [found, Nat.zero_add]
    exact cut

end comment

section line
variable {line : List Char}

/-- A line without white space before it is cut behind its first two words. -/
theorem attributesByOffset_eq (trimmed : trimStart line = line)
    (worded : words line = name :: type :: others) :
    attributesByOffset name type line = .ok (attributesOn line) := by
  have first : line = name ++ afterWord line := by
    rw [← trimStart_of_words worded, trimmed]
  have left : words (afterWord line) = type :: others := by
    rw [words_afterWord, worded, List.tail_cons]
  have named := sliceFrom_append name (afterWord line)
  have typed := sliceFrom_append type (afterWord (afterWord line))
  rw [← first] at named
  rw [← trimStart_of_words left] at typed
  simp only [attributesByOffset, named, typed, attributesOn, bind, Except.bind, pure, Except.pure]

example : attributesByOffset "größe".toList "Int".toList "größe\u3000Int\u2003@id".toList =
    .ok "@id".toList := by decide

theorem readModelLineByOffset_eq (trimmed : trimStart line = line) (t : Table) (number : Nat) :
    readModelLineByOffset t number line = (readModelLine t number line).mapError .malformed := by
  rw [readModelLineByOffset]
  split
  case isTrue marked =>
    rw [readModelLine, if_pos marked]
    rfl
  case isFalse plain =>
    rw [readModelLine_plain (by simpa using plain), fieldOn?]
    rcases worded : words line with _ | ⟨name, _ | ⟨type, others⟩⟩
    · rfl
    · rfl
    · dsimp only
      rw [attributesByOffset_eq trimmed worded]
      rfl

namespace Progress

theorem stepByOffset_eq (trimmed : trimStart line = line) (p : Progress) (number : Nat) :
    p.stepByOffset number line = (p.step number line).mapError .malformed := by
  unfold stepByOffset
  split
  case h_1 table opened inside goesOn =>
    obtain ⟨filled, open'⟩ := Bool.or_eq_false_iff.mp goesOn
    rw [readModelLineByOffset_eq trimmed, step, filled, inside]
    dsimp only
    rw [open']
    cases readModelLine table number line <;> rfl
  case h_2 => rfl

/-- Whatever lines there are, all of them are read without a bad cut. -/
theorem runByOffset_eq (p : Progress) (number : Nat) (lines : List (List Char)) :
    p.runByOffset number lines = (p.run number lines).mapError .malformed := by
  induction lines generalizing p number with
  | nil => rfl
  | cons line rest ih =>
    have step := p.stepByOffset_eq (trimStart_trim (uncomment false false line)) number
    rw [runByOffset, uncommentByOffset_eq, run]
    simp only [bind, Except.bind]
    rw [step]
    change _ = Except.mapError _ (p.step number (significant line) >>= _)
    rw [significant]
    cases p.step number (trim (uncomment false false line)) with
    | error => rfl
    | ok q => exact ih q (number + 1)

end Progress

/-- A carriage return at the end of a line is white space, or part of its comment. -/
theorem significant_withoutReturn (line : List Char) :
    significant (withoutReturn line) = significant line := by
  cases ends : line.dropSuffix? ['\r'] with
  | none => rw [withoutReturn, ends, Option.getD_none]
  | some rest =>
    obtain ⟨tail, rfl, same⟩ := List.dropSuffix?_eq_some_iff.mp ends
    obtain rfl : tail = ['\r'] := beq_iff_eq.mp same
    have none : ∀ c ∈ ([] : List Char), isBlank c = true := nofun
    have blank : ∀ c ∈ ['\r'], isBlank c = true := List.forall_mem_singleton.mpr rfl
    rw [withoutReturn, ends]
    exact (significant_padded none blank rest).symm

theorem Progress.run_withoutBreaks (p : Progress) (number : Nat) (pieces : List (List Char)) :
    p.run number (withoutBreaks pieces) = p.run number pieces := by
  fun_induction withoutBreaks pieces generalizing p number with
  | case1 => rfl
  | case2 last empty =>
    obtain rfl := List.isEmpty_iff.mp empty
    rfl
  | case3 => rfl
  | case4 line rest _ ih =>
    rw [run, run, significant_withoutReturn]
    cases p.step number (significant line) with
    | error => rfl
    | ok q => exact ih q (number + 1)

end line

theorem readByOffset_eq (source : String) :
    readByOffset source = (read source).mapError .malformed := by
  rw [readByOffset, Progress.runByOffset_eq, Progress.run_withoutBreaks, read_eq_readLines,
    readLines]
  cases Progress.run {} 1 (lines source.toList) <;> rfl

end Source

/-- The schema that a source declares, read by offsets. -/
def Model.ofSourceByOffset (source : String) : Except Source.Stop Model := do
  let (tables, enums) ← Source.readByOffset source
  (normalize tables enums).mapError .malformed

/-- A source read by offsets gives its schema or the fault that makes it malformed, and all cuts are
there that are asked for. -/
theorem ofSourceByOffset_eq (source : String) :
    Model.ofSourceByOffset source = (Model.ofSource source).mapError .malformed ∧
      ∀ text offset, Model.ofSourceByOffset source ≠ .error (.noCut text offset) := by
  have same : Model.ofSourceByOffset source = (Model.ofSource source).mapError .malformed := by
    rw [Model.ofSourceByOffset, Source.readByOffset_eq, Model.ofSource]
    cases Source.read source <;> rfl
  refine ⟨same, fun text offset stopped => ?_⟩
  rw [same] at stopped
  cases read : Model.ofSource source <;> rw [read] at stopped <;> cases stopped

end Conform.Schema
