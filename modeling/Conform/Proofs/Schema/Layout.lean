import Conform.Proofs.Text.Blank
import Conform.Proofs.Traversal
import Conform.Schema.Source

/-! The layout of a source. Sources are read one block after the other, and lines without text or
blocks of another kind between them change nothing but the line numbers of faults. -/
namespace Conform.Schema

/-- The fault with other line numbers. -/
def Fault.relocate (renumber : Nat → Nat) : Fault → Fault
  | notABlock line found => notABlock (renumber line) found
  | unterminated line kind name => unterminated (renumber line) kind name
  | fieldWithoutType table line found => fieldWithoutType table (renumber line) found
  | fault => fault

namespace Source

open Text

/-- A line of white space, or of a comment after white space. -/
inductive IsQuiet : List Char → Prop where
  | blank (indent : List Char) (blank : ∀ c ∈ indent, isBlank c = true) : IsQuiet indent
  | comment (indent remark : List Char) (blank : ∀ c ∈ indent, isBlank c = true) :
      IsQuiet (indent ++ '/' :: '/' :: remark)

/-- A whole block that is neither a model nor an enumeration. -/
structure SkippedBlock where
  header : List Char
  body : List (List Char)
  closing : List Char
  keyword : List Char
  name : List Char
  braces : List (List Char)
  headed : words (significant header) = keyword :: name :: braces
  braced : (significant header).getLast? = some '\x7b'
  named : ∃ c ∈ name, c ≠ '\x7b'
  other : keyword ≠ "model".toList ∧ keyword ≠ "enum".toList
  continued : ∀ line ∈ body, significant line ≠ ['\x7d']
  closed : significant closing = ['\x7d']

def SkippedBlock.lines (block : SkippedBlock) : List (List Char) :=
  block.header :: (block.body ++ [block.closing])

/-- After these lines no block is open. -/
def BetweenBlocks (before : List (List Char)) : Prop :=
  ∀ p, Progress.run {} 1 before = .ok p → p.block = none

/-- Line numbers after `count` lines are put in below line `place`. -/
def later (place count number : Nat) : Nat := if number ≤ place then number else number + count

/-- The lines of a source with another layout, and what becomes of their numbers. -/
inductive Relaid : List (List Char) → List (List Char) → (Nat → Nat) → Prop where
  | same (lines : List (List Char)) : Relaid lines lines id
  | quiet (before after : List (List Char)) {line : List Char} (quiet : IsQuiet line) :
      Relaid (before ++ after) (before ++ ([line] ++ after)) (later before.length 1)
  | padded (before after : List (List Char)) (line : List Char) {left right : List Char}
      (blankLeft : ∀ c ∈ left, isBlank c = true) (blankRight : ∀ c ∈ right, isBlank c = true) :
      Relaid (before ++ line :: after) (before ++ (left ++ (line ++ right)) :: after) id
  | skipped (before after : List (List Char)) (block : SkippedBlock)
      (between : BetweenBlocks before) :
      Relaid (before ++ after) (before ++ (block.lines ++ after))
        (later before.length block.lines.length)
  | trans {lines relaid again : List (List Char)} {renumber renumber' : Nat → Nat}
      (first : Relaid lines relaid renumber) (second : Relaid relaid again renumber') :
      Relaid lines again (renumber' ∘ renumber)

section significant
variable {left right : List Char}

theorem not_special_of_isBlank {c : Char} (blank : isBlank c = true) :
    c ≠ '/' ∧ c ≠ '"' ∧ c ≠ '\\' := by
  refine ⟨?_, ?_, ?_⟩ <;> rintro rfl <;> revert blank <;> decide

/-- A comment starts at the first of two slashes outside string literals. -/
def StartsComment (quoted : Bool) (c : Char) (rest : List Char) : Prop :=
  (c = '/' ∧ quoted = false) ∧ rest.head? = some '/'

section
variable {quoted : Bool} {c : Char} {rest : List Char}

theorem uncomment_comment (starts : StartsComment quoted c rest) (escaped : Bool) :
    uncomment quoted escaped (c :: rest) = [] := by
  obtain ⟨⟨rfl, rfl⟩, second⟩ := starts
  simp [uncomment, second]

theorem uncomment_cons (passes : ¬StartsComment quoted c rest) (escaped : Bool) :
    uncomment quoted escaped (c :: rest) =
      c :: uncomment (if c == '"' && !escaped then !quoted else quoted) (c == '\\') rest := by
  have open' : (c == '/' && !quoted && rest.head? == some '/') = false := by
    rw [Bool.eq_false_iff]
    intro comment
    apply passes
    simpa [StartsComment] using comment
  rw [uncomment, open']
  rfl

end

/-- White space opens no string literal and no comment. -/
theorem uncomment_append_left (blank : ∀ c ∈ left, isBlank c = true) (line : List Char) :
    uncomment false false (left ++ line) = left ++ uncomment false false line := by
  induction left with
  | nil => rfl
  | cons c left ih =>
    obtain ⟨own, others⟩ := List.forall_mem_cons.mp blank
    obtain ⟨slash, quote, backslash⟩ := not_special_of_isBlank own
    have escapes : (c == '\\') = false := by simpa using backslash
    rw [List.cons_append, uncomment_cons fun comment => slash comment.1.1, escapes]
    simp [quote, ih others]

/-- White space at the end stays there, or is part of the comment. -/
theorem uncomment_append_right (blank : ∀ c ∈ right, isBlank c = true) (quoted escaped : Bool)
    (line : List Char) : ∃ rest : List Char, (∀ c ∈ rest, isBlank c = true) ∧
      uncomment quoted escaped (line ++ right) = uncomment quoted escaped line ++ rest := by
  have unstarted : right.head? ≠ some '/' := by
    intro first
    exact (not_special_of_isBlank (blank _ (List.mem_of_mem_head? first))).1 rfl
  induction line generalizing quoted escaped with
  | nil =>
    refine ⟨right, blank, ?_⟩
    clear unstarted
    induction right generalizing quoted escaped with
    | nil => rfl
    | cons c right ih =>
      obtain ⟨own, others⟩ := List.forall_mem_cons.mp blank
      obtain ⟨slash, quote, _⟩ := not_special_of_isBlank own
      have same := ih others quoted (c == '\\')
      rw [List.nil_append] at same ⊢
      rw [uncomment_cons fun comment => slash comment.1.1]
      simpa [quote, uncomment] using same
  | cons c line ih =>
    have start : StartsComment quoted c (line ++ right) ↔ StartsComment quoted c line := by
      cases line with
      | nil => simp [StartsComment, unstarted]
      | cons => rfl
    by_cases comment : StartsComment quoted c line
    · refine ⟨[], nofun, ?_⟩
      rw [List.cons_append, uncomment_comment (start.mpr comment), uncomment_comment comment,
        List.append_nil]
    · obtain ⟨rest, blank, same⟩ := ih
        (if c == '"' && !escaped then !quoted else quoted) (c == '\\')
      refine ⟨rest, blank, ?_⟩
      rw [List.cons_append, uncomment_cons (mt start.mp comment), uncomment_cons comment, same,
        List.cons_append]

theorem significant_padded (blankLeft : ∀ c ∈ left, isBlank c = true)
    (blankRight : ∀ c ∈ right, isBlank c = true) (line : List Char) :
    significant (left ++ (line ++ right)) = significant line := by
  obtain ⟨rest, blank, same⟩ := uncomment_append_right blankRight false false line
  rw [significant, uncomment_append_left blankLeft, trim_append_left blankLeft, same,
    trim_append_right blank, significant]

theorem significant_quiet {line : List Char} (quiet : IsQuiet line) : significant line = [] := by
  cases quiet with
  | blank line blank =>
    rw [← List.append_nil line, significant, uncomment_append_left blank, trim_append_left blank]
    rfl
  | comment indent remark blank =>
    rw [significant, uncomment_append_left blank, trim_append_left blank]
    rfl

end significant

/-- The declarations that have been read when no block is open any more. -/
def Progress.finish (p : Progress) : Except Fault (List Table × List Enumeration) :=
  match p.block with
  | some (block, opened) => .error (.unterminated opened block.kind block.name)
  | none => .ok (p.tables, p.enums)

def readLines (lines : List (List Char)) : Except Fault (List Table × List Enumeration) :=
  Progress.run {} 1 lines >>= Progress.finish

theorem read_eq_readLines (source : String) : read source = readLines (lines source.toList) := by
  unfold read readLines
  cases Progress.run {} 1 (lines source.toList) with
  | error => rfl
  | ok p =>
    obtain ⟨tables, enums, block⟩ := p
    cases block <;> rfl

/-- The same progress after other declarations, and with other line numbers. -/
def Progress.moved (p : Progress) (renumber : Nat → Nat) (tables : List Table)
    (enums : List Enumeration) : Progress where
  tables := tables ++ p.tables
  enums := enums ++ p.enums
  block := p.block.map fun open' => (open'.1, renumber open'.2)

section moved
variable (renumber : Nat → Nat) (tables : List Table) (enums : List Enumeration)

theorem openBlock_moved (number : Nat) (line : List Char) :
    openBlock (renumber number) line = (openBlock number line).mapError (·.relocate renumber) := by
  unfold openBlock
  extract_lets name
  split
  case isTrue => rfl
  case isFalse => split <;> rfl

theorem readModelLine_moved (t : Table) (number : Nat) (line : List Char) :
    readModelLine t (renumber number) line =
      (readModelLine t number line).mapError (·.relocate renumber) := by
  unfold readModelLine
  split
  case isTrue => rfl
  case isFalse => split <;> rfl

namespace Progress

theorem close_moved (p : Progress) (block : Block) :
    (p.moved renumber tables enums).close block = (p.close block).moved renumber tables enums := by
  cases block <;> simp [close, moved]

theorem step_moved (p : Progress) (number : Nat) (line : List Char) :
    (p.moved renumber tables enums).step (renumber number) line =
      ((p.step number line).map (·.moved renumber tables enums)).mapError
        (·.relocate renumber) := by
  obtain ⟨read, enumerations, block⟩ := p
  by_cases empty : line.isEmpty = true
  · simp only [step, if_pos empty]
    rfl
  · cases block with
    | none =>
      simp only [step, if_neg empty, moved, Option.map_none, openBlock_moved]
      cases openBlock number line <;> rfl
    | some current =>
      obtain ⟨block, opened⟩ := current
      by_cases closes : (line == ['\x7d']) = true
      · simp only [step, if_neg empty, moved, Option.map_some, if_pos closes]
        exact congrArg Except.ok (close_moved renumber tables enums ⟨read, enumerations, _⟩ block)
      · cases block with
        | model table =>
          simp only [step, if_neg empty, moved, Option.map_some, if_neg closes,
            readModelLine_moved]
          cases readModelLine table number line <;> rfl
        | enumeration | other =>
          simp only [step, if_neg empty, moved, Option.map_some, if_neg closes]
          rfl

variable {renumber}

theorem run_moved {lines : List (List Char)} {number number' : Nat}
    (renumbered : ∀ i < lines.length, renumber (number + i) = number' + i) (p : Progress) :
    (p.moved renumber tables enums).run number' lines =
      ((p.run number lines).map (·.moved renumber tables enums)).mapError
        (·.relocate renumber) := by
  induction lines generalizing p number number' with
  | nil => rfl
  | cons line rest ih =>
    have own : renumber number = number' := renumbered 0 (Nat.zero_lt_succ _)
    have others : ∀ i < rest.length, renumber (number + 1 + i) = number' + 1 + i := by
      intro i inside
      have next := renumbered (i + 1) (Nat.succ_lt_succ inside)
      rwa [Nat.add_right_comm, Nat.add_right_comm number']
    rw [run, run, ← own, step_moved]
    cases p.step number (significant line) with
    | error => rfl
    | ok q => exact own ▸ ih others q

end Progress

end moved

namespace Progress

theorem run_append (p : Progress) (number : Nat) (before after : List (List Char)) :
    p.run number (before ++ after) =
      p.run number before >>= fun q => q.run (number + before.length) after := by
  induction before generalizing p number with
  | nil => rfl
  | cons line before ih =>
    rw [List.cons_append, run, run]
    cases p.step number (significant line) with
    | error => rfl
    | ok q =>
      have rest := ih q (number + 1)
      rw [Nat.add_right_comm number 1] at rest
      exact rest

theorem run_congr {lines relaid : List (List Char)}
    (same : relaid.map significant = lines.map significant) (p : Progress) (number : Nat) :
    p.run number relaid = p.run number lines := by
  induction lines generalizing relaid p number with
  | nil => rw [List.map_eq_nil_iff.mp same]
  | cons line lines ih =>
    cases relaid with
    | nil => cases same
    | cons other relaid =>
      obtain ⟨first, rest⟩ := List.cons.inj same
      rw [run, run, first]
      cases p.step number (significant line) with
      | error => rfl
      | ok q => exact ih rest q (number + 1)

theorem finish_moved (p : Progress) (renumber : Nat → Nat) (tables : List Table)
    (enums : List Enumeration) : (p.moved renumber tables enums).finish =
      (p.finish.map fun read => (tables ++ read.1, enums ++ read.2)).mapError
        (·.relocate renumber) := by
  obtain ⟨read, enumerations, block⟩ := p
  cases block <;> rfl

end Progress

/-- Accepted lines have no part in how the lines after them are read. -/
theorem readLines_append {first : List (List Char)}
    (accepted : readLines first = .ok (tables, enums)) (second : List (List Char)) :
    readLines (first ++ second) =
      ((readLines second).map fun read => (tables ++ read.1, enums ++ read.2)).mapError
        (·.relocate (first.length + ·)) := by
  obtain ⟨p, run, finished⟩ := ok_of_bind accepted
  have reached : p = ({} : Progress).moved (first.length + ·) tables enums := by
    obtain ⟨read, enumerations, block⟩ := p
    cases block <;> cases finished
    simp [Progress.moved]
  have renumbered : ∀ i < second.length, first.length + (1 + i) = 1 + first.length + i := by
    intro i _
    omega
  have moved := Progress.run_moved tables enums renumbered {}
  rw [readLines, Progress.run_append, run, readLines]
  change p.run (1 + first.length) second >>= Progress.finish = _
  rw [reached, moved]
  cases Progress.run {} 1 second with
  | error => rfl
  | ok q => exact q.finish_moved _ tables enums

/-- Lines that leave the reader as it is make faults below them count further. -/
theorem readLines_inserted {before inserted : List (List Char)}
    (passes : ∀ p, Progress.run {} 1 before = .ok p →
      p.run (1 + before.length) inserted = .ok p) (after : List (List Char)) :
    readLines (before ++ (inserted ++ after)) = (readLines (before ++ after)).mapError
      (·.relocate (later before.length inserted.length)) := by
  have above : ∀ i < before.length, later before.length inserted.length (1 + i) = 1 + i := by
    intro i inside
    exact if_pos (by omega)
  have below : ∀ i < after.length, later before.length inserted.length (1 + before.length + i) =
      1 + before.length + inserted.length + i := by
    intro i _
    rw [later, if_neg (by omega)]
    omega
  have early := Progress.run_moved [] [] above {}
  change Progress.run {} 1 before = _ at early
  rw [readLines, readLines, Progress.run_append, Progress.run_append]
  cases run : Progress.run {} 1 before with
  | error fault =>
    rw [run] at early
    have kept : fault = fault.relocate _ := Except.error.inj early
    exact congrArg Except.error kept
  | ok p =>
    rw [run] at early
    have kept : p.moved _ [] [] = p := (Except.ok.inj early).symm
    have late := Progress.run_moved [] [] below p
    have rest : p.run (1 + before.length) (inserted ++ after) =
        p.run (1 + before.length + inserted.length) after := by
      rw [Progress.run_append, passes p run]
      rfl
    change p.run _ (inserted ++ after) >>= Progress.finish =
      (p.run _ after >>= Progress.finish).mapError _
    rw [kept] at late
    rw [rest, late]
    cases p.run (1 + before.length) after with
    | error => rfl
    | ok q =>
      refine (q.finish_moved _ [] []).trans ?_
      change _ = q.finish.mapError _
      cases q.finish <;> rfl

section skipped
variable {p : Progress}

theorem run_quiet {line : List Char} (quiet : IsQuiet line) (number : Nat) :
    p.run number [line] = .ok p := by
  simp [Progress.run, Progress.step, significant_quiet quiet, bind, Except.bind]

theorem openBlock_skipped (block : SkippedBlock) (number : Nat) :
    ∃ name, openBlock number (significant block.header) = .ok (.other name) := by
  have named : dropEndWhile (· == '\x7b') block.name ≠ [] := by
    obtain ⟨c, member, other⟩ := block.named
    intro none
    have all := List.dropWhile_eq_nil_iff.mp (List.reverse_eq_nil_iff.mp none)
    exact other (by simpa using all c (List.mem_reverse.mpr member))
  have unlike (word : String) (different : block.keyword ≠ word.toList) :
      some (String.ofList block.keyword) ≠ some word := by
    intro same
    rw [← Option.some.inj same] at different
    exact different String.toList_ofList.symm
  refine ⟨String.ofList (dropEndWhile (· == '\x7b') block.name), ?_⟩
  unfold openBlock
  rw [block.headed, block.braced]
  simp only [List.head?_cons, Option.map_some]
  rw [if_neg (by simpa using named)]
  split
  case h_1 same => exact absurd same (unlike "model" block.other.1)
  case h_2 same => exact absurd same (unlike "enum" block.other.2)
  case h_3 => rfl

/-- A block of another kind stays open until a line closes it. -/
theorem run_other {body : List (List Char)} (current : p.block = some (.other name, opened))
    (continued : ∀ line ∈ body, significant line ≠ ['\x7d']) (number : Nat) :
    p.run number body = .ok p := by
  induction body generalizing number with
  | nil => rfl
  | cons line body ih =>
    obtain ⟨own, others⟩ := List.forall_mem_cons.mp continued
    have step : p.step number (significant line) = .ok p := by
      simp [Progress.step, current, own]
    rw [Progress.run, step]
    exact ih others (number + 1)

theorem run_skipped (block : SkippedBlock) (between : p.block = none) (number : Nat) :
    p.run number block.lines = .ok p := by
  obtain ⟨name, opens⟩ := openBlock_skipped block number
  have filled : significant block.header ≠ [] := by
    intro none
    have headed := block.headed
    rw [none] at headed
    cases headed
  have first : p.step number (significant block.header) =
      .ok { p with block := some (.other name, number) } := by
    simp [Progress.step, filled, between, opens, Except.map]
  rw [SkippedBlock.lines, Progress.run, first]
  change Progress.run _ _ (block.body ++ [block.closing]) = _
  rw [Progress.run_append, run_other rfl block.continued]
  change Progress.run _ _ [block.closing] = _
  obtain ⟨tables, enums, current⟩ := p
  cases between
  simp [Progress.run, Progress.step, block.closed, Progress.close, bind, Except.bind]

end skipped

theorem relocate_id (r : Except Fault α) : r.mapError (·.relocate id) = r := by
  cases r with
  | ok => rfl
  | error fault => cases fault <;> rfl

theorem relocate_relocate (r : Except Fault α) (renumber renumber' : Nat → Nat) :
    (r.mapError (·.relocate renumber)).mapError (·.relocate renumber') =
      r.mapError (·.relocate (renumber' ∘ renumber)) := by
  cases r with
  | ok => rfl
  | error fault => cases fault <;> rfl

theorem readLines_relaid {written other : List (List Char)}
    (relaid : Relaid written other renumber) :
    readLines other = (readLines written).mapError (·.relocate renumber) := by
  induction relaid with
  | same => exact (relocate_id _).symm
  | quiet before after quiet =>
    exact readLines_inserted (fun _ _ => run_quiet quiet _) after
  | padded before after line blankLeft blankRight =>
    rw [relocate_id, readLines, readLines, Progress.run_congr]
    simp [significant_padded blankLeft blankRight]
  | skipped before after block between =>
    exact readLines_inserted (fun p run => run_skipped block (between p run) _) after
  | trans _ _ first second => rw [second, first, relocate_relocate]

/-- Sources are read one after the other, and their layout tells only in the line numbers of
faults. -/
theorem read_ignores_layout :
    (∀ a b tablesA tablesB enumsA enumsB, read a = .ok (tablesA, enumsA) →
      read b = .ok (tablesB, enumsB) →
      read (a ++ "\n" ++ b) = .ok (tablesA ++ tablesB, enumsA ++ enumsB)) ∧
    ∀ source other renumber, Relaid (lines source.toList) (lines other.toList) renumber →
      read other = (read source).mapError (·.relocate renumber) := by
  refine ⟨?_, ?_⟩
  · intro a b tablesA tablesB enumsA enumsB first second
    have joined : lines (a ++ "\n" ++ b).toList = lines a.toList ++ lines b.toList := by
      rw [String.toList_append, String.toList_append, List.append_assoc]
      exact lines_append a.toList b.toList
    rw [read_eq_readLines] at first second ⊢
    rw [joined, readLines_append first, second]
    rfl
  · intro source other renumber relaid
    rw [read_eq_readLines, read_eq_readLines]
    exact readLines_relaid relaid

/-- Users with a field that has no type. -/
def untyped : String := "model User \x7b\nid\n\x7d"

/-- The same below a generator and a comment, with white space around the field. -/
def untypedLaidOut : String :=
  "generator g \x7b\n  model\n\x7d\n\t// users\nmodel User \x7b\n  id\r\n\x7d"

def generator : SkippedBlock where
  header := "generator g \x7b".toList
  body := ["  model".toList]
  closing := ['\x7d']
  keyword := "generator".toList
  name := ['g']
  braces := [['\x7b']]
  headed := rfl
  braced := rfl
  named := ⟨'g', by decide, by decide⟩
  other := ⟨by decide, by decide⟩
  continued := List.forall_mem_singleton.mpr (by decide)
  closed := rfl

theorem read_laid_out :
    read ("model User \x7b\nid Int @id\n\x7d" ++ "\n" ++ "enum Role \x7b\nADMIN\n\x7d") =
        .ok ([{ name := "User", fields := [{ name := "id", type := "Int", isId := true }],
                idFields := ["id"] }], [⟨"Role", ["ADMIN"]⟩]) ∧
      read untyped = .error (.fieldWithoutType "User" 2 "id") ∧
      read untypedLaidOut = .error (.fieldWithoutType "User" 6 "id") := by
  obtain ⟨composed, laidOut⟩ := read_ignores_layout
  have failed : read untyped = .error (.fieldWithoutType "User" 2 "id") := by decide +kernel
  have own : lines untyped.toList = ["model User \x7b".toList, "id".toList, ['\x7d']] := by
    decide +kernel
  have all : lines untypedLaidOut.toList = generator.lines ++
      ["\t// users".toList, "model User \x7b".toList, "  id\r".toList, ['\x7d']] := by
    decide +kernel
  have blank (s : List Char) (all : s.all isBlank = true) : ∀ c ∈ s, isBlank c = true :=
    List.all_eq_true.mp all
  have skipped := Relaid.skipped [] (lines untyped.toList) generator fun p run => by
    cases run
    rfl
  have quiet := Relaid.quiet generator.lines (lines untyped.toList)
    (.comment ['\t'] " users".toList (blank _ (by decide)))
  have padded := Relaid.padded
    (generator.lines ++ ["\t// users".toList, "model User \x7b".toList]) [['\x7d']] "id".toList
    (blank "  ".toList (by decide)) (blank ['\r'] (by decide))
  have relaid : Relaid (lines untyped.toList) (lines untypedLaidOut.toList)
      (id ∘ later 3 1 ∘ later 0 3) := by
    rw [own] at skipped quiet ⊢
    rw [all]
    exact (skipped.trans quiet).trans padded
  refine ⟨?_, failed, ?_⟩
  · exact composed _ _ [_] [] [] [_] (by decide +kernel) (by decide +kernel)
  · rw [laidOut _ _ _ relaid, failed]
    rfl

end Source

end Conform.Schema
