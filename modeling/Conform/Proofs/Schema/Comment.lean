import Conform.Proofs.Schema.Layout
import Mathlib.Algebra.Ring.Parity
import Mathlib.Data.List.Chain

/-! Comments and string literals. A literal ends at its first quote without a backslash of its own
before it. The reader takes every quote after a backslash for a part of its literal, so that it
loses step at a literal that ends with an escaped backslash, and finds it again at the next one. -/
namespace Conform.Schema.Source

/-- A character of a string literal as it is written: an ordinary one, or any one after a
backslash. -/
inductive Spelled where
  | ordinary (c : Char) (plain : c ≠ '"' ∧ c ≠ '\\')
  | escaped (c : Char)
  deriving DecidableEq

def Spelled.text : Spelled → List Char
  | ordinary c _ => [c]
  | escaped c => ['\\', c]

/-- What stands between the quotes of a literal. -/
def contentText (content : List Spelled) : List Char := content.flatMap (·.text)

/-- A part of a line: a character outside of string literals, or a whole literal. -/
inductive Piece where
  | outside (c : Char) (plain : c ≠ '"' ∧ c ≠ '\\')
  | literal (content : List Spelled)
  deriving DecidableEq

namespace Piece

def slash : Piece := outside '/' (by decide)

def text : Piece → List Char
  | outside c _ => [c]
  | literal content => '"' :: (contentText content ++ ['"'])

/-- A literal that ends with an escaped backslash. -/
def endsEscaped : Piece → Bool
  | outside _ _ => false
  | literal content => (contentText content).getLast? == some '\\'

end Piece

def piecesText (pieces : List Piece) : List Char := pieces.flatMap (·.text)

/-- A comment reaches to the end of its line. -/
def commentText : Option (List Char) → List Char
  | none => []
  | some remark => '/' :: '/' :: remark

/-- What stands on a line before its comment. No two slashes follow each other outside of literals,
and no slash stands at the end. -/
structure IsUncommented (pieces : List Piece) : Prop where
  apart : pieces.IsChain fun a b => ¬(a = .slash ∧ b = .slash)
  ends : pieces.getLast? ≠ some .slash

/-- The text has a beginning of a comment in it. -/
def HasSlashes (s : List Char) : Prop := ['/', '/'] <:+: s

section scan
variable {quoted escaped : Bool} {s rest : List Char}

/-- Every quote of the text stands after a backslash. `escaped` tells whether one stands before
it. -/
def Guarded (escaped : Bool) : List Char → Prop
  | [] => True
  | c :: s => (c = '"' → escaped = true) ∧ Guarded (c == '\\') s

theorem guarded_contentText (content : List Spelled) (escaped : Bool) :
    Guarded escaped (contentText content) := by
  induction content generalizing escaped with
  | nil => trivial
  | cons spelled content ih =>
    cases spelled with
    | ordinary c plain => exact ⟨fun quote => absurd quote plain.1, ih _⟩
    | escaped c => exact ⟨nofun, fun _ => rfl, ih _⟩

/-- Whether a backslash stands before what follows the text. -/
def escapes (escaped : Bool) (s : List Char) : Bool := (s.getLast?.map (· == '\\')).getD escaped

theorem escapes_cons (c : Char) (s : List Char) :
    escapes escaped (c :: s) = escapes (c == '\\') s := by
  cases last : s.getLast? <;> simp [escapes, List.getLast?_cons, last]

theorem guarded_keeps {c : Char} (guarded : Guarded escaped (c :: s)) :
    (if c == '"' && !escaped then !quoted else quoted) = quoted := by
  by_cases quote : c = '"'
  · simp [guarded.1 quote]
  · simp [quote]

/-- A comment begins in front of `rest` only if it begins in the text. -/
theorem startsComment_append {c : Char} (unstarted : rest.head? ≠ some '/')
    (starts : StartsComment quoted c (s ++ rest)) : quoted = false ∧ ['/', '/'] <+: c :: s := by
  obtain ⟨⟨rfl, unquoted⟩, second⟩ := starts
  refine ⟨unquoted, ?_⟩
  cases s with
  | nil => exact absurd second unstarted
  | cons d s =>
    obtain rfl : d = '/' := by simpa using second
    exact ⟨s, rfl⟩

/-- Text without slashes is passed over, and inside of a literal all text is. -/
theorem uncomment_append (guarded : Guarded escaped s) (unstarted : rest.head? ≠ some '/')
    (clear : quoted = false → ¬HasSlashes s) :
    uncomment quoted escaped (s ++ rest) = s ++ uncomment quoted (escapes escaped s) rest := by
  induction s generalizing escaped with
  | nil => rfl
  | cons c s ih =>
    have passes : ¬StartsComment quoted c (s ++ rest) := by
      intro starts
      obtain ⟨unquoted, slashes⟩ := startsComment_append unstarted starts
      exact clear unquoted slashes.isInfix
    have later : quoted = false → ¬HasSlashes s := by
      intro unquoted slashes
      exact clear unquoted (slashes.trans (List.suffix_cons c s).isInfix)
    rw [List.cons_append, uncomment_cons passes, guarded_keeps guarded, ih guarded.2 later,
      escapes_cons, List.cons_append]

/-- Outside of a literal the text is cut at its first two slashes. -/
theorem length_uncomment_lt (guarded : Guarded escaped s) (slashes : HasSlashes s)
    (rest : List Char) : (uncomment false escaped (s ++ rest)).length < s.length := by
  induction s generalizing escaped with
  | nil => cases List.infix_nil.mp slashes
  | cons c s ih =>
    by_cases starts : StartsComment false c (s ++ rest)
    · rw [List.cons_append, uncomment_comment starts]
      exact Nat.zero_lt_succ _
    · have later : HasSlashes s := by
        refine (List.infix_cons_iff.mp slashes).resolve_left ?_
        rintro ⟨after, same⟩
        obtain ⟨rfl, rfl⟩ := List.cons.inj same
        exact starts ⟨⟨rfl, rfl⟩, rfl⟩
      rw [List.cons_append, uncomment_cons starts, guarded_keeps guarded]
      exact Nat.succ_lt_succ (ih guarded.2 later)

end scan

section pieces
variable {quoted : Bool} {piece : Piece} {pieces : List Piece} {rest : List Char}

/-- The reader, which takes itself to be in a literal or not, finds no comment in the piece. -/
def Piece.Passes (quoted : Bool) (rest : List Char) : Piece → Prop
  | outside c _ => ¬(c = '/' ∧ rest.head? = some '/')
  | literal content => quoted = true → ¬HasSlashes (contentText content)

theorem uncomment_quote (quoted : Bool) (rest : List Char) :
    uncomment quoted false ('"' :: rest) = '"' :: uncomment (!quoted) false rest := by
  have passes : ¬StartsComment quoted '"' rest := by simp [StartsComment]
  rw [uncomment_cons passes]
  rfl

theorem Piece.literal_append (content : List Spelled) (rest : List Char) :
    (Piece.literal content).text ++ rest = '"' :: (contentText content ++ '"' :: rest) := by
  simp [Piece.text]

theorem Piece.escapes_content (content : List Spelled) :
    escapes false (contentText content) = (Piece.literal content).endsEscaped := by
  rw [escapes, Piece.endsEscaped]
  cases (contentText content).getLast? <;> simp

/-- After a literal that ends with an escaped backslash the reader is out of step, or in step
again. -/
theorem uncomment_piece (passes : piece.Passes quoted rest) :
    uncomment quoted false (piece.text ++ rest) =
      piece.text ++ uncomment (quoted ^^ piece.endsEscaped) false rest := by
  cases piece with
  | outside c plain =>
    have unstarted : ¬StartsComment quoted c rest := fun starts => passes ⟨starts.1.1, starts.2⟩
    have escape : (c == '\\') = false := by simpa using plain.2
    change uncomment quoted false (c :: rest) = c :: _
    rw [uncomment_cons unstarted, escape]
    simp [plain.1, Piece.endsEscaped]
  | literal content =>
    have clear : (!quoted) = false → ¬HasSlashes (contentText content) := by
      intro out
      exact passes (by simpa using out)
    have unstarted : ('"' :: rest).head? ≠ some '/' := by simp
    have inside := uncomment_append (guarded_contentText content false) unstarted clear
    have closing : ¬StartsComment (!quoted) '"' rest := by simp [StartsComment]
    rw [Piece.literal_append, uncomment_quote, inside, uncomment_cons closing,
      Piece.escapes_content]
    cases quoted <;> cases (Piece.literal content).endsEscaped <;> simp [Piece.text]

theorem length_uncomment_literal {content : List Spelled}
    (slashes : HasSlashes (contentText content)) (rest : List Char) :
    (uncomment true false ((Piece.literal content).text ++ rest)).length <
      (Piece.literal content).text.length := by
  have cut := length_uncomment_lt (guarded_contentText content false) slashes ('"' :: rest)
  rw [Piece.literal_append, uncomment_quote]
  simp only [Bool.not_true, Piece.text, List.length_cons, List.length_append, List.length_nil]
  omega

/-- The reader is out of step after the pieces. -/
def OutOfStep (pieces : List Piece) : Bool := decide (Odd (pieces.countP (·.endsEscaped)))

theorem outOfStep_cons (piece : Piece) (pieces : List Piece) :
    OutOfStep (piece :: pieces) = (piece.endsEscaped ^^ OutOfStep pieces) := by
  cases ends : piece.endsEscaped <;>
    simp [OutOfStep, ends, Nat.odd_add_one, -Nat.not_odd_iff_even]

/-- No literal that the reader meets out of step has two slashes in it. -/
def Spares (quoted : Bool) (pieces : List Piece) : Prop :=
  ∀ before content after, pieces = before ++ .literal content :: after →
    (quoted ^^ OutOfStep before) = true → ¬HasSlashes (contentText content)

theorem spares_cons : Spares quoted (piece :: pieces) ↔
    (∀ content, piece = .literal content → quoted = true → ¬HasSlashes (contentText content)) ∧
      Spares (quoted ^^ piece.endsEscaped) pieces := by
  constructor
  · intro spares
    refine ⟨?_, ?_⟩
    · rintro content rfl out
      exact spares [] content pieces rfl (by simpa [OutOfStep] using out)
    · rintro before content after rfl out
      refine spares (piece :: before) content after rfl ?_
      rwa [outOfStep_cons, ← Bool.xor_assoc]
  · rintro ⟨own, others⟩ before content after split out
    cases before with
    | nil =>
      obtain ⟨rfl, rfl⟩ := List.cons.inj split
      exact own content rfl (by simpa [OutOfStep] using out)
    | cons first before =>
      obtain ⟨rfl, rfl⟩ := List.cons.inj split
      refine others before content after rfl ?_
      rwa [outOfStep_cons, ← Bool.xor_assoc] at out

theorem piecesText_cons (piece : Piece) (pieces : List Piece) :
    piecesText (piece :: pieces) = piece.text ++ piecesText pieces := List.flatMap_cons

/-- What follows a slash begins with no other one. -/
theorem IsUncommented.not_slashes (uncommented : IsUncommented (piece :: pieces)) {c : Char}
    {plain : c ≠ '"' ∧ c ≠ '\\'} (first : piece = .outside c plain) :
    ¬(c = '/' ∧ (piecesText pieces ++ rest).head? = some '/') := by
  rintro ⟨rfl, second⟩
  cases pieces with
  | nil => exact uncommented.ends (by rw [first]; rfl)
  | cons next pieces =>
    refine (List.isChain_cons_cons.mp uncommented.apart).1 ⟨first, ?_⟩
    cases next with
    | literal => simp [piecesText_cons, Piece.text] at second
    | outside d plain =>
      obtain rfl : d = '/' := by simpa [piecesText_cons, Piece.text] using second
      rfl

theorem IsUncommented.tail (uncommented : IsUncommented (piece :: pieces)) :
    IsUncommented pieces := by
  refine ⟨uncommented.apart.tail, fun last => uncommented.ends ?_⟩
  rw [List.getLast?_cons, last]
  rfl

/-- A piece in which the reader finds a comment is a literal that it meets out of step. -/
theorem IsUncommented.passes (uncommented : IsUncommented (piece :: pieces))
    (own : ∀ content, piece = .literal content → quoted = true →
      ¬HasSlashes (contentText content)) :
    piece.Passes quoted (piecesText pieces ++ rest) := by
  cases first : piece with
  | outside c plain => exact uncommented.not_slashes first
  | literal content => exact own content first

theorem uncomment_pieces (uncommented : IsUncommented pieces) (spares : Spares quoted pieces)
    (rest : List Char) : uncomment quoted false (piecesText pieces ++ rest) =
      piecesText pieces ++ uncomment (quoted ^^ OutOfStep pieces) false rest := by
  induction pieces generalizing quoted with
  | nil => simp [piecesText, OutOfStep]
  | cons piece pieces ih =>
    obtain ⟨own, others⟩ := spares_cons.mp spares
    rw [piecesText_cons, List.append_assoc, uncomment_piece (uncommented.passes own),
      ih uncommented.tail others, outOfStep_cons, Bool.xor_assoc, List.append_assoc]

theorem length_uncomment_pieces (uncommented : IsUncommented pieces)
    (cut : ¬Spares quoted pieces) (rest : List Char) :
    (uncomment quoted false (piecesText pieces ++ rest)).length < (piecesText pieces).length := by
  induction pieces generalizing quoted with
  | nil =>
    refine absurd (fun before content after split => ?_) cut
    cases before <;> cases split
  | cons piece pieces ih =>
    rw [piecesText_cons, List.append_assoc]
    by_cases own : ∀ content, piece = .literal content → quoted = true →
        ¬HasSlashes (contentText content)
    · have later := ih uncommented.tail fun others => cut (spares_cons.mpr ⟨own, others⟩)
      rw [uncomment_piece (uncommented.passes own), List.length_append, List.length_append]
      exact Nat.add_lt_add_left later _
    · push Not at own
      obtain ⟨content, rfl, rfl, slashes⟩ := own
      refine Nat.lt_of_lt_of_le (length_uncomment_literal slashes _) ?_
      rw [List.length_append]
      exact Nat.le_add_right _ _

end pieces

/-- A comment is taken off, and nothing else, exactly when the reader is in step where the comment
begins and meets no literal with two slashes out of step. -/
theorem uncomment_exact_iff {pieces : List Piece} (uncommented : IsUncommented pieces)
    (comment : Option (List Char)) :
    uncomment false false (piecesText pieces ++ commentText comment) = piecesText pieces ↔
      (comment.isSome = true → Even (pieces.countP (·.endsEscaped))) ∧
        ∀ before content after, pieces = before ++ .literal content :: after →
          Odd (before.countP (·.endsEscaped)) → ¬['/', '/'] <:+: contentText content := by
  have inStep : OutOfStep pieces = false ↔ Even (pieces.countP (·.endsEscaped)) := by
    simp [OutOfStep]
  have spared : Spares false pieces ↔ ∀ before content after,
      pieces = before ++ .literal content :: after → Odd (before.countP (·.endsEscaped)) →
        ¬['/', '/'] <:+: contentText content := by
    simp [Spares, OutOfStep, HasSlashes]
  rw [← spared, ← inStep]
  by_cases spares : Spares false pieces
  · rw [uncomment_pieces uncommented spares, Bool.false_xor]
    cases comment with
    | none => simp [spares, commentText, uncomment]
    | some remark =>
      -- Out of step, the comment is taken for a part of a literal.
      cases OutOfStep pieces <;> simp [spares, commentText, uncomment]
  · have shorter := length_uncomment_pieces uncommented spares (commentText comment)
    constructor
    · intro taken
      rw [taken] at shorter
      exact absurd shorter (Nat.lt_irrefl _)
    · exact fun kept => absurd kept.2 spares

/-- The root of a drive, as a literal. -/
def driveRoot : Piece :=
  .literal [.ordinary 'C' (by decide), .ordinary ':' (by decide), .escaped '\\']

def twoDrives : List Piece :=
  [driveRoot, .outside ' ' (by decide), driveRoot, .outside ' ' (by decide)]

/-- The second literal is met out of step, and brings the reader back into it. -/
theorem two_drives_uncommented : IsUncommented twoDrives ∧
    Odd ([driveRoot, .outside ' ' (by decide)].countP (·.endsEscaped)) ∧
    uncomment false false (piecesText twoDrives ++ commentText (some " roots".toList)) =
      "\"C:\\\\\" \"C:\\\\\" ".toList ∧
    Even (twoDrives.countP (·.endsEscaped)) := by
  have uncommented : IsUncommented twoDrives := ⟨by decide, by decide⟩
  have taken : uncomment false false (piecesText twoDrives ++ commentText (some " roots".toList)) =
      piecesText twoDrives := by decide +kernel
  have inStep := (uncomment_exact_iff uncommented (some " roots".toList)).mp taken
  exact ⟨uncommented, by decide +kernel, by decide +kernel, inStep.1 rfl⟩

theorem plain_of_all {s : List Char} (all : s.all (fun c => c != '"' && c != '\\') = true) :
    ∀ c ∈ s, c ≠ '"' ∧ c ≠ '\\' := by
  simpa using all

/-- A path with a drive for its default. -/
def pathPieces : List Piece :=
  "path String @default(".toList.pmap Piece.outside (plain_of_all (by decide +kernel)) ++
    [driveRoot, .outside ')' (by decide), .outside ' ' (by decide)]

/-- A comment after a literal that ends with an escaped backslash stays, and what stands in it is
read as an attribute. -/
theorem drive_keeps_comment : IsUncommented pathPieces ∧
    piecesText pathPieces = "path String @default(\"C:\\\\\") ".toList ∧
    uncomment false false (piecesText pathPieces ++ commentText (some " @unique".toList)) ≠
      piecesText pathPieces ∧
    readModelLine { name := "File" } 2
        (significant (piecesText pathPieces ++ commentText (some " @unique".toList))) =
      .ok { name := "File", fields := [{ name := "path", type := "String", isUnique := true }] } :=
  ⟨⟨by decide +kernel, by decide +kernel⟩, by decide +kernel, by decide +kernel,
    by decide +kernel⟩

end Conform.Schema.Source
