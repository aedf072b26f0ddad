import Conform.Text.Lenient

/-! The patterns of SQLite. In a LIKE pattern `%` stands for any text, `_` for any one character,
and letters match whatever their case. In a GLOB pattern `*` and `?` do so, and brackets list the
characters that may stand in one place. Texts and patterns are lists of character codes. -/
namespace Conform.Sqlite

/-- The text and all shorter texts at its end. -/
def endings : List Nat → List (List Nat)
  | [] => [[]]
  | c :: rest => (c :: rest) :: endings rest

/-- The code of the small letter for a letter from A to Z. -/
def smallCode (c : Nat) : Nat := if 0x41 ≤ c ∧ c ≤ 0x5A then c + 0x20 else c

/-- What one place of a LIKE pattern stands for. -/
inductive LikePlace where
  | anyText
  | anyCharacter
  /-- The character with this code, whatever the case of a letter. -/
  | character (code : Nat)
  /-- No text: the pattern ends after `escape`. -/
  | nothing

def LikePlace.ofCode (c : Nat) : LikePlace :=
  if c = '%'.toNat then .anyText else if c = '_'.toNat then .anyCharacter else .character c

/-- The places of a pattern. The character after `escape` stands for itself. -/
def likePlaces (escape : Option Nat) : (pattern : List Nat) → List LikePlace
  | [] => []
  | [c] => [if escape = some c then .nothing else .ofCode c]
  | c :: d :: pattern =>
    if escape = some c then .character d :: likePlaces escape pattern
    else .ofCode c :: likePlaces escape (d :: pattern)

/-- Does the text fill the places of the pattern? -/
def fills : (places : List LikePlace) → (text : List Nat) → Bool
  | [], text => text.isEmpty
  | .anyText :: places, text => (endings text).any fun ending => fills places ending
  | .anyCharacter :: places, _ :: text => fills places text
  | .character c :: places, d :: text => smallCode c == smallCode d && fills places text
  | .anyCharacter :: _, [] | .character _ :: _, [] | .nothing :: _, _ => false

/-- Does the text match the LIKE pattern? -/
def likeWith (escape : Option Nat) (pattern text : List Nat) : Bool :=
  fills (likePlaces escape pattern) text

def like (pattern text : List Nat) : Bool := likeWith none pattern text

/-- The codes of a text. -/
def codesOf (s : String) : List Nat := s.toList.map Char.toNat

/-- Table names that are kept from view as the database's own. -/
def isHidden (name : String) : Bool := like (codesOf "sqlite_%") (codesOf name)

/-- Goes through a list of characters up to its closing bracket and tells whether `c` is among them,
and what follows. A hyphen between two characters stands for all from the first to the second,
unless the first has been the end of such a range. -/
def readList (c : Nat) (prior : Option Nat) (seen : Bool) : List Nat → Option (Bool × List Nat)
  | [] => none
  | 0x5D :: rest => some (seen, rest)
  | 0x2D :: b :: rest => match prior with
    | some a =>
      if b = 0x5D then readList c (some 0x2D) (seen || c == 0x2D) (b :: rest)
      else readList c none (seen || (a ≤ c && c ≤ b)) rest
    | none => readList c (some 0x2D) (seen || c == 0x2D) (b :: rest)
  | a :: rest => readList c (some a) (seen || c == a) rest

/-- Is the character in the list after an opening bracket, and what follows the list? After `^` the
list tells what is excluded. A closing bracket that comes first is one of the characters. -/
def isListed (c : Nat) (s : List Nat) : Option (Bool × List Nat) :=
  let (excluded, s) := match s with
    | 0x5E :: rest => (true, rest)
    | s => (false, s)
  let (first, s) := match s with
    | 0x5D :: rest => (c == 0x5D, rest)
    | s => (false, s)
  (readList c none first s).map fun (seen, rest) => (seen != excluded, rest)

/-- Does the text match the GLOB pattern? `fuel` is at least the length of the pattern. -/
def glob : (fuel : Nat) → (pattern text : List Nat) → Bool
  | 0, pattern, text => pattern.isEmpty && text.isEmpty
  | _ + 1, [], text => text.isEmpty
  | fuel + 1, 0x2A :: pattern, text => (endings text).any fun ending => glob fuel pattern ending
  | fuel + 1, 0x5B :: pattern, c :: text => match isListed c pattern with
    | some (true, pattern) => glob fuel pattern text
    | _ => false
  | fuel + 1, p :: pattern, c :: text => (p == 0x3F || p == c) && glob fuel pattern text
  | _ + 1, _ :: _, [] => false

/-- A longer pattern is refused. -/
def longestPattern : Nat := 50000

end Conform.Sqlite
