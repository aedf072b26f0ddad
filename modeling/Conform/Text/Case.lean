import Conform.Text.CaseTable

/-! Letter case over all characters. -/
namespace Conform.Text

def CaseRange.holds (r : CaseRange) (n : Nat) : Bool :=
  r.first ≤ n && n ≤ r.last && (n - r.first) % r.step == 0

private def recased (ranges : List CaseRange) (special : List (Nat × List Nat)) (c : Char) :
    List Char :=
  match special.lookup c.toNat with
  | some codes => codes.map Char.ofNat
  | none => match ranges.find? (·.holds c.toNat) with
    | some r => [Char.ofNat (c.toNat + r.distance).toNat]
    | none => [c]

/-- The capital form of one character, which may be several characters. -/
def upperChar (c : Char) : List Char :=
  if c.toNat < 0x80 then [c.toUpper] else recased upperRanges upperSpecial c

/-- The small form of one character, which may be several characters. -/
def lowerChar (c : Char) : List Char :=
  if c.toNat < 0x80 then [c.toLower] else recased lowerRanges lowerSpecial c

def upper (s : List Char) : List Char := s.flatMap upperChar

/-- A text in small letters. A capital sigma always becomes the plain small one, also at the end of
a word, where its final form would stand. This cannot matter: a text in small letters is looked up
among words of ASCII characters, of which neither form is one, or is put in capital letters again,
and both forms have the same capital. -/
def lower (s : List Char) : List Char := s.flatMap lowerChar

example : upperChar 'ς' = upperChar 'σ' := by decide +kernel

/-- Equality up to the case of the letters a to z. -/
def sameLetters (a b : String) : Bool := a.toList.map Char.toLower == b.toList.map Char.toLower

end Conform.Text
