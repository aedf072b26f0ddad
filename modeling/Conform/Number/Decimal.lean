import Conform.Number.Binary64

/-! Decimal numbers: read from a text, or the fewest digits that read back as a binary number. -/
namespace Conform

/-- The digits times a power of ten. -/
structure Decimal where
  digits : Nat
  exponent : Int
  deriving DecidableEq, Repr, Inhabited

namespace Decimal

/-- The number that decimal digits spell. -/
def natural (digits : List Char) : Nat := Nat.ofDigitChars 10 digits 0

/-- A decimal without a sign: digits, perhaps with a point among them and a power of ten behind. -/
def ofUnsigned (s : List Char) : Decimal :=
  let whole := s.takeWhile Char.isDigit
  let s := s.drop whole.length
  let (places, s) : List Char × List Char := match s with
    | '.' :: s => let places := s.takeWhile Char.isDigit; (places, s.drop places.length)
    | s => ([], s)
  let exponent : Int := match s with
    | _ :: '-' :: digits => -natural digits
    | _ :: '+' :: digits | _ :: digits => natural digits
    | [] => 0
  ⟨natural (whole ++ places), exponent - places.length⟩

/-- The binary number next to the decimal that a text spells. -/
def read (s : List Char) : Binary64 :=
  let (negative, s) : Bool × List Char := match s with
    | '-' :: s => (true, s)
    | s => (false, s)
  let d := ofUnsigned s
  Binary64.ofDecimal negative d.digits d.exponent

/-- The least power of ten above a fraction that is not zero. -/
def scaleOf (num den : Nat) : Int :=
  let digitCount (n : Nat) : Int := (Nat.toDigits 10 n).length
  let guess := digitCount num - digitCount den
  let isBelow : Bool := num * Nat.pow 10 (-guess).toNat < den * Nat.pow 10 guess.toNat
  if isBelow then guess else guess + 1

/-- The fraction in units of a power of ten. -/
def inUnits (num den : Nat) (unit : Int) : Nat × Nat :=
  (num * Nat.pow 10 (-unit).toNat, den * Nat.pow 10 unit.toNat)

/-- The neighbours of a number among the decimals of `n` digits that read back as the number, the
nearer one first. -/
def neighbours (x : Binary64) (n : Nat) : List Decimal :=
  let (num, den) := x.magnitude
  let unit := scaleOf num den - Int.ofNat n
  let (top, bottom) := inUnits num den unit
  let below : Decimal := ⟨top / bottom, unit⟩
  let above : Decimal := ⟨top / bottom + 1, unit⟩
  let candidates := if bottom < 2 * (top % bottom) then [above, below] else [below, above]
  candidates.filter fun d => Binary64.ofDecimal x.isNegative d.digits d.exponent == x

/-- The digits without zeros at the end. -/
def trimmed (d : Decimal) : Decimal :=
  go (Nat.toDigits 10 d.digits).length d
where
  go : Nat → Decimal → Decimal
    | 0, d => d
    | n + 1, d =>
      if d.digits ≠ 0 ∧ d.digits % 10 = 0 then go n ⟨d.digits / 10, d.exponent + 1⟩ else d

/-- The fewest digits that read back as the magnitude of a finite number. Seventeen suffice. -/
def shortest (x : Binary64) : Decimal :=
  if x.mantissa = 0 then ⟨0, 0⟩
  else
    let found := (List.range 17).findSome? fun n => (neighbours x (n + 1)).head?
    (found.getD ⟨0, 0⟩).trimmed

/-- The digits with a point among or beside them, and no exponent. -/
def positional (d : Decimal) : List Char :=
  let written := Nat.toDigits 10 d.digits
  let places := (-d.exponent).toNat
  if places = 0 then
    if d.digits = 0 then written else written ++ List.replicate d.exponent.toNat '0'
  else
    let padded := List.replicate (places + 1 - written.length) '0' ++ written
    padded.take (padded.length - places) ++ '.' :: padded.drop (padded.length - places)

/-- The power of ten of the first digit. -/
def leading (d : Decimal) : Int := d.exponent + Int.ofNat (Nat.toDigits 10 d.digits).length - 1

/-- The digits with a point after the first of them, and at least one digit after the point. -/
def significand (d : Decimal) : List Char :=
  match Nat.toDigits 10 d.digits with
  | [c] => [c, '.', '0']
  | c :: rest => c :: '.' :: rest
  | [] => []

end Decimal

end Conform
