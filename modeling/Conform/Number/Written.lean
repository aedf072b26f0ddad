import Conform.Number.Scaled

/-! Numbers written with a given precision: some digits after the point, or some digits in all.
Digits are taken from the beginning of a number and rounded once more there. -/
namespace Conform

/-- Digits, none of them a zero at the end unless it is the only one, and the place of the point,
counted from before the first of them. -/
structure Digits where
  digits : List Char
  point : Int
  deriving DecidableEq, Repr, Inhabited

namespace Digits

def zero : Digits := ⟨['0'], 1⟩

def withoutZeros (s : List Char) : List Char := (s.reverse.dropWhile (· == '0')).reverse

/-- The first `count` digits, one more in the last place if the next digit is five or more. The
carry may give another digit in front. -/
def cut (d : Digits) (count : Nat) : Digits :=
  let kept := d.digits.take count
  if (d.digits[count]?).all (· < '5') then ⟨kept, d.point⟩
  else
    let written := Nat.toDigits 10 ((Nat.ofDigitChars 10 kept 0) + 1)
    ⟨List.replicate (count - written.length) '0' ++ written,
      d.point + Int.ofNat (written.length - count)⟩

/-- The digits rounded to so many in all if `places` is above zero, and else to as many after the
point. Nothing is rounded beyond the `most` first digits, and all digits are cut there. -/
def rounded (d : Digits) (places : Int) (most : Nat) : Digits :=
  let count := if 0 < places then places else d.point - places
  let (d, count) : Digits × Int :=
    if places ≤ 0 ∧ count = 0 ∧ (d.digits.head?).any ('5' ≤ ·) then
      (⟨'0' :: d.digits, d.point + 1⟩, 1)
    else (d, count)
  let d := if 0 < count ∧ (count < d.digits.length ∨ most < d.digits.length) then
    d.cut (min count.toNat most) else d
  { d with digits := withoutZeros d.digits }

/-- The digits of the magnitude of a finite number. -/
def ofBinary64 (x : Binary64) (places : Int) (most : Nat) : Digits :=
  if x.mantissa = 0 then zero
  else
    let (n, exponent) := x.leadingDigits
    let digits := Nat.toDigits 10 n
    rounded ⟨digits, Int.ofNat digits.length + exponent⟩ places most

end Digits

inductive Notation where
  /-- With a point, wherever it falls. -/
  | fixed
  /-- With a point after the first digit, and a power of ten. -/
  | exponent
  /-- One or the other, whichever is shorter. -/
  | general
  deriving DecidableEq, Repr, Inhabited

/-- How a number is written. -/
structure RealStyle where
  kind : Notation
  /-- The digits after the point, or all digits if the notation is general. -/
  precision : Nat := 6
  /-- Is the point written even if nothing follows it, with all zeros of the precision? -/
  pointed : Bool := false
  /-- Are more digits told apart, and is there a digit after the point in any case? -/
  full : Bool := false
  /-- Are the digits before the point in groups of three? -/
  grouped : Bool := false
  /-- The letter before the power of ten. -/
  letter : Char := 'e'
  deriving DecidableEq, Repr, Inhabited

namespace RealStyle

/-- Digits in groups of three, with commas between. -/
def groups : List Char → List Char
  | [] => []
  | c :: rest =>
    if rest.length % 3 = 0 ∧ rest ≠ [] then c :: ',' :: groups rest else c :: groups rest

/-- A power of ten with its sign and at least two digits. -/
def power (n : Int) : List Char :=
  let size := Nat.toDigits 10 n.natAbs
  (if n < 0 then '-' else '+') :: (if size.length < 2 then '0' :: size else size)

/-- A fraction without its zeros at the end, and without the point if nothing follows it. -/
def trimmed (full : Bool) (s : List Char) : List Char :=
  match (s.reverse.dropWhile (· == '0')) with
  | '.' :: rest => if full then rest.reverse ++ ['.', '0'] else rest.reverse
  | rest => rest.reverse

/-- The number of digits that the style asks for: above zero in all, and else after the point. -/
def places (s : RealStyle) : Int :=
  match s.kind with
  | .fixed => -s.precision
  | .exponent => s.precision + 1
  | .general => max s.precision 1

/-- How many digits are told apart. -/
def most (s : RealStyle) : Nat := if s.full then 26 else 16

/-- The digits with at least so many after the point, where the first digit counts `scale` powers
of ten. -/
def positional (s : RealStyle) (d : List Char) (scale : Int) (precision : Nat) : List Char :=
  let size := (scale + 1).toNat
  let whole := if scale < 0 then ['0'] else d.take size ++ List.replicate (size - d.length) '0'
  let zeros := min precision (-scale - 1).toNat
  let later := d.drop size
  let wanted := precision - zeros
  let places := List.replicate zeros '0' ++ later.take wanted ++
    List.replicate (wanted - later.length) '0'
  let point := if 0 < precision ∨ s.pointed ∨ s.full then ['.'] else []
  (if s.grouped then groups whole else whole) ++ point ++ places

/-- The number of some digits as the style writes it. -/
def write (s : RealStyle) (d : Digits) : List Char :=
  let exponent := d.point - 1
  let precision := max s.precision 1 - 1
  let (isScaled, precision, trims) := match s.kind with
    | .fixed => (false, s.precision, s.full)
    | .exponent => (true, s.precision, s.full)
    | .general =>
      if exponent < -4 ∨ precision < exponent then (true, precision, !s.pointed)
      else (false, (precision - exponent).toNat, !s.pointed)
  let written := s.positional d.digits (if isScaled then 0 else exponent) precision
  let written := if trims ∧ written.contains '.' then trimmed s.full written else written
  if isScaled then written ++ s.letter :: power exponent else written

/-- The magnitude of a finite number. -/
def magnitude (s : RealStyle) (x : Binary64) : List Char :=
  s.write (Digits.ofBinary64 x s.places s.most)

end RealStyle

end Conform
