/-! Numbers in the binary64 format by their bits. Every finite one is an exact fraction, and every
fraction has a nearest one; between two of them the one with the even mantissa is taken. -/
namespace Conform

structure Binary64 where
  bits : UInt64
  deriving DecidableEq, Repr, Inhabited

namespace Binary64

def ofFloat (x : Float) : Binary64 := ⟨x.toBits⟩

def toFloat (x : Binary64) : Float := Float.ofBits x.bits

def isNegative (x : Binary64) : Bool := Nat.pow 2 63 ≤ x.bits.toNat

def exponentField (x : Binary64) : Nat := x.bits.toNat >>> 52 % Nat.pow 2 11

def fractionField (x : Binary64) : Nat := x.bits.toNat % Nat.pow 2 52

def isNaN (x : Binary64) : Bool := x.exponentField == 2047 && x.fractionField != 0

def isInfinite (x : Binary64) : Bool := x.exponentField == 2047 && x.fractionField == 0

/-- The magnitude is the mantissa times a power of two. -/
def mantissa (x : Binary64) : Nat :=
  if x.exponentField = 0 then x.fractionField else x.fractionField + Nat.pow 2 52

def exponent (x : Binary64) : Int := max x.exponentField 1 - 1075

/-- Numerator and denominator of the magnitude. An infinite one counts as 2 ^ 1024, which is more
than any finite one. -/
def magnitude (x : Binary64) : Nat × Nat :=
  (x.mantissa <<< x.exponent.toNat, 1 <<< (-x.exponent).toNat)

/-- The number as a fraction. -/
def ratio (x : Binary64) : Int × Nat :=
  let (num, den) := x.magnitude
  (if x.isNegative then -Int.ofNat num else Int.ofNat num, den)

/-- The number as an integer, if it is a whole one. -/
def toInt? (x : Binary64) : Option Int :=
  let (num, den) := x.ratio
  if !x.isInfinite && !x.isNaN && num % den == 0 then some (num / den) else none

/-- The integer next to the number on the side of zero. -/
def truncate (x : Binary64) : Int := x.ratio.1.tdiv x.ratio.2

/-- The nearest whole quotient, and of two the even one. -/
def roundedQuotient (num den : Nat) : Nat :=
  let q := num / den
  let rest := 2 * (num % den)
  if den < rest ∨ (rest = den ∧ q % 2 = 1) then q + 1 else q

/-- The exponent at which the mantissa of a fraction has 53 bits, or the least one. -/
def exponentOf (num den : Nat) : Int :=
  let guess : Int := Int.ofNat num.log2 - Int.ofNat den.log2 - 52
  let isBelow : Bool :=
    num <<< (-guess).toNat < den <<< (52 + guess.toNat)
  max (if isBelow then guess - 1 else guess) (-1074)

/-- The number nearest to a fraction. Beyond the greatest finite one lies the infinite one. -/
def ofRatio (negative : Bool) (num den : Nat) : Binary64 :=
  let sign : Nat := if negative then Nat.pow 2 63 else 0
  if num = 0 then ⟨UInt64.ofNat sign⟩
  else
    let e := exponentOf num den
    let m := roundedQuotient (num <<< (-e).toNat) (den <<< e.toNat)
    -- A mantissa of 2 ^ 53 carries into the exponent field by itself.
    let magnitude := m + (e + 1074).toNat <<< 52
    ⟨UInt64.ofNat (sign + min magnitude (2047 <<< 52))⟩

def ofInt (n : Int) : Binary64 := ofRatio (n < 0) n.natAbs 1

/-- The number nearest to some digits times a power of ten. -/
def ofDecimal (negative : Bool) (digits : Nat) (exponent : Int) : Binary64 :=
  let scale := exponent + Int.ofNat (Nat.toDigits 10 digits).length
  if digits = 0 ∨ scale < -330 then ofRatio negative 0 1
  else if 310 < scale then ofRatio negative (1 <<< 1024) 1
  else ofRatio negative (digits * Nat.pow 10 exponent.toNat) (Nat.pow 10 (-exponent).toNat)

def negate (x : Binary64) : Binary64 := ⟨x.bits ^^^ 0x8000000000000000⟩

end Binary64

end Conform
