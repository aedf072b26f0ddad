import Conform.Number.Binary64

/-! Numbers with 64 significant bits, no sign and no bounds on the exponent. Decimal numbers are
scaled in this format on their way to and from the binary64 format. -/
namespace Conform

structure Extended where
  mantissa : Nat
  exponent : Int
  deriving DecidableEq, Repr, Inhabited

namespace Extended

/-- The number of significant bits. -/
def precision : Nat := 64

/-- The nearest number whose mantissa is short enough, and of two the one with the even mantissa. -/
def rounded (x : Extended) : Extended :=
  let excess := x.mantissa.log2 + 1 - precision
  if excess = 0 then x
  else ⟨Binary64.roundedQuotient x.mantissa (1 <<< excess), x.exponent + excess⟩

def ofNat (n : Nat) : Extended := rounded ⟨n, 0⟩

/-- The number nearest to a fraction that is not zero. -/
def ofRatio (num den : Nat) : Extended :=
  let guess : Int := Int.ofNat num.log2 - Int.ofNat den.log2 - (precision - 1)
  let isBelow : Bool :=
    num <<< (-guess).toNat < den <<< (precision - 1 + guess.toNat)
  let e := if isBelow then guess - 1 else guess
  ⟨Binary64.roundedQuotient (num <<< (-e).toNat) (den <<< e.toNat), e⟩

/-- The number nearest to a power of ten. -/
def powerOfTen (n : Int) : Extended := ofRatio (Nat.pow 10 n.toNat) (Nat.pow 10 (-n).toNat)

/-- The product, rounded. -/
def mul (x y : Extended) : Extended := rounded ⟨x.mantissa * y.mantissa, x.exponent + y.exponent⟩

/-- Is the number below another? -/
def isBelow (x y : Extended) : Bool :=
  x.mantissa <<< (x.exponent - y.exponent).toNat < y.mantissa <<< (y.exponent - x.exponent).toNat

/-- The whole part. -/
def floor (x : Extended) : Nat := x.mantissa <<< x.exponent.toNat >>> (-x.exponent).toNat

/-- The magnitude of a finite number. -/
def ofBinary64 (x : Binary64) : Extended := ⟨x.mantissa, x.exponent⟩

/-- The binary64 number that is nearest. -/
def toBinary64 (negative : Bool) (x : Extended) : Binary64 :=
  Binary64.ofRatio negative (x.mantissa <<< x.exponent.toNat) (1 <<< (-x.exponent).toNat)

end Extended

end Conform
