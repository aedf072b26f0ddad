import Conform.Number.Extended

/-! Decimal numbers read and taken apart by scaling with powers of ten, one rounding after the
other. The outcome may be off by a unit in the last place, in a way that is settled here. -/
namespace Conform

namespace Binary64

/-- The factors of a scaling: how much each adds to the power of ten. -/
def strides : List Nat := [100, 10, 1]

/-- A number times a power of ten, by as many long strides as there is room for, then by shorter
ones. -/
def scaled (x : Extended) (exponent : Int) : Extended :=
  let sign : Int := if exponent < 0 then -1 else 1
  let step (x : Extended) (n : Nat) : Extended := x.mul (Extended.powerOfTen (sign * Int.ofNat n))
  (strides.foldl (fun (x, left) n =>
    ((List.replicate (left / n) n).foldl step x, left % n)) (x, exponent.natAbs)).1

/-- Is every number with so great an exponent infinite, and with one so far below zero nothing? -/
def isFar (exponent : Int) : Bool := exponent < -400 || 400 < exponent

/-- The significand with as much of the exponent in it as fits. -/
def absorbed : (fuel : Nat) → (significand : Nat) → (exponent : Int) → Nat × Int
  | 0, s, e => (s, e)
  | fuel + 1, s, e =>
    if 0 < e ∧ s < 0xFFFFFFFFFFFFFFFF / 10 then absorbed fuel (10 * s) (e - 1)
    else if e < 0 ∧ s % 10 = 0 then absorbed fuel (s / 10) (e + 1)
    else (s, e)

/-- The number with a significand of 64 bits times a power of ten. What lies beyond the greatest
finite number is infinite. -/
def ofSignificand (negative : Bool) (significand : Nat) (exponent : Int) : Binary64 :=
  if significand = 0 then ofRatio negative 0 1
  else
    let (s, e) := absorbed 20 significand exponent
    if e = 0 then ofRatio negative s 1
    else if isFar e then ofRatio negative (if 0 < e then 1 <<< 1024 else 0) 1
    else
      let x := scaled (Extended.ofNat s) e
      if (Extended.mk (1 <<< 53 - 1) 971).isBelow x then ofRatio negative (1 <<< 1024) 1
      else x.toBinary64 negative

/-- Multiplies by a power of ten while `test` holds, and counts the powers. -/
def scaledWhile (test : Extended → Bool) (power : Int) : (fuel : Nat) → Extended × Int →
    Extended × Int
  | 0, r => r
  | fuel + 1, (x, e) =>
    if test x then scaledWhile test power fuel (x.mul (Extended.powerOfTen power), e - power)
    else (x, e)

/-- The whole number of eighteen or nineteen digits that a finite magnitude, not zero, begins with,
and the power of ten that goes with it. -/
def leadingDigits (x : Binary64) : Nat × Int :=
  let ten := Extended.powerOfTen
  let start : Extended × Int := (Extended.ofBinary64 x, 0)
  let (y, e) :=
    if start.1.isBelow (ten 19) then
      [(-97, 100), (7, 10), (17, 1)].foldl (fun r (bound, power) =>
        scaledWhile (·.isBelow (ten bound)) power 32 r) start
    else
      [(119, -100), (29, -10), (19, -1)].foldl (fun r (bound, power) =>
        scaledWhile (fun y => !y.isBelow (ten bound)) power 32 r) start
  (y.floor, e)

end Binary64

end Conform
