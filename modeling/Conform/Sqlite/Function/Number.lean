import Conform.Sqlite.Collation
import Conform.Sqlite.Function.Basic
import Conform.Sqlite.Function.Format

/-! Functions of numbers, and the least and the greatest of some values. -/
namespace Conform.Sqlite

namespace Value

def magnitude : Value → Answer
  | .null => .null
  | .integer n =>
    if n = -wordLimit then .error .overflow else .integer n.natAbs
  | v =>
    let x := v.asReal
    .real (if x.isNegative && x.mantissa != 0 then x.negate else x)

/-- Minus one, zero or one; nothing for what is no number. -/
def sign (v : Value) : Value :=
  match v.numeric with
  | .integer n => .integer n.sign
  | .real x => .integer (if x.mantissa = 0 then 0 else if x.isNegative then -1 else 1)
  | .null | .text _ | .blob _ => .null

/-- From here on all real numbers are whole. -/
def wholeLimit : Float := 4503599627370496.0

/-- The number with so many places after the point. -/
def rounded (x : Binary64) (places : Nat) : Binary64 :=
  let y := x.toFloat
  if y < -wholeLimit || wholeLimit < y then x
  else if places = 0 then .ofInt (Float.toInt64 (y + (if y < 0 then -0.5 else 0.5))).toInt
  else realOf (Text.utf8 (signedText { kind := .fixed, precision := places, full := true } x))

/-- The least of the values, and of equal ones the last. -/
def least (c : Collation) : List Computed → Computed
  | [] => ⟨.null, false⟩
  | v :: rest => rest.foldl (fun best w =>
      if c.compare w.value best.value = .gt then best else w) v

/-- The greatest of the values, and of equal ones the first. -/
def greatest (c : Collation) : List Computed → Computed
  | [] => ⟨.null, false⟩
  | v :: rest => rest.foldl (fun best w =>
      if c.compare w.value best.value = .gt then w else best) v

/-- The text of a real number that reads back as the number. -/
def exactText (x : Binary64) : List Char :=
  if x.isInfinite then (if x.isNegative then "-9.0e+999" else "9.0e+999").toList
  else
    let written := realText x
    if realOf (Text.utf8 written) = x || x.mantissa = 0 then written
    else signedText { kind := .exponent, precision := 20, full := true } x

end Value

end Conform.Sqlite
