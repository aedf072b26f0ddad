import Conform.Sqlite.Affinity
import Conform.Sqlite.Expression.Basic

/-! Operators on values, but for those that compare. -/
namespace Conform.Sqlite

namespace Value

def ofTruth (b : Option Bool) : Value := b.elim null ofBool

def ofReal (x : Float) : Value := if x.isNaN then null else real (Binary64.ofFloat x)

/-- An integer if both numbers are and the result fits, or else a real number. -/
def arithmetic (whole : Int → Int → Int) (broken : Float → Float → Float) (v w : Value) : Value :=
  match v.asNumber, w.asNumber with
  | null, _ | _, null => null
  | integer m, integer n =>
    if fits (whole m n) then integer (whole m n) else ofReal (broken (toFloat v) (toFloat w))
  | _, _ => ofReal (broken (toFloat v) (toFloat w))
where
  toFloat (v : Value) : Float := v.asReal.toFloat

/-- A quotient; by zero there is none. -/
def quotient (v w : Value) : Value :=
  match w.truth? with
  | some true => arithmetic Int.tdiv (· / ·) v w
  | _ => null

/-- What is left of a division of integers. -/
def rest (v w : Value) : Value :=
  if v.isNull || w.isNull || w.asInteger = 0 then null
  else
    let n := v.asInteger.tmod w.asInteger
    match v.asNumber, w.asNumber with
    | integer _, integer _ => integer n
    | _, _ => real (Binary64.ofInt n)

def shifted (n count : Int) : Int :=
  if 0 ≤ count then (if count < 64 then wrap (n <<< count.toNat) else 0)
  else if -64 < count then n >>> (-count).toNat
  else if n < 0 then -1 else 0

def onIntegers (f : Int → Int → Int) (v w : Value) : Value :=
  if v.isNull || w.isNull then null else integer (f v.asInteger w.asInteger)

def bitwise (f : Nat → Nat → Nat) (m n : Int) : Int :=
  wrap (f (m % wordCount).toNat (n % wordCount).toNat)

/-- Each bit the other way. -/
def complement (v : Value) : Value :=
  if v.isNull then null else integer (-v.asInteger - 1)

def negated (v : Value) : Value := arithmetic (· - ·) (· - ·) (integer 0) v

def joined (v w : Value) : Value :=
  match v.text?, w.text? with
  | some s, some t => text (s ++ t)
  | _, _ => null

def both : Option Bool → Option Bool → Option Bool
  | some false, _ | _, some false => some false
  | some true, some true => some true
  | _, _ => none

def either : Option Bool → Option Bool → Option Bool
  | some true, _ | _, some true => some true
  | some false, some false => some false
  | _, _ => none

/-- The value turned into the type of the affinity. -/
def converted : Affinity → Value → Value
  | _, null => null
  | .blob, v => blob v.bytes
  | .text, v => text v.bytes
  | .integer, v => integer v.asInteger
  | .real, v => real v.asReal
  | .numeric, v => v.toNumber

/-- What an operator gives that does not compare. -/
def operate (op : BinaryOperator) (v w : Value) : Value :=
  match op with
  | .or => ofTruth (either v.truth? w.truth?)
  | .and => ofTruth (both v.truth? w.truth?)
  | .bitAnd => onIntegers (bitwise (· &&& ·)) v w
  | .bitOr => onIntegers (bitwise (· ||| ·)) v w
  | .shiftLeft => onIntegers shifted v w
  | .shiftRight => onIntegers (fun n count => shifted n (-count)) v w
  | .add => arithmetic (· + ·) (· + ·) v w
  | .subtract => arithmetic (· - ·) (· - ·) v w
  | .multiply => arithmetic (· * ·) (· * ·) v w
  | .divide => quotient v w
  | .remainder => rest v w
  | .concatenate => joined v w
  | .equal | .notEqual | .is | .isNot | .less | .lessOrEqual | .greater | .greaterOrEqual => null

end Value

end Conform.Sqlite
