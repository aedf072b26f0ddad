import Conform.Sqlite.Collation
import Conform.Text.Lenient
import Conform.Text.Percent

/-! What functions do with texts and bytes. -/
namespace Conform.Sqlite

open Text

namespace Bytes

/-- What stands before the first zero. -/
def upToZero (s : List UInt8) : List UInt8 := s.takeWhile (· != 0)

/-- The number of characters before the first zero. -/
def length (s : List UInt8) : Nat := (characters (upToZero s)).length

/-- Where a part of some list begins and how long it is. Places are counted from one, or backwards
from the end if they are below zero; a length below zero goes to the left. -/
def span (size place : Int) (length : Option Int) : Nat × Nat :=
  let leftward := length.any (· < 0)
  let count : Int := length.elim 1000000000 fun n => n.natAbs
  let (start, count) : Int × Int :=
    if place < 0 then
      if place + size < 0 then (0, max 0 (count + (place + size))) else (place + size, count)
    else if 0 < place then (place - 1, count)
    else (0, if 0 < count then count - 1 else count)
  let (start, count) : Int × Int :=
    if leftward then
      if start - count < 0 then (0, count + (start - count)) else (start - count, count)
    else (start, count)
  (start.toNat, count.toNat)

def slice (s : List α) (place : Int) (length : Option Int) : List α :=
  let (start, count) := span s.length place length
  (s.drop start).take count

/-- The place of the first occurrence of a part, counted from one in steps from one character to
the next, or in bytes; zero if there is none. -/
def placeOf (isText : Bool) (part : List UInt8) : List UInt8 → Nat
  | [] => if part.isEmpty then 1 else 0
  | b :: rest =>
    if part.isPrefixOf (b :: rest) then 1
    else
      let n := if isText then (rest.takeWhile isContinuation).length else 0
      match placeOf isText part (rest.drop n) with
      | 0 => 0
      | n + 1 => n + 2
termination_by s => s.length

/-- The text with every occurrence of a part replaced. -/
def replaceAll (part other : List UInt8) : List UInt8 → List UInt8
  | [] => []
  | b :: rest =>
    if !part.isEmpty && part.isPrefixOf (b :: rest) then
      other ++ replaceAll part other (rest.drop (part.length - 1))
    else b :: replaceAll part other rest
termination_by s => s.length

/-- What is left without any of some parts at the beginning. -/
def withoutStart (parts : List (List UInt8)) : (fuel : Nat) → List UInt8 → List UInt8
  | 0, s => s
  | fuel + 1, s => match parts.find? (·.isPrefixOf s) with
    | some part => if s.isEmpty then s else withoutStart parts fuel (s.drop part.length)
    | none => s

/-- What is left without some characters at the beginning, at the end, or at both. -/
def trimmed (atStart atEnd : Bool) (s dropped : List UInt8) : List UInt8 :=
  let parts := characters (upToZero dropped)
  let s := if atStart then withoutStart parts s.length s else s
  if atEnd then (withoutStart (parts.map List.reverse) s.length s.reverse).reverse else s

def hexText (s : List UInt8) : List UInt8 :=
  utf8 (s.flatMap fun b =>
    let digits := (Nat.toDigits 16 b.toNat).map Char.toUpper
    if digits.length < 2 then '0' :: digits else digits)

/-- The bytes that hexadecimal digits spell. Between two bytes characters with some codes may
stand. -/
def ofHex? (ignored : List Nat) : (fuel : Nat) → List UInt8 → Option (List UInt8)
  | 0, s => if s.isEmpty then some [] else none
  | _ + 1, [] => some []
  | fuel + 1, b :: rest =>
    let digit? (b : UInt8) : Option Nat := hexDigit? (Char.ofNat b.toNat)
    match digit? b with
    | some high => match rest with
      | c :: rest => do
        let low ← digit? c
        return UInt8.ofNat (16 * high + low) :: (← ofHex? ignored fuel rest)
      | [] => none
    | none => match characters (b :: rest) with
      | c :: _ =>
        if ignored.contains (codeOf c) then ofHex? ignored fuel ((b :: rest).drop c.length)
        else none
      | [] => none

/-- The value of a letter in the code of a sound; vowels and some others have none. The highest bit
of a byte does not count. -/
def soundOf (b : UInt8) : Nat :=
  let c := (Char.ofNat (b.toNat % 128)).toUpper
  if "BFPV".toList.contains c then 1
  else if "CGJKQSXZ".toList.contains c then 2
  else if "DT".toList.contains c then 3
  else if c == 'L' then 4
  else if "MN".toList.contains c then 5
  else if c == 'R' then 6
  else 0

/-- The digits of sounds, where one that follows its like counts once. -/
def soundDigits (previous : Nat) : List UInt8 → List Nat
  | [] => []
  | b :: rest =>
    let code := soundOf b
    if 0 < code ∧ code ≠ previous then code :: soundDigits code rest else soundDigits code rest

/-- How a word sounds: its first letter and three digits. -/
def soundex (s : List UInt8) : List Char :=
  match (upToZero s).dropWhile fun b => !(Char.ofNat b.toNat).isAlpha with
  | [] => "?000".toList
  | b :: rest =>
    let digits := (soundDigits (soundOf b) rest).take 3
    (Char.ofNat b.toNat).toUpper ::
      (digits ++ List.replicate (3 - digits.length) 0).map Nat.digitChar

end Bytes

end Conform.Sqlite
