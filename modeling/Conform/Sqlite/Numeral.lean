import Conform.Number.Scaled
import Conform.Text.Utf8

/-! The number at the beginning of a text. A text is read in two ways: as a real number, and as an
integer of 64 bits. White space around a number does not count. -/
namespace Conform.Sqlite

/-- White space within values. -/
def isSpaceByte (b : UInt8) : Bool := b == 0x20 || (0x09 ≤ b && b ≤ 0x0D)

def isDigitByte (b : UInt8) : Bool := 0x30 ≤ b && b ≤ 0x39

def digitOf (b : UInt8) : Nat := b.toNat - 0x30

/-- The sign at the beginning, and what follows. -/
def splitSign : List UInt8 → Bool × List UInt8
  | b :: rest => if b == 0x2D then (true, rest) else (false, if b == 0x2B then rest else b :: rest)
  | [] => (false, [])

/-- How many integers of 64 bits there are. -/
def wordCount : Nat := 0x10000000000000000

/-- The least integer above those of 64 bits. -/
def wordLimit : Int := 0x8000000000000000

/-- Does the integer fit into 64 bits? -/
def fits (n : Int) : Bool := -wordLimit ≤ n && n < wordLimit

/-- The integer of 64 bits with these lowest bits. -/
def wrap (n : Int) : Int := n.bmod wordCount

/-- The integer of 64 bits next to an integer. -/
def clip (n : Int) : Int := max (-wordLimit) (min (wordLimit - 1) n)

/-- What kind of a number a text is. -/
inductive NumeralForm where
  /-- Digits alone. -/
  | integer
  /-- Digits with a point or an exponent. -/
  | real
  /-- It begins with a number that has a point or an exponent, and goes on. -/
  | begun
  /-- Anything else. -/
  | other
  deriving DecidableEq, Repr, Inhabited

/-- A real number at the beginning of a text: a significand times a power of ten. -/
structure Numeral where
  negative : Bool
  significand : Nat
  exponent : Int
  form : NumeralForm
  deriving DecidableEq, Repr, Inhabited

namespace Numeral

/-- A significand takes no further digits from here on. -/
def fullSignificand : Nat := (wordCount - 10) / 10

/-- Takes digits into a significand as long as it has room, and leaves the others. -/
def takeDigits (significand : Nat) : List UInt8 → Nat × List UInt8
  | [] => (significand, [])
  | b :: rest =>
    if significand < fullSignificand then takeDigits (10 * significand + digitOf b) rest
    else (significand, b :: rest)

/-- An exponent of five digits is as good as any greater one. -/
def exponentOf (digits : List UInt8) : Nat :=
  digits.foldl (fun n b => if n < 10000 then 10 * n + digitOf b else 10000) 0

def ofBytes (s : List UInt8) : Numeral :=
  let (negative, s) := splitSign (s.dropWhile isSpaceByte)
  let whole := s.takeWhile isDigitByte
  let s := s.drop whole.length
  let (significand, unused) := takeDigits 0 whole
  let (pointed, places, s) := match s with
    | 0x2E :: rest =>
      let places := rest.takeWhile isDigitByte
      (true, places, rest.drop places.length)
    | s => (false, [], s)
  let (significand, unusedPlaces) := takeDigits significand places
  let shift : Int := Int.ofNat unused.length - Int.ofNat (places.length - unusedPlaces.length)
  let (scaled, exponent, valid, s) : Bool × Int × Bool × List UInt8 := match s with
    | e :: rest =>
      if e == 0x65 || e == 0x45 then
        let (negative, rest) := splitSign rest
        let digits := rest.takeWhile isDigitByte
        let n := Int.ofNat (exponentOf digits)
        (true, if negative then -n else n, !digits.isEmpty, rest.drop digits.length)
      else (false, 0, true, e :: rest)
    | [] => (false, 0, true, [])
  let hasDigit := !whole.isEmpty || !places.isEmpty
  { negative, significand
    exponent := exponent + shift
    form :=
      if hasDigit && valid && s.all isSpaceByte then
        (if pointed || scaled then .real else .integer)
      else if hasDigit && ((pointed && scaled) || ((pointed || scaled) && valid)) then .begun
      else .other }

def value (n : Numeral) : Binary64 :=
  Binary64.ofSignificand n.negative n.significand n.exponent

end Numeral

/-- The real number at the beginning of a text; zero if there is none. -/
def realOf (s : List UInt8) : Binary64 := (Numeral.ofBytes s).value

/-- What stands after the digits of an integer. -/
inductive IntegerForm where
  /-- Nothing but white space. -/
  | alone
  /-- Something else. -/
  | followed
  /-- There are no digits. -/
  | missing
  deriving DecidableEq, Repr, Inhabited

/-- An integer at the beginning of a text. -/
structure IntegerNumeral where
  /-- The integer without regard to its size. -/
  exact : Int
  form : IntegerForm
  deriving DecidableEq, Repr, Inhabited

namespace IntegerNumeral

def ofBytes (s : List UInt8) : IntegerNumeral :=
  let (negative, s) := splitSign (s.dropWhile isSpaceByte)
  let digits := s.takeWhile isDigitByte
  let n := Int.ofNat (digits.foldl (fun n b => 10 * n + digitOf b) 0)
  { exact := if negative then -n else n
    form :=
      if digits.isEmpty then .missing
      else if (s.drop digits.length).all isSpaceByte then .alone
      else .followed }

/-- The integer next to it within 64 bits. -/
def value (n : IntegerNumeral) : Int := clip n.exact

/-- Does it fit into 64 bits? -/
def isExact (n : IntegerNumeral) : Bool := fits n.exact

end IntegerNumeral

/-- The integer at the beginning of a text; zero if there is none. -/
def integerOf (s : List UInt8) : Int := (IntegerNumeral.ofBytes s).value

end Conform.Sqlite
