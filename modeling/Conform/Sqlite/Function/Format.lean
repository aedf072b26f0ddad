import Conform.Sqlite.Value
import Conform.Text.Lenient
import Conform.Text.Scan

/-! Texts made from a pattern and values. A percent sign in the pattern begins a directive: flags, a
width, a precision, and a letter that says how the next value is written. -/
namespace Conform.Sqlite

open Text

/-- What a directive asks for, but for the kind of value. -/
structure Directive where
  /-- Is the rest of the width filled up on the right? -/
  leftward : Bool := false
  /-- What stands before a number that is not below zero. -/
  sign : List Char := []
  alternate : Bool := false
  /-- Are characters counted and not bytes, and are more digits told apart? -/
  full : Bool := false
  zeros : Bool := false
  grouped : Bool := false
  width : Int := 0
  precision : Option Nat := none
  deriving DecidableEq, Repr, Inhabited

namespace Directive

def flag? (d : Directive) : Char → Option Directive
  | '-' => some { d with leftward := true }
  | '+' => some { d with sign := ['+'] }
  | ' ' => some { d with sign := [' '] }
  | '#' => some { d with alternate := true }
  | '!' => some { d with full := true }
  | '0' => some { d with zeros := true }
  | ',' => some { d with grouped := true }
  | _ => none

def readFlags (d : Directive) : List Char → Directive × List Char
  | [] => (d, [])
  | c :: rest => match d.flag? c with
    | some d => readFlags d rest
    | none => (d, c :: rest)

/-- How far counts in a directive go. -/
def countLimit : Nat := 0x80000000

def readCount (s : List Char) : Nat × List Char :=
  let digits := s.takeWhile Char.isDigit
  (digitsValue digits % countLimit, s.drop digits.length)

/-- A count that is the next value; zero if there are no more values. -/
def takeCount : List Value → Int × List Value
  | [] => (0, [])
  | v :: rest => (v.asInteger.bmod 0x100000000, rest)

def readWidth (d : Directive) (s : List Char) (vs : List Value) :
    Directive × List Char × List Value :=
  match s with
  | '*' :: s =>
    let (n, vs) := takeCount vs
    let size : Int := if n = -countLimit then 0 else n.natAbs
    ({ d with width := size, leftward := d.leftward || n < 0 }, s, vs)
  | c :: rest =>
    if c.isDigit then
      let (n, s) := readCount (c :: rest)
      ({ d with width := n }, s, vs)
    else (d, c :: rest, vs)
  | [] => (d, [], vs)

def readPrecision (d : Directive) (s : List Char) (vs : List Value) :
    Directive × List Char × List Value :=
  match s with
  | '.' :: '*' :: s =>
    let (n, vs) := takeCount vs
    ({ d with precision := if n = -countLimit then none else some n.natAbs }, s, vs)
  | '.' :: s =>
    let (n, s) := readCount s
    ({ d with precision := some n }, s, vs)
  | s => (d, s, vs)

/-- The letters that told the size of a number once. -/
def skipSize : List Char → List Char
  | 'l' :: 'l' :: s | 'l' :: s => s
  | s => s

/-- A directive from after its percent sign: what it asks for, its letter, and the rest of the
pattern and of the values. -/
def read (s : List Char) (vs : List Value) :
    Option (Directive × Char × List Char × List Value) :=
  let (d, s) := readFlags {} s
  let (d, s, vs) := d.readWidth s vs
  let (d, s, vs) := d.readPrecision s vs
  match skipSize s with
  | letter :: s => some (d, letter, s, vs)
  | [] => none

/-- The text with spaces up to the width. -/
def padded (d : Directive) (width : Int) (s : List UInt8) : List UInt8 :=
  let spaces := List.replicate (width - s.length).toNat 0x20
  if d.leftward then s ++ spaces else spaces ++ s

/-- Bytes that continue a character do not count in the width where characters are counted. -/
def adjusted (width : Int) (s : List UInt8) : Int :=
  if 0 < width then width + (s.filter isContinuation).length else width

/-! ### Integers -/

/-- The ending of an ordinal number. -/
def ordinal (n : Nat) : List Char :=
  if n / 10 % 10 = 1 then "th".toList
  else match n % 10 with
    | 1 => "st".toList
    | 2 => "nd".toList
    | 3 => "rd".toList
    | _ => "th".toList

/-- An integer in some base, with a mark of the base before it. -/
def integer (d : Directive) (letter : Char) (n : Int) : List Char :=
  let isSigned := letter == 'd' || letter == 'i' || letter == 'r'
  let (base, mark) : Nat × List Char := match letter with
    | 'o' => (8, ['0'])
    | 'x' | 'p' => (16, ['0', 'x'])
    | 'X' => (16, ['0', 'X'])
    | _ => (10, [])
  let sign : List Char := if !isSigned then [] else if n < 0 then ['-'] else d.sign
  let size : Nat := if isSigned then n.natAbs else (n % wordCount).toNat
  let digits := (Nat.toDigits base size).map fun c => if letter == 'x' then c else c.toUpper
  let written := if letter == 'r' then digits ++ ordinal size else digits
  let least : Int := max ((d.precision.map Int.ofNat).getD (-1))
    (if d.zeros then d.width - sign.length else -1)
  let written := List.replicate (least - written.length).toNat '0' ++ written
  let isGrouped := d.grouped && (letter == 'd' || letter == 'i' || letter == 'u')
  (if d.alternate && size != 0 then mark else []) ++ sign ++
    (if isGrouped then RealStyle.groups written else written)

/-! ### Real numbers -/

/-- More places are not given. -/
def mostPlaces : Nat := 100000000

def style (d : Directive) (letter : Char) : RealStyle where
  kind := match letter with
    | 'f' => .fixed
    | 'e' | 'E' => .exponent
    | _ => .general
  precision := min (d.precision.getD 6) mostPlaces
  pointed := d.alternate
  full := d.full
  grouped := d.grouped
  letter := if letter == 'E' || letter == 'G' then 'E' else 'e'

/-- A real number. Where zeros fill the width, infinity is a nine with a thousand digits. -/
def real (d : Directive) (letter : Char) (x : Binary64) : List Char :=
  let isNegative := x.isNegative && x.mantissa != 0
  let sign : List Char := if isNegative then ['-'] else d.sign
  if x.isInfinite && !d.zeros then sign ++ "Inf".toList
  else
    let style := d.style letter
    let written := if x.isInfinite then style.write ⟨['9'], 1000⟩ else style.magnitude x
    let missing := d.width - (sign.length + written.length)
    let zeros := if d.zeros && !d.leftward then List.replicate missing.toNat '0' else []
    sign ++ zeros ++ written

/-! ### Texts -/

/-- What the precision leaves of a text, counted in characters or in bytes. -/
def shortened (d : Directive) (s : List UInt8) : List UInt8 :=
  match d.precision with
  | none => s
  | some n => if d.full then ((characters s).take n).flatten else s.take n

def string (d : Directive) (s : List UInt8) : List UInt8 :=
  let s := d.shortened s
  d.padded (if d.full then adjusted d.width s else d.width) s

/-- The first character as often as the precision says. Of an empty text it is a zero. -/
def character (d : Directive) (s : List UInt8) : List UInt8 :=
  let c : List UInt8 := match s with
    | [] => [0]
    | b :: rest => if isLeading b then b :: (rest.takeWhile isContinuation).take 3 else [b]
  let count := max (d.precision.getD 1) 1
  let others := (List.replicate (count - 1) c).flatten
  let width := d.width - Int.ofNat (count - 1)
  if 1 < count ∧ 1 < width ∧ !d.leftward then
    List.replicate (width - 1).toNat 0x20 ++ others ++ c
  else others ++ d.padded (adjusted width c) c

/-- A text with every quote written twice, perhaps between quotes. -/
def quoted (d : Directive) (letter : Char) (s : Option (List UInt8)) : List UInt8 :=
  let quote : UInt8 := if letter == 'w' then 0x22 else 0x27
  let shown := s.getD (utf8 (if letter == 'Q' then "NULL" else "(NULL)").toList)
  let doubled := (d.shortened shown).flatMap fun b => if b == quote then [b, b] else [b]
  let written := if letter == 'Q' && s.isSome then quote :: doubled ++ [quote] else doubled
  d.padded (if d.full then adjusted d.width written else d.width) written

/-- The letters that say how a value is written. -/
def letters : List Char := "diuoxXprfeEgGszcqQwn%".toList

/-- A value as its letter says, and the values left. -/
def write (d : Directive) (letter : Char) (vs : List Value) : List UInt8 × List Value :=
  let text : Option (List UInt8) := (vs.head?.bind (·.text?)).map (·.takeWhile (· != 0))
  let number (s : List Char) : List UInt8 × List Value := (d.padded d.width (utf8 s), vs.tail)
  if "diuoxXpr".toList.contains letter then
    number (d.integer letter ((vs.head?.map (·.asInteger)).getD 0))
  else if "feEgG".toList.contains letter then
    number (d.real letter ((vs.head?.map (·.asReal)).getD (Binary64.ofInt 0)))
  else if letter == 's' || letter == 'z' then (d.string (text.getD []), vs.tail)
  else if letter == 'c' then (d.character (text.getD []), vs.tail)
  else if letter == '%' then (d.padded d.width [0x25], vs)
  else if letter == 'n' then ([], vs)
  else (d.quoted letter text, vs.tail)

/-- A text has to be shorter than this. -/
def longestText : Nat := 1000000000

/-- Does the directive ask for more than a text can hold? -/
def isTooLong (d : Directive) (letter : Char) : Bool :=
  letter != 'n' && (longestText ≤ d.width ||
    ("diuoxXprc".toList.contains letter && longestText ≤ d.precision.getD 0))

end Directive

/-- The text that a pattern makes of values, in pieces. It ends at a directive that cannot be read.
Nothing is made if it would be too long. `fuel` bounds the directives. -/
def formatFrom : (fuel : Nat) → (pattern : List Char) → List Value → Option (List (List UInt8))
  | 0, _, _ => some []
  | fuel + 1, pattern, vs =>
    let plain := (pattern.takeWhile (· != '%')).map fun c => UInt8.ofNat c.toNat
    let before := if plain.isEmpty then [] else [plain]
    match pattern.dropWhile (· != '%') with
    | [] => some before
    | [_] => some (before ++ [[0x25]])
    | _ :: s => match Directive.read s vs with
      | none => some before
      | some (d, letter, s, vs) =>
        if !Directive.letters.contains letter then some before
        else if d.isTooLong letter then none
        else
          let (written, vs) := d.write letter vs
          (formatFrom fuel s vs).map fun rest => before ++ written :: rest

/-- The text that a pattern makes of values, unless there are no pieces of it at all. -/
def format (pattern : List UInt8) (vs : List Value) : Option (List UInt8) :=
  let chars := Text.ofBytes (pattern.takeWhile (· != 0))
  match formatFrom (chars.length + 1) chars vs with
  | none | some [] => none
  | some pieces => some pieces.flatten

end Conform.Sqlite
