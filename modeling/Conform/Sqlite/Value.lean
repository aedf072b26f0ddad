import Conform.Number.Written
import Conform.Sqlite.Numeral

/-! Stored values: nulls, integers of 64 bits, binary64 numbers, texts and bytes; how they turn
into one another, and how they are compared. A text is kept as its bytes, which need not be
well-formed. -/
namespace Conform.Sqlite

inductive Value where
  | null
  | integer (n : Int)
  | real (x : Binary64)
  | text (bytes : List UInt8)
  | blob (bytes : List UInt8)
  deriving DecidableEq, Repr, Inhabited

/-- The text of a real number: fifteen digits, and a point in any case. -/
def realStyle : RealStyle := { kind := .general, precision := 15, full := true }

/-- A finite number with its sign; zero has none. -/
def signedText (style : RealStyle) (x : Binary64) : List Char :=
  if x.isNegative && x.mantissa != 0 then '-' :: style.magnitude x else style.magnitude x

def realText (x : Binary64) : List Char :=
  if x.isInfinite then (if x.isNegative then "-Inf" else "Inf").toList
  else signedText realStyle x

namespace Value

def ofChars (s : List Char) : Value := text (Text.utf8 s)

def ofString (s : String) : Value := ofChars s.toList

def isNull : Value → Bool
  | null => true
  | integer _ | real _ | text _ | blob _ => false

def isText : Value → Bool
  | text _ => true
  | null | integer _ | real _ | blob _ => false

/-- The value as a text, unless it is null. -/
def text? : Value → Option (List UInt8)
  | null => none
  | integer n => some (Text.utf8 (toString n).toList)
  | real x => some (Text.utf8 (realText x))
  | text s | blob s => some s

/-- The bytes of the value as a text; none of a null. -/
def bytes (v : Value) : List UInt8 := v.text?.getD []

/-! ### Numbers -/

/-- Small enough that no other integer is the same real number. -/
def isShort (n : Int) : Bool := -0x8000000000000 ≤ n && n < 0x8000000000000

/-- The integer that a real number is the same as. -/
def sameInteger? (x : Binary64) : Option Int :=
  if x.mantissa = 0 then some 0 else x.toInt?.filter isShort

/-- A real number that is a whole one within 64 bits, as an integer. The ends are left out. -/
def simplified : Value → Value
  | real x => match x.toInt? with
    | some n => if fits (n - 1) && fits (n + 1) then integer n else real x
    | none => real x
  | v => v

/-- The number that a text is, if it is one. -/
def ofNumeral? (s : List UInt8) : Option Value :=
  let n := Numeral.ofBytes s
  match n.form with
  | .integer =>
    let whole := IntegerNumeral.ofBytes s
    some (match sameInteger? n.value with
      | some i => integer i
      | none => if whole.isExact then integer whole.value else real n.value)
  | .real => some (real n.value)
  | .begun | .other => none

/-- A text that is a number turns into it. -/
def numeric : Value → Value
  | text s => (ofNumeral? s).getD (text s)
  | v => v

/-- The number that a value counts as in arithmetic: of a text, what it begins with. -/
def asNumber : Value → Value
  | null => null
  | integer n => integer n
  | real x => real x
  | text s | blob s =>
    let n := Numeral.ofBytes s
    let whole := IntegerNumeral.ofBytes s
    let isInteger := whole.isExact && match n.form with
      | .integer => whole.form == .alone
      | .other => true
      | .real | .begun => false
    if isInteger then integer whole.value else real n.value

/-- The number that a value is turned into. -/
def toNumber : Value → Value
  | text s | blob s =>
    let n := Numeral.ofBytes s
    let whole := IntegerNumeral.ofBytes s
    if (n.form == .integer || n.form == .other) && whole.isExact then integer whole.value
    else match sameInteger? n.value with
      | some i => integer i
      | none => real n.value
  | v => v

/-- The real number that a value counts as. -/
def asReal : Value → Binary64
  | null => Binary64.ofInt 0
  | integer n => Binary64.ofInt n
  | real x => x
  | text s | blob s => realOf s

/-- The integer that a value counts as. -/
def asInteger : Value → Int
  | null => 0
  | integer n => n
  | real x => clip x.truncate
  | text s | blob s => integerOf s

/-- Truth: a number that is not zero. Of a null nothing is known. -/
def truth? : Value → Option Bool
  | null => none
  | integer n => some (n != 0)
  | v => some (v.asReal.mantissa != 0)

/-- Is the value true, where a null counts as told? -/
def isTrue (nullAs : Bool) (v : Value) : Bool := v.truth?.getD nullAs

def ofBool (b : Bool) : Value := integer (if b then 1 else 0)

/-! ### Order -/

/-- The kinds of values in order. Integers and reals are of one kind. -/
def rank : Value → Nat
  | null => 0
  | integer _ | real _ => 1
  | text _ => 2
  | blob _ => 3

/-- The number as a fraction. -/
def ratio : Value → Int × Nat
  | integer n => (n, 1)
  | real x => x.ratio
  | null | text _ | blob _ => (0, 1)

/-- The order of bytes. -/
def compareBytes : List UInt8 → List UInt8 → Ordering
  | [], [] => .eq
  | [], _ :: _ => .lt
  | _ :: _, [] => .gt
  | b :: s, c :: t => (Ord.compare b.toNat c.toNat).then (compareBytes s t)

/-- Nulls come first, then numbers, then texts, then bytes. -/
def compare (v w : Value) : Ordering :=
  match v, w with
  | text s, text t | blob s, blob t => compareBytes s t
  | v, w =>
    if v.rank != w.rank then Ord.compare v.rank w.rank
    else
      let (m, a) := v.ratio
      let (n, b) := w.ratio
      Ord.compare (m * b) (n * a)

end Value

end Conform.Sqlite
