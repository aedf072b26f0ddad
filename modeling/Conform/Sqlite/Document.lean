import Conform.Sqlite.Value
import Conform.Text.Lenient
import Conform.Text.Percent

/-! Documents of JSON as the database keeps them: numbers and texts as they were written. Some
spellings are not those of plain JSON, and are put right only when the document is written out. -/
namespace Conform.Sqlite

/-- How the text of a document is spelled. -/
inductive Spelling where
  /-- Each character stands for itself, and needs no escape. -/
  | plain
  /-- With escapes of plain JSON. -/
  | escaped
  /-- With other escapes, or with characters that need one. -/
  | loose
  /-- Each character stands for itself, and may need an escape. -/
  | raw
  deriving DecidableEq, Repr, Inhabited

inductive Document where
  | null
  | bool (b : Bool)
  /-- An integer; a loose one is hexadecimal. -/
  | integer (isLoose : Bool) (spelling : List UInt8)
  /-- A real number; a loose one has no digit on one side of its point. -/
  | real (isLoose : Bool) (spelling : List UInt8)
  | text (spelling : Spelling) (s : List UInt8)
  | array (items : List Document)
  /-- Labels and values in turn. Labels are texts. -/
  | object (parts : List Document)
  deriving Repr, Inhabited

namespace Document

open Text

def isHexByte (b : UInt8) : Bool := (hexDigit? (Char.ofNat b.toNat)).isSome

def hexByteValue (b : UInt8) : Nat := (hexDigit? (Char.ofNat b.toNat)).getD 0

def ascii (s : String) : List UInt8 := utf8 s.toList

/-! ### Writing -/

/-- The escape of a control character. -/
def controlEscape (b : UInt8) : List UInt8 :=
  match b with
  | 0x08 => ascii "\\b"
  | 0x09 => ascii "\\t"
  | 0x0A => ascii "\\n"
  | 0x0C => ascii "\\f"
  | 0x0D => ascii "\\r"
  | b => ascii "\\u00" ++ [UInt8.ofNat (0x30 + b.toNat / 16)] ++
      utf8 [Nat.digitChar (b.toNat % 16)]

/-- A text with escapes where they are needed, between quotes. -/
def quoted (s : List UInt8) : List UInt8 :=
  0x22 :: s.flatMap (fun b =>
    if b == 0x22 || b == 0x5C then [0x5C, b]
    else if b < 0x20 then controlEscape b
    else [b]) ++ [0x22]

/-- Does the text begin with a line separator beyond ASCII? -/
def startsSeparator : List UInt8 → Bool
  | 0xE2 :: 0x80 :: 0xA8 :: _ | 0xE2 :: 0x80 :: 0xA9 :: _ => true
  | _ => false

/-- A text with loose escapes, written with plain ones. A vertical tab becomes a horizontal one. -/
def tightened : List UInt8 → List UInt8
  | [] => []
  | 0x5C :: rest => match rest with
    | 0x27 :: rest => 0x27 :: tightened rest
    | 0x76 :: rest => ascii "\\u0009" ++ tightened rest
    | 0x78 :: a :: b :: rest => ascii "\\u00" ++ [a, b] ++ tightened rest
    | 0x30 :: rest => ascii "\\u0000" ++ tightened rest
    | 0x0D :: 0x0A :: rest => tightened rest
    | 0x0D :: rest => tightened rest
    | 0x0A :: rest => tightened rest
    | 0xE2 :: _ :: _ :: rest => tightened rest
    | b :: rest => 0x5C :: b :: tightened rest
    | [] => []
  | b :: rest =>
    if b == 0x22 then 0x5C :: b :: tightened rest
    else if b < 0x20 then controlEscape b ++ tightened rest
    else b :: tightened rest

/-- A hexadecimal integer in decimal digits. One of more than 64 bits is beyond all numbers. -/
def ofHexadecimal (spelling : List UInt8) : List UInt8 :=
  let (sign, digits) : List UInt8 × List UInt8 := match spelling with
    | 0x2D :: _ :: _ :: digits => ([0x2D], digits)
    | _ :: _ :: digits => ([], digits)
    | _ => ([], [])
  let n := digits.foldl (fun n b => 16 * n + hexByteValue b) 0
  sign ++ (if n < wordCount then ascii (toString n) else ascii "9.0e999")

/-- A real number with a digit on both sides of its point. -/
def withDigits (isFirst : Bool) : List UInt8 → List UInt8
  | [] => []
  | 0x2D :: rest => 0x2D :: withDigits isFirst rest
  | 0x2E :: rest =>
    (if isFirst then [0x30] else []) ++ 0x2E ::
      (if (rest.head?).any isDigitByte then [] else [0x30]) ++ withDigits false rest
  | b :: rest => b :: withDigits false rest

/-- A document that is no list of others. -/
def leafText : Document → List UInt8
  | null => ascii "null"
  | bool b => ascii (if b then "true" else "false")
  | integer false s | real false s => s
  | integer true s => ofHexadecimal s
  | real true s => withDigits true s
  | text .plain s | text .escaped s => 0x22 :: s ++ [0x22]
  | text .loose s => 0x22 :: tightened s ++ [0x22]
  | text .raw s => quoted s
  | array _ | object _ => []

mutual

/-- The document as text, without white space. -/
def render : Document → List UInt8
  | array items => 0x5B :: renderItems items ++ [0x5D]
  | object parts => 0x7B :: renderParts parts ++ [0x7D]
  | d => leafText d

def renderItems : List Document → List UInt8
  | [] => []
  | [d] => render d
  | d :: rest => render d ++ 0x2C :: renderItems rest

def renderParts : List Document → List UInt8
  | [] => []
  | [label] => render label
  | [label, d] => render label ++ 0x3A :: render d
  | label :: d :: rest => render label ++ 0x3A :: render d ++ 0x2C :: renderParts rest

end

mutual

/-- The document as text with every item on a line of its own. -/
def renderLines (indent : List UInt8) (depth : Nat) : Document → List UInt8
  | array [] => ascii "[]"
  | object [] => ascii "\x7b\x7d"
  | array items => ascii "[\n" ++ lineItems indent (depth + 1) items ++ 0x0A ::
      (List.replicate depth indent).flatten ++ [0x5D]
  | object parts => ascii "\x7b\n" ++ lineParts indent (depth + 1) parts ++ 0x0A ::
      (List.replicate depth indent).flatten ++ [0x7D]
  | d => leafText d

def lineItems (indent : List UInt8) (depth : Nat) : List Document → List UInt8
  | [] => []
  | d :: rest => (List.replicate depth indent).flatten ++ renderLines indent depth d ++
      (if rest.isEmpty then [] else ascii ",\n" ++ lineItems indent depth rest)

def lineParts (indent : List UInt8) (depth : Nat) : List Document → List UInt8
  | [] => []
  | [label] => leafText label
  | label :: d :: rest => (List.replicate depth indent).flatten ++ leafText label ++
      ascii ": " ++ renderLines indent depth d ++
      (if rest.isEmpty then [] else ascii ",\n" ++ lineParts indent depth rest)

end

/-! ### The texts that are meant -/

/-- What follows escaped ends of lines. -/
def skipLines : List UInt8 → List UInt8
  | 0x5C :: 0x0A :: rest => skipLines rest
  | 0x5C :: 0x0D :: 0x0A :: rest => skipLines rest
  | 0x5C :: 0x0D :: rest => skipLines rest
  | 0x5C :: 0xE2 :: 0x80 :: 0xA8 :: rest => skipLines rest
  | 0x5C :: 0xE2 :: 0x80 :: 0xA9 :: rest => skipLines rest
  | s => s

def unitOf (a b c d : UInt8) : Nat :=
  ((hexByteValue a * 16 + hexByteValue b) * 16 + hexByteValue c) * 16 + hexByteValue d

/-- What an escape, after its backslash, stands for, unless that is nothing; and what follows. -/
def unescape : List UInt8 → Option Nat × List UInt8
  | 0x75 :: a :: b :: c :: d :: rest =>
    let high := unitOf a b c d
    let single : Option Nat × List UInt8 := (some high, rest)
    if high / 0x400 = 0x36 then
      match rest with
      | 0x5C :: 0x75 :: a :: b :: c :: d :: later =>
        let low := unitOf a b c d
        if low / 0x400 = 0x37 then
          (some ((high % 0x400) * 0x400 + low % 0x400 + 0x10000), later)
        else single
      | _ => single
    else single
  | 0x75 :: _ => (none, [])
  | 0x78 :: a :: b :: rest => (some (hexByteValue a * 16 + hexByteValue b), rest)
  | 0x78 :: _ => (none, [])
  | b :: rest =>
    let simple : Option Nat := match b with
      | 0x62 => some 8
      | 0x66 => some 12
      | 0x6E => some 10
      | 0x72 => some 13
      | 0x74 => some 9
      | 0x76 => some 11
      | 0x30 => some 0
      | 0x22 | 0x27 | 0x2F | 0x5C => some b.toNat
      | _ => none
    (simple, rest)
  | [] => (none, [])

/-- The codes and single bytes that a text with escapes stands for; `fuel` is at least the length of
the text. A text that ends with an escaped end of line has a zero there. -/
def unescaped : (fuel : Nat) → List UInt8 → List (Nat ⊕ UInt8)
  | 0, _ | _, [] => []
  | fuel + 1, 0x5C :: rest =>
    let isLine := match rest with
      | 0x0A :: _ | 0x0D :: _ => true
      | s => startsSeparator s
    if isLine then
      match skipLines (0x5C :: rest) with
      | [] => [.inl 0]
      | later => unescaped fuel later
    else
      let (code, later) := unescape rest
      code.toList.map .inl ++ unescaped fuel later
  | fuel + 1, b :: rest => .inr b :: unescaped fuel rest

/-- The text that is meant. -/
def meaning : Spelling → List UInt8 → List UInt8
  | .plain, s | .raw, s => s
  | .escaped, s | .loose, s => (unescaped s.length s).flatMap fun
    | .inl code => encoded code
    | .inr b => [b]

/-- What an integer is. One that is too large for 64 bits is real. -/
def integerValue? (spelling : List UInt8) : Option Value :=
  let (negative, s) : Bool × List UInt8 := match spelling with
    | 0x2D :: s => (true, s)
    | s => (false, s)
  match s with
  | 0x30 :: x :: digits =>
    if x == 0x78 || x == 0x58 then
      let n := digits.foldl (fun n b => 16 * n + hexByteValue b) 0
      if n < wordCount then
        some (.integer (wrap (if negative then -wrap n else wrap n)))
      else none
    else decimal
  | _ => decimal
where
  decimal : Option Value :=
    let n := IntegerNumeral.ofBytes spelling
    some (if n.isExact then .integer n.value else .real (realOf spelling))

/-- The value of a document that is no list of others. -/
def leafValue? : Document → Option Value
  | null => some .null
  | bool b => some (.ofBool b)
  | integer _ s => integerValue? s
  | real _ s => some (.real (realOf s))
  | text spelling s => some (.text (meaning spelling s))
  | array _ | object _ => none

def isLeaf : Document → Bool
  | array _ | object _ => false
  | null | bool _ | integer .. | real .. | text .. => true

/-- The kind of a document. -/
def kind : Document → String
  | null => "null"
  | bool b => if b then "true" else "false"
  | integer .. => "integer"
  | real .. => "real"
  | text .. => "text"
  | array _ => "array"
  | object _ => "object"

/-- Do two labels mean the same text? -/
def sameLabel (a b : Spelling × List UInt8) : Bool := meaning a.1 a.2 == meaning b.1 b.2

end Document

end Conform.Sqlite
