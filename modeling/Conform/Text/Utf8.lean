/-! Texts as bytes. Bytes that are no text are either refused, with the place and the extent of the
first fault, or replaced fault by fault. -/
namespace Conform.Text

/-- Where bytes stop being a text. -/
structure Utf8Fault where
  /-- The number of good bytes before the fault. -/
  place : Nat
  /-- The number of bytes that cannot be read; none if the bytes end within a character. -/
  extent : Option Nat
  deriving DecidableEq, Repr

def Utf8Fault.message (f : Utf8Fault) : String :=
  match f.extent with
  | some n => s!"invalid utf-8 sequence of {n} bytes from index {f.place}"
  | none => s!"incomplete utf-8 byte sequence from index {f.place}"

def utf8 (s : List Char) : List UInt8 := (String.ofList s).toUTF8.toList

/-- How the first bytes of a list read. -/
inductive Utf8Head where
  | character (c : Char) (length : Nat)
  | fault (length : Nat)
  | cut
  deriving DecidableEq, Repr

/-- Reads the remaining bytes of a character, the first of them between two bounds. `code` is what
has been read and `length` its number of bytes. -/
def utf8Tail (code length low high : Nat) : Nat → List UInt8 → Utf8Head
  | 0, _ => .character (Char.ofNat code) length
  | _ + 1, [] => .cut
  | n + 1, b :: rest =>
    if low ≤ b.toNat ∧ b.toNat ≤ high then
      utf8Tail (code * 64 + b.toNat % 64) (length + 1) 0x80 0xBF n rest
    else .fault length

/-- Reads one character. The bounds of the second byte keep out long spellings, surrogates and
what lies beyond the last character. -/
def utf8Head (b : UInt8) (rest : List UInt8) : Utf8Head :=
  let n := b.toNat
  if n < 0x80 then .character (Char.ofNat n) 1
  else if n < 0xC2 then .fault 1
  else if n < 0xE0 then utf8Tail (n % 32) 1 0x80 0xBF 1 rest
  else if n < 0xF0 then
    utf8Tail (n % 16) 1 (if n = 0xE0 then 0xA0 else 0x80) (if n = 0xED then 0x9F else 0xBF) 2 rest
  else if n < 0xF5 then
    utf8Tail (n % 8) 1 (if n = 0xF0 then 0x90 else 0x80) (if n = 0xF4 then 0x8F else 0xBF) 3 rest
  else .fault 1

/-- The text of bytes that begin at `place`, if there is no fault in them. -/
def ofUtf8From (place : Nat) : List UInt8 → Except Utf8Fault (List Char)
  | [] => .ok []
  | b :: rest => match utf8Head b rest with
    | .character c length =>
      (ofUtf8From (place + length) (rest.drop (length - 1))).map (c :: ·)
    | .fault length => .error ⟨place, some length⟩
    | .cut => .error ⟨place, none⟩
termination_by bytes => bytes.length

def ofUtf8 (bytes : List UInt8) : Except Utf8Fault (List Char) := ofUtf8From 0 bytes

/-- The text of bytes, with one mark in place of every fault. -/
def ofUtf8Lossy : List UInt8 → List Char
  | [] => []
  | b :: rest => match utf8Head b rest with
    | .character c length => c :: ofUtf8Lossy (rest.drop (length - 1))
    | .fault length => '\uFFFD' :: ofUtf8Lossy (rest.drop (length - 1))
    | .cut => ['\uFFFD']
termination_by bytes => bytes.length

end Conform.Text
