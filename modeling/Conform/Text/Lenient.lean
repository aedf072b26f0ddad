import Conform.Text.Utf8

/-! Characters in bytes that need not be well-formed: a byte and, after a leading one, all bytes
that can continue it. Every list of bytes falls into such characters. -/
namespace Conform.Text

def isContinuation (b : UInt8) : Bool := b.toNat / 64 = 2

/-- Each byte as the character of that code. -/
def ofBytes (s : List UInt8) : List Char := s.map fun b => Char.ofNat b.toNat

/-- Does the byte begin a character of several bytes? -/
def isLeading (b : UInt8) : Bool := 0xC0 ≤ b.toNat

/-- The bytes of each character. -/
def characters : List UInt8 → List (List UInt8)
  | [] => []
  | b :: rest =>
    let n := if isLeading b then (rest.takeWhile isContinuation).length else 0
    (b :: rest.take n) :: characters (rest.drop n)
termination_by s => s.length

/-- What a leading byte says of the code. -/
def leadingBits (b : UInt8) : Nat :=
  let n := b.toNat
  if n < 0xE0 then n - 0xC0
  else if n < 0xF0 then n - 0xE0
  else if n < 0xF8 then n - 0xF0
  else if n < 0xFC then n - 0xF8
  else if n < 0xFE then n - 0xFC
  else 0

/-- The code that stands for bytes which mean no character. -/
def replacementCode : Nat := 0xFFFD

/-- The code of a character. Long spellings of the first codes, surrogates and the two codes that
are never used stand for nothing. -/
def codeOf : List UInt8 → Nat
  | [] => 0
  | b :: rest =>
    if !isLeading b then b.toNat
    else
      let code := rest.foldl (fun n c => (64 * n + c.toNat % 64) % 0x100000000) (leadingBits b)
      if code < 0x80 ∨ code / 0x800 = 0x1B ∨ code / 2 = 0x7FFF then replacementCode else code

/-- The codes of all characters before the first zero. -/
def codes (s : List UInt8) : List Nat := (characters (s.takeWhile (· != 0))).map codeOf

/-- The bytes of a code of at most twenty-one bits. -/
def encoded (code : Nat) : List UInt8 :=
  let tail (shift : Nat) : UInt8 := UInt8.ofNat (0x80 + code >>> shift % 64)
  if code < 0x80 then [UInt8.ofNat code]
  else if code < 0x800 then [UInt8.ofNat (0xC0 + code >>> 6), tail 0]
  else if code < 0x10000 then [UInt8.ofNat (0xE0 + code >>> 12), tail 6, tail 0]
  else [UInt8.ofNat (0xF0 + code >>> 18), tail 12, tail 6, tail 0]

end Conform.Text
