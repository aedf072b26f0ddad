import Conform.Sqlite.Value

/-! Which texts count as equal, and their order. Texts are compared by what a collation leaves of
them, so that equality of values becomes plain equality of their canonical forms. -/
namespace Conform.Sqlite

inductive Collation where
  | binary
  /-- Without regard to the case of the letters a to z. -/
  | nocase
  /-- Without regard to spaces at the end. -/
  | rtrim
  deriving DecidableEq, Repr, Inhabited

/-- The small letter for a letter from A to Z. -/
def smallByte (b : UInt8) : UInt8 := if 0x41 ≤ b && b ≤ 0x5A then b + 0x20 else b

/-- The capital letter for a letter from a to z. -/
def capitalByte (b : UInt8) : UInt8 := if 0x61 ≤ b && b ≤ 0x7A then b - 0x20 else b

namespace Collation

def ofName? (name : String) : Option Collation :=
  [("binary", binary), ("nocase", nocase), ("rtrim", rtrim)].lookup
    (String.ofList (name.toList.map Char.toLower))

/-- What counts of a text. -/
def fold : Collation → List UInt8 → List UInt8
  | binary, s => s
  | nocase, s => s.map smallByte
  | rtrim, s => (s.reverse.dropWhile (· == 0x20)).reverse

/-- What counts of a value. A whole real number is an integer. -/
def canonical (c : Collation) : Value → Value
  | .text s => .text (c.fold s)
  | .real x => (x.toInt?).elim (.real x) .integer
  | v => v

def compare (c : Collation) (v w : Value) : Ordering := (c.canonical v).compare (c.canonical w)

end Collation

end Conform.Sqlite
