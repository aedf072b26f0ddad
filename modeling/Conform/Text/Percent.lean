import Conform.Text.Blank
import Conform.Text.Utf8

/-! Percent escapes: a percent sign and two hexadecimal digits stand for a byte. A percent sign
without two digits after it stands for itself. -/
namespace Conform.Text

def hexDigit? (c : Char) : Option Nat :=
  if c.isDigit then some (c.toNat - '0'.toNat)
  else if 'a' ≤ c ∧ c ≤ 'f' then some (c.toNat - 'a'.toNat + 10)
  else if 'A' ≤ c ∧ c ≤ 'F' then some (c.toNat - 'A'.toNat + 10)
  else none

/-- The byte that two digits spell. -/
def escapedByte? (high low : Char) : Option UInt8 := do
  return UInt8.ofNat ((← hexDigit? high) * 16 + (← hexDigit? low))

/-- The bytes of a text with its escapes resolved. -/
def percentDecode : List Char → List UInt8
  | '%' :: high :: low :: rest => match escapedByte? high low with
    | some b => b :: percentDecode rest
    | none => utf8 ['%'] ++ percentDecode (high :: low :: rest)
  | c :: rest => utf8 [c] ++ percentDecode rest
  | [] => []

/-- The names and values of a query, which stand between ampersands; a plus sign is a space. -/
def queryPairs (query : List Char) : List (String × String) :=
  let decode (s : List Char) : String :=
    String.ofList (ofUtf8Lossy (percentDecode (s.map fun c => if c = '+' then ' ' else c)))
  ((pieces (· == '&') query).filter (!·.isEmpty)).map fun piece =>
    (decode (piece.takeWhile (· != '=')), decode ((piece.dropWhile (· != '=')).drop 1))

end Conform.Text
