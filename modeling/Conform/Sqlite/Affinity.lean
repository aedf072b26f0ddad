import Conform.Sqlite.Token
import Conform.Sqlite.Value
import Conform.Text.Case
import Conform.Text.Scan

/-! What the declared type of a column means: the kind of value that it prefers, and how much room
its values are taken to need. -/
namespace Conform.Sqlite

open Text (sameLetters digitsValue)

inductive Affinity where
  | blob
  | text
  | numeric
  | integer
  | real
  deriving DecidableEq, Repr, Inhabited

/-- The types that say exactly what a column of a strict table may hold. -/
inductive Datatype where
  | any
  | blob
  | int
  | integer
  | real
  | text
  deriving DecidableEq, Repr, Inhabited

/-- May a column of a strict table hold the value? A null is of no type. -/
def Datatype.admits : Datatype → Value → Bool
  | _, .null | any, _ | blob, .blob _ | int, .integer _ | integer, .integer _
  | real, .real _ | text, .text _ => true
  | _, _ => false

/-- A type as the catalog tells it. -/
structure ColumnType where
  name : String := ""
  affinity : Affinity := .blob
  /-- The room that a value takes, in units of the room of an integer. -/
  width : Nat := 1
  datatype : Option Datatype := none
  deriving DecidableEq, Repr, Inhabited

namespace Affinity

def isNumeric : Affinity → Bool
  | numeric | integer | real => true
  | blob | text => false

/-- What an index is asked for with: numbers of all kinds stand as they are. -/
def sought : Affinity → Affinity
  | numeric | integer | real => numeric
  | affinity => affinity

/-- The affinity of a type, after the affinity of the words seen so far, with the rest of the type
after the last word that says how long a text is. -/
def scan (found : Affinity) (size : Option (List Char)) : List Char →
    Affinity × Option (List Char)
  | [] => (found, size)
  | c :: rest =>
    let s := c :: rest
    let starts (word : String) : Bool := word.toList.isPrefixOf s
    if starts "int" then (integer, size)
    else if starts "char" then scan text (some (s.drop 4)) rest
    else if starts "clob" || starts "text" then scan text size rest
    else if starts "blob" && (found == numeric || found == real) then
      scan blob (if (s.drop 4).head? == some '(' then some (s.drop 4) else size) rest
    else if (starts "real" || starts "floa" || starts "doub") && found == numeric then
      scan real size rest
    else scan found size rest

/-- The value in a column of this affinity. -/
def apply : Affinity → Value → Value
  | blob, v => v
  | text, v => match v with
    | .integer _ | .real _ => .text v.bytes
    | v => v
  | numeric, v | integer, v => v.numeric.simplified
  | real, v => match v.numeric.simplified with
    | .integer n => .real (Binary64.ofInt n)
    | w => w

end Affinity

namespace ColumnType

/-- The types that are known by name. -/
def standard : List ColumnType := [
  ⟨"ANY", .numeric, 1, some .any⟩, ⟨"BLOB", .blob, 5, some .blob⟩,
  ⟨"INT", .integer, 1, some .int⟩, ⟨"INTEGER", .integer, 1, some .integer⟩,
  ⟨"REAL", .real, 1, some .real⟩, ⟨"TEXT", .text, 5, some .text⟩]

/-- Is the type exactly INTEGER? -/
def isInteger (t : ColumnType) : Bool := t.datatype == some .integer

/-- The type in a strict table, where ANY takes every value as it is. -/
def asStrict (t : ColumnType) : ColumnType :=
  if t.datatype = some .any then { t with affinity := .blob } else t

/-- Any other type. The first number in it says how long its texts are. -/
def ofName (name : String) : ColumnType :=
  let (affinity, size) := Affinity.scan .numeric none (name.toList.map Char.toLower)
  let length := match size with
    | some rest => digitsValue ((rest.dropWhile (!·.isDigit)).takeWhile Char.isDigit)
    | none => 16
  { name, affinity
    width := if affinity.isNumeric then 1
      else min 255 (if length < 0x80000000 then length / 4 + 1 else 1) }

def isQuote (c : Char) : Bool := c == '"' || c == '\'' || c == '[' || c == '\x60'

/-- A type without its quotes, if no quote stands between them. -/
def unwrapped (s : List Char) : List Char :=
  if s.head?.any isQuote && !((s.drop 1).dropLast.any isQuote) then (s.drop 1).dropLast else s

/-- What the quote at the beginning of a type encloses. -/
def firstQuoted (s : List Char) : List Char :=
  match s with
  | c :: rest =>
    if isQuote c then enclosed (if c == '[' then ']' else c) rest else s
  | [] => []
where
  enclosed (quote : Char) : List Char → List Char
    | c :: d :: rest =>
      if c ≠ quote then c :: enclosed quote (d :: rest)
      else if d = quote then c :: enclosed quote rest
      else []
    | [c] => if c ≠ quote then [c] else []
    | [] => []

/-- The text without a word at its end, and without the white space before the word. -/
def withoutLast (word : String) (s : List Char) : Option (List Char) :=
  let tail := s.drop (s.length - word.length)
  if word.length ≤ s.length && tail.map Char.toLower == word.toList then
    some (Text.dropEndWhile isSpace (s.take (s.length - word.length)))
  else none

/-- A type as it was read may have taken in the words that begin a generated column. -/
def withoutGenerated (s : List Char) : List Char :=
  if s.length < 16 then s
  else match withoutLast "always" s with
    | some s => (withoutLast "generated" s).getD s
    | none => s

/-- The type that a text declares. -/
def ofText (written : List Char) : ColumnType :=
  let s := withoutGenerated written
  if s.isEmpty then {}
  else
    let s := if 3 ≤ s.length then unwrapped s else s
    match standard.find? fun t => sameLetters t.name (String.ofList s) with
    | some t => t
    | none => ofName (String.ofList (firstQuoted s))

end ColumnType

end Conform.Sqlite
