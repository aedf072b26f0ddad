import Conform.Sqlite.Value

/-! What functions take and give, and why they fail. -/
namespace Conform.Sqlite

/-- A value that an expression has. A text may be known to be a document. -/
structure Computed where
  value : Value
  isDocument : Bool := false
  deriving DecidableEq, Repr, Inhabited

inductive FunctionFault where
  | overflow
  | tooBig
  | patternTooLong
  | escapeNotCharacter
  | malformedDocument
  | malformedPath
  | bytesInDocument
  | unpairedArguments (function : String)
  | labelNotText
  | flagsOutOfRange
  /-- A value that may not depend on the present does. -/
  | fickle
  | outOfPlace (function : String)
  deriving DecidableEq, Repr, Inhabited

def FunctionFault.message : FunctionFault → String
  | overflow => "integer overflow"
  | tooBig => "string or blob too big"
  | patternTooLong => "LIKE or GLOB pattern too complex"
  | escapeNotCharacter => "ESCAPE expression must be a single character"
  | malformedDocument => "malformed JSON"
  | malformedPath => "bad JSON path"
  | bytesInDocument => "JSON cannot hold BLOB values"
  | unpairedArguments function => function ++ " takes its arguments in pairs"
  | labelNotText => "labels must be TEXT"
  | flagsOutOfRange => "FLAGS parameter must be between 1 and 15"
  | fickle => "non-deterministic use of a date or time function"
  | outOfPlace function => "unable to use function " ++ function ++ " in the requested context"

/-- What a function gives for its arguments. -/
abbrev Answer := Except FunctionFault Computed

namespace Answer

def value (v : Value) : Answer := .ok { value := v }

def null : Answer := value .null

def integer (n : Int) : Answer := value (.integer n)

def truth (b : Bool) : Answer := value (.ofBool b)

def real (x : Binary64) : Answer := value (.real x)

def text (s : List UInt8) : Answer := value (.text s)

def chars (s : List Char) : Answer := value (.ofChars s)

end Answer

end Conform.Sqlite
