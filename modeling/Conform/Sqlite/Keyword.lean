import Conform.Sqlite.Token

/-! Which bare words can be names. Most key words may stand for a name where nothing else fits;
the others never do. -/
namespace Conform.Sqlite

/-- The words that are never names. -/
def reservedWords : List String := [
  "add", "all", "alter", "and", "as", "autoincrement", "between", "case", "check", "collate",
  "commit", "constraint", "create", "default", "deferrable", "delete", "distinct", "drop", "else",
  "escape", "except", "exists", "foreign", "from", "group", "having", "in", "index", "insert",
  "intersect", "into", "is", "isnull", "join", "limit", "not", "nothing", "notnull", "null", "on",
  "or", "order", "primary", "references", "returning", "select", "set", "table", "then", "to",
  "transaction", "union", "unique", "update", "using", "values", "when", "where"]

/-- The words that name a kind of join. They can name a table or a column, and nothing else. -/
def joinWords : List String := ["cross", "full", "inner", "left", "natural", "outer", "right"]

namespace Token

/-- The text of a bare word as it was written. -/
def spelling (t : Token) : String := String.ofList t.text

/-- A name that may stand anywhere: a word in quotes, or a bare one that is no key word. -/
def plainName? (t : Token) : Option String :=
  match t.kind with
  | .quoted name => some name
  | .word small =>
    if reservedWords.contains small || joinWords.contains small || small == "indexed" then none
    else some t.spelling
  | _ => none

/-- The name of a function. -/
def functionName? (t : Token) : Option String :=
  match t.kind with
  | .word "indexed" => some t.spelling
  | _ => t.plainName?

/-- The name of a table, a column or a constraint. -/
def name? (t : Token) : Option String :=
  match t.kind with
  | .text value => some value
  | .word small => if reservedWords.contains small then none else some t.spelling
  | _ => t.plainName?

/-- A word of a type, or the name of a collation. -/
def typeWord? (t : Token) : Option String :=
  match t.kind with
  | .text value => some value
  | _ => t.plainName?

/-- Is this the bare word `small`? -/
def isWord (t : Token) (small : String) : Bool := t.kind == .word small

def isSymbol (t : Token) (spelling : String) : Bool := t.kind == .symbol spelling

end Token

end Conform.Sqlite
