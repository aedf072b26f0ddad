import Conform.Sql.Identifier
import Conform.Text.Blank

/-! The head of a stored definition: `CREATE TABLE`, perhaps `IF NOT EXISTS`, and the name of the
table. To create a table of another name alike, the head is replaced and the rest kept as it is. -/
namespace Conform.Sqlite

open Text

/-- What follows a key word, whatever the case of its letters. The long s is a form of the
letter s. -/
def afterKeyword : (small text : List Char) → Option (List Char)
  | [], text => some text
  | _ :: _, [] => none
  | c :: small, d :: text =>
    if d.toLower = c ∨ (c = 's' ∧ d = 'ſ') then afterKeyword small text else none

/-- What follows at least one white space. -/
def afterBlank : List Char → Option (List Char)
  | [] => none
  | c :: rest => if isBlank c then some (trimStart rest) else none

/-- What follows the closing quote of a name that is not empty. A quote written twice belongs to
the name, unless no closing quote comes after it: then its first half closes the name. `started`
tells whether anything of the name has been read. -/
def afterQuoted (started : Bool) : List Char → Option (List Char)
  | [] => none
  | '"' :: '"' :: rest =>
    match afterQuoted true rest with
    | some remainder => some remainder
    | none => if started then some ('"' :: rest) else none
  | '"' :: rest => if started then some rest else none
  | _ :: rest => afterQuoted true rest

/-- What follows `stop`, which may not come at once. -/
def afterDelimited (stop : Char) (s : List Char) : Option (List Char) :=
  if s.head? = some stop then none
  else match s.dropWhile (· != stop) with
    | _ :: rest => some rest
    | [] => none

/-- What follows a bare name: anything up to white space or a parenthesis. -/
def afterBareName (s : List Char) : Option (List Char) :=
  let endsName := fun c : Char => isBlank c || c == '('
  if s.head?.all endsName then none else some (s.dropWhile fun c => !endsName c)

/-- What follows a table name in any of its spellings. A text that is no quoted name may still be
a bare one. -/
def afterName (s : List Char) : Option (List Char) :=
  let quoted := match s with
    | '"' :: rest => afterQuoted false rest
    | '\x60' :: rest => afterDelimited '\x60' rest
    | '[' :: rest => afterDelimited ']' rest
    | _ => none
  quoted.or (afterBareName s)

/-- What follows the words between `CREATE TABLE` and the name. -/
def afterIfNotExists (s : List Char) : Option (List Char) := do
  let s ← afterBlank (← afterKeyword "if".toList s)
  let s ← afterBlank (← afterKeyword "not".toList s)
  afterBlank (← afterKeyword "exists".toList s)

/-- What follows the head of a definition. Where no name comes after `IF NOT EXISTS`, the `IF` is
the name. -/
def afterHead (definition : List Char) : Option (List Char) := do
  let s ← afterBlank (← afterKeyword "create".toList (trimStart definition))
  let s ← afterBlank (← afterKeyword "table".toList s)
  ((afterIfNotExists s).bind afterName).or (afterName s)

/-- The definition of a table alike under the name `target`. -/
def renamed? (target definition : String) : Option String :=
  (afterHead definition.toList).map fun rest =>
    "CREATE TABLE " ++ Sql.quote target ++ String.ofList rest

end Conform.Sqlite
