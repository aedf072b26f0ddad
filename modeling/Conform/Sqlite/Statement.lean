import Conform.Sqlite.Definition.Parser

/-! Statements that are given as text. Besides the definition of a table there may be others behind
it: those that drop a table and those that insert rows. -/
namespace Conform.Sqlite

open Reader

inductive Statement where
  | createTable (d : Definition)
  | dropTable (name : String) (ifExists : Bool)
  /-- Without columns the rows give values for all but the generated ones. -/
  | insert (table : String) (columns : Option (List String)) (rows : List (List Expression))
  deriving Repr, Inhabited

/-- The statements of a text, which end at semicolons, each with the white space and the comments
behind it. A zero character is in none. -/
def statementsOf (text : String) : List String :=
  let s := text.toList
  if s.contains '\x00' then [text] else cut (gapAfter s) [] (tokens s)
where
  /-- `read` holds the tokens of the statement so far, the last one first. -/
  cut (ending : List Char) (read : List Token) : List Token → List String
    | [] => written read ending
    | t :: ts =>
      if t.isSymbol ";" then written read t.gap ++ cut ending [] ts
      else cut ending (t :: read) ts
  written (read : List Token) (gap : List Char) : List String :=
    if read.isEmpty then [] else [String.ofList (textOf read.reverse ++ gap)]

/-- The values of a row in parentheses. -/
def readRow : Reader (List Expression) := do
  symbol "("
  let row ← fun ts => commaList Expression.reader ts.length ts
  symbol ")"
  return row

namespace Statement

/-- What stands after the words INSERT INTO. Default values are a row without columns. -/
def readInsert : Reader Statement := do
  let table ← readName
  if ← tryWords ["default", "values"] then return .insert table (some []) [[]]
  let columns ← if (← get).head?.any (·.isSymbol "(") then some <$> readNames else pure none
  words ["values"]
  return .insert table columns (← fun ts => commaList readRow ts.length ts)

def reader : Reader Statement := do
  if ← tryWords ["create", "table"] then return .createTable (← readDefinition)
  if ← tryWords ["drop", "table"] then
    let ifExists ← tryWords ["if", "exists"]
    return .dropTable (← readName) ifExists
  words ["insert", "into"]
  readInsert

/-- The statement that a text is. The text of a definition ends at its parenthesis, but what is
said after that belongs to it with everything that follows. -/
def ofText? (text : String) : Option Statement :=
  let s := text.toList
  if s.contains '\x00' then none
  else match reader (tokens s) with
    | some (.createTable d, []) =>
      if d.options.isEmpty then some (.createTable d)
      else some (.createTable { d with ending := d.ending ++ String.ofList (gapAfter s) })
    | some (statement, []) => some statement
    | _ => none

end Statement

/-- The definition that a statement makes. -/
def Definition.ofText? (statement : String) : Option Definition :=
  match Statement.ofText? statement with
  | some (.createTable d) => some d
  | _ => none

end Conform.Sqlite
