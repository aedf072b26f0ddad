import Conform.Sqlite.Definition
import Conform.Sqlite.Expression.Evaluate
import Conform.Sqlite.Expression.Parser

/-! Reading CREATE TABLE statements. -/
namespace Conform.Sqlite

open Reader

/-- Everything of its kind that comes next; `fuel` bounds the number of things. -/
def readAll (next : Reader (Option α)) : (fuel : Nat) → Reader (List α)
  | 0 => return []
  | fuel + 1 => do
    match ← next with
    | some a => return a :: (← readAll next fuel)
    | none => return []

/-- As many as there are tokens at most. -/
def readMany (next : Reader (Option α)) : Reader (List α) := fun ts => readAll next ts.length ts

def readName : Reader String := tokenAs (·.name?)

/-- An expression in parentheses, with the text between them. -/
def readEnclosed : Reader (Expression × String) := do
  symbol "("
  let (e, read) ← span Expression.reader
  let closing ← (·.head?) <$> get
  symbol ")"
  let text := read.flatMap (fun t => t.gap ++ t.text) ++ (closing.elim [] (·.gap))
  return (e, String.ofList (Text.dropEndWhile isSpace (text.dropWhile isSpace)))

/-- Names between commas in parentheses. -/
def readNames : Reader (List String) := do
  symbol "("
  let names ← fun ts => commaList readName ts.length ts
  symbol ")"
  return names

def resolutionWords : List (String × Resolution) := [
  ("rollback", .rollback), ("abort", .abort), ("fail", .fail), ("ignore", .ignore),
  ("replace", .replace)]

/-- What is to be done about conflicts, if that is said. -/
def readResolution : Reader (Option Resolution) := do
  if ← tryWords ["on", "conflict"] then
    some <$> tokenAs fun t => match t.kind with
      | .word small => resolutionWords.lookup small
      | _ => none
  else return none

/-- The words of the action of a foreign key. Of two actions the first word may be the same. -/
def readAction : Reader (Option Schema.ReferentialAction) := do
  if ← tryWords ["set", "null"] then return some .setNull
  if ← tryWords ["set", "default"] then return some .setDefault
  if ← tryWords ["cascade"] then return some .cascade
  if ← tryWords ["restrict"] then return some .restrict
  words ["no", "action"]
  return none

/-- One more clause of a reference, if there is one. -/
def readClause : Reader (Option (Reference → Reference)) := do
  if ← tryWords ["match"] then
    let _ ← readName
    return some id
  if ← tryWords ["on"] then
    if ← tryWords ["delete"] then
      let action ← readAction
      return some fun r => { r with onDelete := action }
    if ← tryWords ["update"] then
      let action ← readAction
      return some fun r => { r with onUpdate := action }
    words ["insert"]
    let _ ← readAction
    return some id
  return none

/-- What stands after the word REFERENCES. -/
def readReference : Reader Reference := do
  let table ← readName
  let columns ← if (← get).head?.any (·.isSymbol "(") then readNames else pure []
  let clauses ← readMany readClause
  return clauses.foldl (fun r clause => clause r) { table, columns }

/-- Whether a foreign key is deferred, after the word DEFERRABLE. -/
def readInitially : Reader Bool := do
  if ← tryWords ["initially", "deferred"] then return true
  let _ ← tryWords ["initially", "immediate"]
  return false

/-- When a foreign key is checked, if that is said. -/
def readDeferral : Reader (Option Bool) := do
  if ← tryWords ["not", "deferrable"] then
    let _ ← readInitially
    return some false
  if ← tryWords ["deferrable"] then return some (← readInitially)
  return none

/-- A value that may be a default without parentheses. -/
def readTerm : Reader Expression := do
  let t ← token
  match t.kind with
  | .text value => return .literal (.ofString value)
  | .blob digits => return .literal (.blob (readBytes digits))
  | .word "null" => return .literal .null
  | .word small => if presentWords.contains small then return .call small [] else failure
  | _ => tokenNumeral t

/-- A bare name as a default is a text, but for the words of truth. -/
def readDefaultName : Reader Expression :=
  tokenAs fun t => (t.functionName?).map fun name =>
    match t.kind, truthWord? name with
    | .word _, some truth => .truth truth
    | _, _ => .literal (.ofString name)

/-- What stands after the word DEFAULT. -/
def readDefault : Reader Default := do
  if (← get).head?.any (·.isSymbol "(") then
    let (value, text) ← readEnclosed
    return { value, text }
  let (value, read) ← span do
    if ← trySymbol "-" then return .negate (← readTerm)
    if ← trySymbol "+" then readTerm
    else fun ts => (readTerm ts).or (readDefaultName ts)
  return { value, text := String.ofList (textOf read) }

/-- What stands after the word AS of a generated column. -/
def readGenerated : Reader ColumnConstraint := do
  let (e, _) ← readEnclosed
  match ← get with
  | t :: rest =>
    if t.functionName?.isSome then
      set rest
      return .generated e (some (String.ofList t.text))
  | [] => pure ()
  return .generated e none

/-- The next constraint of a column, if there is one. A name alone has no effect. -/
def readColumnConstraint : Reader (Option (Option ColumnConstraint)) := do
  if ← tryWords ["constraint"] then
    let _ ← readName
    return some none
  if ← tryWords ["default"] then return some (some (.default (← readDefault)))
  if ← tryWords ["null"] then
    let _ ← readResolution
    return some (some .nullable)
  if ← tryWords ["not", "null"] then return some (some (.notNull (← readResolution)))
  if ← tryWords ["primary", "key"] then
    let descending ← tryWords ["desc"]
    if !descending then
      let _ ← tryWords ["asc"]
    let resolution ← readResolution
    return some (some (.primaryKey descending (← tryWords ["autoincrement"]) resolution))
  if ← tryWords ["unique"] then return some (some (.unique (← readResolution)))
  if ← tryWords ["check"] then return some (some (.check (← readEnclosed).1))
  if ← tryWords ["references"] then return some (some (.references (← readReference)))
  if ← tryWords ["collate"] then
    return some (some (.collate (← tokenAs (·.typeWord?))))
  if ← tryWords ["generated", "always", "as"] then return some (some (← readGenerated))
  if ← tryWords ["as"] then return some (some (← readGenerated))
  return (← readDeferral).map fun deferred => some (.deferral deferred)

def readColumnDefinition : Reader ColumnDefinition := do
  let name ← readName
  let type ← readType
  let constraints ← readMany readColumnConstraint
  return { name, type := .ofText type, constraints := constraints.filterMap id }

/-- The column that an entry of a key names. -/
def keyColumn (collation : Option String) : Expression → KeyColumn
  | .name name _ => { name, collation }
  | .literal (.text s) => {
      name := ((Text.ofUtf8 s).toOption).map String.ofList
      collation }
  | .collate e c => keyColumn (collation.or (some c)) e
  | _ => { name := none, collation }

def readKeyColumn : Reader KeyColumn := do
  let e ← Expression.reader
  let descending ← tryWords ["desc"]
  if !descending then
    let _ ← tryWords ["asc"]
  return { keyColumn none e with descending }

def readKeyColumns : Reader (List KeyColumn) := fun ts => commaList readKeyColumn ts.length ts

/-- The next constraint of a table, if there is one. A name alone has no effect. -/
def readTableConstraint : Reader (Option (Option TableConstraint)) := do
  if ← tryWords ["constraint"] then
    let _ ← readName
    return some none
  if ← tryWords ["primary", "key"] then
    symbol "("
    let columns ← readKeyColumns
    let autoincrement ← tryWords ["autoincrement"]
    symbol ")"
    return some (some (.primaryKey columns autoincrement (← readResolution)))
  if ← tryWords ["unique"] then
    symbol "("
    let columns ← readKeyColumns
    symbol ")"
    return some (some (.unique columns (← readResolution)))
  if ← tryWords ["check"] then
    let (e, _) ← readEnclosed
    let _ ← readResolution
    return some (some (.check e))
  if ← tryWords ["foreign", "key"] then
    let columns ← readNames
    words ["references"]
    let reference ← readReference
    return some (some (.foreignKey columns reference ((← readDeferral).getD false)))
  return none

/-- The words that begin a constraint of a table. -/
def constraintWords : List String := ["constraint", "primary", "unique", "check", "foreign"]

def startsConstraint (ts : List Token) : Bool :=
  ts.head?.any fun t => constraintWords.any fun word => t.isWord word

/-- One more column after a comma, if there is one. -/
def readLaterColumn : Reader (Option ColumnDefinition) := fun ts =>
  match ts with
  | t :: rest =>
    if t.isSymbol "," && !startsConstraint rest then
      (readColumnDefinition rest).map fun (c, ts) => (some c, ts)
    else some (none, ts)
  | [] => some (none, ts)

/-- One more constraint, if there is one. A comma before it may be missing, but for the first. -/
def readLaterConstraint : Reader (Option (Option TableConstraint)) := do
  if ← trySymbol "," then
    if !startsConstraint (← get) then failure
  readTableConstraint

def readTableOption : Reader TableOption := do
  if ← tryWords ["without", "rowid"] then return .unnumbered
  words ["strict"]
  return .strict

/-- What is said after the parentheses. There may be a comma before the first of it. -/
def readTableOptions : Reader (List TableOption) := do
  let isSaid := (← get).head?.any fun t =>
    t.isSymbol "," || t.isWord "without" || t.isWord "strict"
  if isSaid then
    let _ ← trySymbol ","
    fun ts => commaList readTableOption ts.length ts
  else return []

/-- The definition that follows the words CREATE TABLE. -/
def readDefinition : Reader Definition := do
  let ifNotExists ← tryWords ["if", "not", "exists"]
  let ((name, columns), opening) ← span do
    let name ← readName
    symbol "("
    let first ← readColumnDefinition
    return (name, first :: (← readMany readLaterColumn))
  let next ← get
  let ((constraints, options), ending) ← span do
    let constraints ← if next.head?.any (·.isSymbol ",") then readMany readLaterConstraint
      else pure []
    symbol ")"
    return (constraints.filterMap id, ← readTableOptions)
  return {
    name, ifNotExists, columns, constraints, options
    opening := String.ofList (textOf opening ++ next.head?.elim [] (·.gap))
    ending := String.ofList (textOf ending) }

end Conform.Sqlite
