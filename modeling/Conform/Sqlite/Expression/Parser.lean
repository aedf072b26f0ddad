import Conform.Sqlite.Expression.Scope
import Conform.Sqlite.Reader

/-! Reading expressions. An operator of a higher level binds closer; of one level the left one
binds closer. Queries and parameters are not read. -/
namespace Conform.Sqlite

/-- The operators that are symbols, each with its level. -/
def symbolOperators : List (String × BinaryOperator × Nat) := [
  ("=", .equal, 4), ("==", .equal, 4), ("!=", .notEqual, 4), ("<>", .notEqual, 4),
  ("<", .less, 5), ("<=", .lessOrEqual, 5), (">", .greater, 5), (">=", .greaterOrEqual, 5),
  ("&", .bitAnd, 7), ("|", .bitOr, 7), ("<<", .shiftLeft, 7), (">>", .shiftRight, 7),
  ("+", .add, 8), ("-", .subtract, 8), ("*", .multiply, 9), ("/", .divide, 9),
  ("%", .remainder, 9), ("||", .concatenate, 10)]

/-- The level of the operators that are words and compare. -/
def comparisonLevel : Nat := 4

def notLevel : Nat := 3

/-- The operator that a token is, with its level. -/
def operator? (t : Token) : Option (BinaryOperator × Nat) :=
  match t.kind with
  | .symbol spelling => symbolOperators.lookup spelling
  | .word "and" => some (.and, 2)
  | .word "or" => some (.or, 1)
  | _ => none

/-! ### Numbers -/

/-- Every underscore has a digit on both sides. -/
def isEvenlySpaced (isDigit : Char → Bool) : List Char → Bool
  | a :: '_' :: b :: rest => isDigit a && isDigit b && isEvenlySpaced isDigit (b :: rest)
  | [_, '_'] => false
  | _ :: rest => isEvenlySpaced isDigit rest
  | [] => true

/-- An integer. A short one with underscores is known only later. -/
def integerExpression (spaced : Bool) (n : Nat) : Expression :=
  if spaced && n ≤ greatestShort then .literal (.integer n) else .numeral n

/-- A number in decimal digits. An integer that is too large is a real number. -/
def decimalExpression (spaced : Bool) (digits : List Char) : Expression :=
  if digits.all Char.isDigit then
    let n := Text.digitsValue digits
    if (n : Int) ≤ wordLimit then integerExpression spaced n
    else .literal (.real (realOf (Text.utf8 digits)))
  else .literal (.real (realOf (Text.utf8 digits)))

/-- A number in hexadecimal digits, as an integer of 64 bits with a sign. -/
def hexadecimalExpression (spaced : Bool) (digits : List Char) : Expression :=
  let n := digits.foldl (fun n c => 16 * n + (Text.hexDigit? c).getD 0) 0
  if (digits.dropWhile (· == '0')).length ≤ 16 then
    if (n : Int) < wordLimit then integerExpression spaced n else .literal (.integer (wrap n))
  else .unusable true

/-- A number without a sign. -/
def readNumeral? (t : Token) : Option Expression :=
  match t.kind with
  | .integer | .decimal => some (decimalExpression false t.text)
  | .spacedNumber =>
    let plain := t.text.filter (· != '_')
    let spaced := plain.length < t.text.length
    match t.text with
    | '0' :: x :: digits =>
      if x == 'x' || x == 'X' then
        if isEvenlySpaced (fun c => (Text.hexDigit? c).isSome) digits then
          some (hexadecimalExpression spaced (plain.drop 2))
        else none
      else if isEvenlySpaced Char.isDigit t.text then some (decimalExpression spaced plain)
      else none
    | s => if isEvenlySpaced Char.isDigit s then some (decimalExpression spaced plain) else none
  | _ => none

def tokenNumeral (t : Token) : Reader Expression := fun ts => (readNumeral? t).map (·, ts)

def readBytes : List Char → List UInt8
  | a :: b :: rest => ((Text.escapedByte? a b).toList) ++ readBytes rest
  | _ => []

/-! ### What is known while reading -/

namespace Expression

/-- A sign before a plus sign replaces it. -/
def signed (make : Expression → Expression) : Expression → Expression
  | plus e => make e
  | e => make e

/-- Is the expression known to be false? -/
def isFalse : Expression → Bool
  | numeral 0 | truth false => true
  | _ => false

/-- Both together. Beside what is false nothing else matters. -/
def conjunction (a b : Expression) : Expression :=
  if a.isFalse || b.isFalse then numeral 0 else binary .and a b

/-- Equality with a null is a question of its own. -/
def identity (negated : Bool) (a : Expression) : Expression → Expression
  | literal .null => if negated then notNull a else isNull a
  | b => binary (if negated then .isNot else .is) a b

/-- Is the value known without any column? -/
def isFixed : Expression → Bool :=
  all fun
    | name n quoted => !quoted && (truthWord? n).isSome
    | member .. => false
    | call f arguments => Sqlite.isCallable f arguments.length && isSteady f
    | unusable isConstant => isConstant
    | _ => true

/-- One of some choices. Of a single fixed choice it is an equality. -/
def choice (negated : Bool) (e : Expression) (choices : List Expression) : Expression :=
  let found := match choices with
    | [c] => if c.isFixed then binary .equal e (plus c) else among e choices
    | cs => among e cs
  if negated then not found else found

end Expression

/-- Which function stands behind a matching operator. -/
def matchFunctions : List String := ["like", "glob", "regexp", "match"]

/-- The words that give the present date or time. -/
def presentWords : List String := ["current_date", "current_time", "current_timestamp"]

/-- A function takes no more arguments. -/
def mostArguments : Nat := 127

def smallLetters (s : String) : String := String.ofList (s.toList.map Char.toLower)

open Reader

/-- What a trigger could do instead of having a value. -/
def readRaise : Reader Expression := do
  symbol "("
  if !(← tryWords ["ignore"]) then
    tokenAs fun t => if ["rollback", "abort", "fail"].any t.isWord then some () else none
    symbol ","
    let _ ← tokenAs (·.name?)
  symbol ")"
  return .unusable false

mutual

/-- An expression all of whose operators have at least the given level. -/
def readExpression : (fuel level : Nat) → Reader Expression
  | 0, _ => failure
  | fuel + 1, level => do readFurther fuel level (← readOperand fuel)

def readOperand : (fuel : Nat) → Reader Expression
  | 0 => failure
  | fuel + 1 => do
    let t ← token
    match t.kind with
    | .text value =>
      if (← get).head?.any (·.isSymbol ".") then readNamed fuel value false
      else return .literal (.ofString value)
    | .blob digits => return .literal (.blob (readBytes digits))
    | .symbol "(" => do
      let es ← commaList (readExpression fuel 1) fuel
      symbol ")"
      match es with
      | [e] => return e
      | es => return .vector es
    | .symbol "-" => return (← readExpression fuel 12).signed .negate
    | .symbol "+" => return (← readExpression fuel 12).signed .plus
    | .symbol "~" => return .complement (← readExpression fuel 12)
    | .word "not" => return .not (← readExpression fuel notLevel)
    | .word "null" => return .literal .null
    | .word "cast" => do
      symbol "("
      let e ← readExpression fuel 1
      words ["as"]
      let type ← readType
      symbol ")"
      return .cast e (Affinity.scan .numeric none (type.map Char.toLower)).1
    | .word "case" => do
      let subject ← if areNext ["when"] (← get) then pure none
        else some <$> readExpression fuel 1
      let cases ← readCases fuel
      let tests := cases.map Prod.fst
      let results := cases.map Prod.snd
      let otherwise ← if ← tryWords ["else"] then readExpression fuel 1
        else pure (.literal .null)
      words ["end"]
      return match subject with
        | some e => .switch e tests results otherwise
        | none => .choose tests results otherwise
    | .word "raise" => readRaise
    | .word small =>
      if presentWords.contains small then return .call small []
      else if reservedWords.contains small then failure
      else readNamed fuel t.spelling false
    | .quoted name => readNamed fuel name (t.text.head? == some '"')
    | _ => tokenNumeral t

/-- What begins with a name: a call, or a column with or without its table. -/
def readNamed : (fuel : Nat) → (name : String) → (quoted : Bool) → Reader Expression
  | 0, _, _ => failure
  | fuel + 1, name, quoted => do
    if ← trySymbol "(" then
      let arguments ← readArguments fuel
      if areNext ["over"] (← get) || areNext ["filter"] (← get) then failure
      if mostArguments < arguments.length then failure
      return .call (smallLetters name) arguments
    else if ← trySymbol "." then
      let second ← tokenAs (·.name?)
      if ← trySymbol "." then return .member second (← tokenAs (·.name?))
      else return .member name second
    else return .name name quoted

/-- Arguments up to the closing parenthesis. -/
def readArguments : (fuel : Nat) → Reader (List Expression)
  | 0 => failure
  | fuel + 1 => do
    if (← get).head?.any (·.isSymbol "*") then
      let _ ← token
      symbol ")"
      return []
    if !(← tryWords ["distinct"]) then
      let _ ← tryWords ["all"]
    if ← trySymbol ")" then return []
    let arguments ← commaList (readExpression fuel 1) fuel
    symbol ")"
    return arguments

/-- The cases of a choice, at least one. -/
def readCases : (fuel : Nat) → Reader (List (Expression × Expression))
  | 0 => failure
  | fuel + 1 => do
    words ["when"]
    let test ← readExpression fuel 1
    words ["then"]
    let result ← readExpression fuel 1
    if areNext ["when"] (← get) then return (test, result) :: (← readCases fuel)
    else return [(test, result)]

/-- What an operand is the first part of. -/
def readFurther : (fuel level : Nat) → Expression → Reader Expression
  | 0, _, _ => failure
  | fuel + 1, level, e => do
    match (← get).head? with
    | none => return e
    | some t => match operator? t with
      | some (op, own) =>
        if own < level then return e
        let _ ← token
        let other ← readExpression fuel (own + 1)
        readFurther fuel level (if op = .and then .conjunction e other else .binary op e other)
      | none => match t.kind with
        | .symbol "->" | .symbol "->>" =>
          if 10 < level then return e
          let _ ← token
          readFurther fuel level (.call (String.ofList t.text) [e, ← readExpression fuel 11])
        | .word "collate" =>
          if 11 < level then return e
          let _ ← token
          let collation ← tokenAs (·.typeWord?)
          readFurther fuel level (.collate e collation)
        | .word small =>
          if level ≤ comparisonLevel &&
              (["is", "isnull", "notnull", "not", "between", "in"].contains small ||
                matchFunctions.contains small) then
            readFurther fuel level (← readComparison fuel e)
          else return e
        | _ => return e

/-- A comparison by words, the first operand of which has been read. -/
def readComparison : (fuel : Nat) → Expression → Reader Expression
  | 0, _ => failure
  | fuel + 1, e => do
    if ← tryWords ["isnull"] then return .isNull e
    if ← tryWords ["notnull"] then return .notNull e
    if ← tryWords ["not", "null"] then return .notNull e
    if ← tryWords ["is"] then
      let negated ← tryWords ["not"]
      let distinct ← tryWords ["distinct", "from"]
      return e.identity (negated != distinct) (← readExpression fuel (comparisonLevel + 1))
    let negated ← tryWords ["not"]
    let finish (e : Expression) : Expression := if negated then .not e else e
    if ← tryWords ["between"] then
      let low ← readExpression fuel notLevel
      words ["and"]
      return finish (.between e low (← readExpression fuel (comparisonLevel + 1)))
    if ← tryWords ["in"] then
      symbol "("
      if ← trySymbol ")" then return .truth negated
      if e.isVector then failure
      let choices ← commaList (readExpression fuel 1) fuel
      symbol ")"
      return e.choice negated choices
    let function ← tokenAs fun t => match t.kind with
      | .word small => if matchFunctions.contains small then some small else none
      | _ => none
    let pattern ← readExpression fuel (comparisonLevel + 1)
    if ← tryWords ["escape"] then
      return finish (.call function [pattern, e, ← readExpression fuel (comparisonLevel + 1)])
    return finish (.call function [pattern, e])

end

/-- An expression that is not too deep. Every step takes a token or follows one that did. -/
def Expression.reader : Reader Expression := do
  let e ← fun ts => readExpression (4 * ts.length + 4) 1 ts
  if greatestDepth < e.height then failure
  return e

end Conform.Sqlite
