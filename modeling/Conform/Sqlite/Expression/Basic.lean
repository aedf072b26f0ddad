import Conform.Sqlite.Affinity

/-! Expressions over the columns of one row. -/
namespace Conform.Sqlite

inductive BinaryOperator where
  | or
  | and
  | equal
  | notEqual
  | is
  | isNot
  | less
  | lessOrEqual
  | greater
  | greaterOrEqual
  | bitAnd
  | bitOr
  | shiftLeft
  | shiftRight
  | add
  | subtract
  | multiply
  | divide
  | remainder
  | concatenate
  deriving DecidableEq, Repr, Inhabited

/-- Does the operator compare its operands? -/
def BinaryOperator.compares : BinaryOperator → Bool
  | equal | notEqual | is | isNot | less | lessOrEqual | greater | greaterOrEqual => true
  | or | and | bitAnd | bitOr | shiftLeft | shiftRight | add | subtract | multiply | divide
  | remainder | concatenate => false

inductive Expression where
  | literal (v : Value)
  /-- An integer without a sign. -/
  | numeral (n : Nat)
  | truth (b : Bool)
  /-- What has no value for any row. It may be a constant nevertheless. -/
  | unusable (isConstant : Bool)
  /-- A column. A name between double quotes that names none is a text. -/
  | name (name : String) (quoted : Bool)
  | member (table column : String)
  | negate (e : Expression)
  | plus (e : Expression)
  | complement (e : Expression)
  | not (e : Expression)
  | isNull (e : Expression)
  | notNull (e : Expression)
  | binary (op : BinaryOperator) (a b : Expression)
  | between (e low high : Expression)
  | among (e : Expression) (choices : List Expression)
  | collate (e : Expression) (collation : String)
  | cast (e : Expression) (affinity : Affinity)
  /-- A function is named in small letters. -/
  | call (function : String) (arguments : List Expression)
  /-- The result beside the first test that is true. -/
  | choose (tests results : List Expression) (otherwise : Expression)
  /-- The result beside the first choice that is equal to the subject. -/
  | switch (subject : Expression) (choices results : List Expression) (otherwise : Expression)
  /-- Several expressions in parentheses, which can only be compared with as many others. -/
  | vector (items : List Expression)
  deriving Repr, Inhabited

/-- Integers up to here are known as such from the beginning. -/
def greatestShort : Nat := 0x7FFFFFFF

namespace Expression

/-- The expressions that are compared with others one by one. -/
def items : Expression → List Expression
  | vector es => es
  | e => [e]

def size (e : Expression) : Nat := e.items.length

def isVector : Expression → Bool
  | vector _ => true
  | _ => false

mutual

/-- Does `test` hold for the expression and for all parts of it? -/
def all (test : Expression → Bool) : Expression → Bool
  | literal v => test (literal v)
  | numeral n => test (numeral n)
  | truth b => test (truth b)
  | unusable isConstant => test (unusable isConstant)
  | name n quoted => test (name n quoted)
  | member table column => test (member table column)
  | negate e => test (negate e) && all test e
  | plus e => test (plus e) && all test e
  | complement e => test (complement e) && all test e
  | not e => test (not e) && all test e
  | isNull e => test (isNull e) && all test e
  | notNull e => test (notNull e) && all test e
  | binary op a b => test (binary op a b) && all test a && all test b
  | between e low high =>
    test (between e low high) && all test e && all test low && all test high
  | among e choices => test (among e choices) && all test e && allOf test choices
  | collate e collation => test (collate e collation) && all test e
  | cast e affinity => test (cast e affinity) && all test e
  | call f arguments => test (call f arguments) && allOf test arguments
  | choose tests results otherwise =>
    test (choose tests results otherwise) && allOf test tests && allOf test results &&
      all test otherwise
  | switch subject choices results otherwise =>
    test (switch subject choices results otherwise) && all test subject &&
      allOf test choices && allOf test results && all test otherwise
  | vector es => test (vector es) && allOf test es

def allOf (test : Expression → Bool) : List Expression → Bool
  | [] => true
  | e :: rest => all test e && allOf test rest

end

mutual

/-- How deep the expression goes. Collations and vectors do not count what is in them, and of a
range only the first operand counts. -/
def height : Expression → Nat
  | literal _ | numeral _ | truth _ | unusable _ | name .. | member .. => 1
  | collate _ _ | vector _ => 1
  | negate e | plus e | complement e | not e | isNull e | notNull e | cast e _ => height e + 1
  | between e _ _ => height e + 1
  | binary _ a b => max (height a) (height b) + 1
  | among e choices => max (height e) (greatestHeight choices) + 1
  | call _ arguments => greatestHeight arguments + 1
  | choose tests results otherwise =>
    max (max (greatestHeight tests) (greatestHeight results)) (height otherwise) + 1
  | switch subject choices results otherwise =>
    max (max (height subject) (max (greatestHeight choices) (greatestHeight results)))
      (height otherwise) + 1

def greatestHeight : List Expression → Nat
  | [] => 0
  | e :: rest => max (height e) (greatestHeight rest)

end

/-- Deeper expressions are refused. -/
def greatestDepth : Nat := 1000

end Expression

end Conform.Sqlite
