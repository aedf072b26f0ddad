import Conform.Sqlite.Collation
import Conform.Sqlite.Expression.Basic
import Conform.Sqlite.Function

/-! What the names in an expression mean, and whether the expression can have a value at all. -/
namespace Conform.Sqlite

open Text (sameLetters)

structure ScopeColumn where
  name : String
  affinity : Affinity := .blob
  collation : Collation := .binary
  deriving DecidableEq, Repr, Inhabited

/-- What names in an expression can mean. -/
structure Scope where
  table : String := ""
  columns : List ScopeColumn := []
  /-- May the expression name the number of the row? -/
  seesNumber : Bool := true
  /-- Is the expression the default of a column? It may depend on the present then, and the words
  for truth are numbers. -/
  isDefault : Bool := false
  deriving DecidableEq, Repr, Inhabited

/-- What a name means. -/
inductive Place where
  | column (position : Nat)
  | number
  deriving DecidableEq, Repr

namespace Scope

def position? (s : Scope) (name : String) : Option Nat :=
  s.columns.findIdx? fun c => sameLetters c.name name

def place? (s : Scope) (name : String) : Option Place :=
  match s.position? name with
  | some position => some (.column position)
  | none =>
    if s.seesNumber && ["rowid", "oid", "_rowid_"].any (sameLetters name) then some .number
    else none

def column? (s : Scope) (name : String) : Option ScopeColumn :=
  s.columns.find? fun c => sameLetters c.name name

def affinity? (s : Scope) (name : String) : Option Affinity :=
  match s.place? name with
  | some .number => some .integer
  | _ => (s.column? name).map (·.affinity)

/-- The instant that counts as the present, where something may depend on it. -/
def present (s : Scope) : Option Int :=
  if s.isDefault then some Function.presentInstant else none

end Scope

/-- The scope of defaults, where there are no names. -/
def defaultScope : Scope := { seesNumber := false, isDefault := true }

/-- The words for truth. -/
def truthWord? (name : String) : Option Bool :=
  if sameLetters name "true" then some true
  else if sameLetters name "false" then some false
  else none

namespace Expression

/-- The word for truth that an expression is, where no column has that name. -/
def asTruthWord? (s : Scope) : Expression → Option Bool
  | truth b => some b
  | name n false => if (s.place? n).isSome then none else truthWord? n
  | _ => none

/-- The truth that an expression asks about as the second operand of IS. -/
def truthAsked? (s : Scope) : Expression → Option Bool
  | collate e _ => truthAsked? s e
  | call "likely" [e] | call "unlikely" [e] | call "likelihood" [e, _] => truthAsked? s e
  | e => if s.isDefault then none else asTruthWord? s e

/-- Does the operator ask about the truth of its first operand? -/
def asksTruth (s : Scope) (op : BinaryOperator) (b : Expression) : Bool :=
  (op == .is || op == .isNot) && (truthAsked? s b).isSome

/-! ### When a definition is made -/

/-- Is this a call of a function that exists, with as many arguments as it takes? -/
def isCallable : Expression → Bool
  | call f arguments => Sqlite.isCallable f arguments.length
  | _ => true

/-- How likely something is: a number between zero and one. -/
def isLikelihood : Expression → Bool
  | literal (.real x) => !x.isNegative && x.toFloat ≤ 1.0
  | _ => false

/-- Do all names mean something, can all functions be called, and has everything that is compared
the same size? -/
def isMeaningful (s : Scope) : Expression → Bool :=
  all fun
    | name n quoted => quoted || (s.place? n).isSome || (truthWord? n).isSome
    | member table column => sameLetters table s.table && (s.place? column).isSome
    | call f arguments =>
      (call f arguments).isCallable && !barredFunctions.contains f &&
        (f != "likelihood" || (arguments[1]?).any isLikelihood)
    | binary op a b =>
      !op.compares || a.size == b.size || asksTruth s op b
    | between e low high => e.size == low.size && e.size == high.size
    | _ => true

/-- Is the value the same for all rows? A name in quotes is none of a text here. -/
def isConstant : Expression → Bool :=
  all fun
    | name n quoted => !quoted && (truthWord? n).isSome
    | member .. => false
    | unusable isConstant => isConstant
    | _ => true

/-- Does the value depend on nothing but the columns of one row? -/
def isDeterministic : Expression → Bool :=
  all fun
    | member .. => false
    | call f _ => !fickleFunctions.contains f
    | _ => true

/-- Does the value depend on no row at all? -/
def isSettled (s : Scope) (e : Expression) : Bool :=
  e.all fun
    | name n _ => (s.place? n).isNone
    | member .. => false
    | call f _ => isSteady f
    | _ => true

/-- Does the expression name the column? -/
def mentions (s : Scope) (position : Nat) (e : Expression) : Bool :=
  !e.all fun
    | name n _ | member _ n => s.place? n != some (.column position)
    | _ => true

/-! ### When a row is made -/

/-- The parts of an expression that are to have values of their own, and not to be compared. -/
def valued : Expression → List Expression
  | binary op a b => if op.compares then [] else [a, b]
  | negate e | plus e | complement e | not e | isNull e | notNull e | collate e _ | cast e _ => [e]
  | among e choices => e :: choices
  | call _ arguments => arguments
  | choose tests results otherwise => tests ++ results ++ [otherwise]
  | switch _ _ results otherwise => results ++ [otherwise]
  | vector es => es
  | literal _ | numeral _ | truth _ | unusable _ | name .. | member .. | between .. => []

/-- Are there only values where values are needed? -/
def isUsable (e : Expression) : Bool :=
  !e.isVector && e.all fun e =>
    !(valued e).any isVector && match e with
      | unusable _ => false
      | negate (literal (.integer n)) => n != -wordLimit
      | binary op a b => !op.compares || a.size == b.size
      | between e low high => e.size == low.size && e.size == high.size
      | switch subject choices _ _ => choices.all fun c => c.size == subject.size
      | _ => true

end Expression

end Conform.Sqlite
