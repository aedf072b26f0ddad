import Conform.Sqlite.Expression.Scope

/-! How the operands of a comparison are compared: by what either column prefers, and by a
collation that is stated or comes from a column. -/
namespace Conform.Sqlite

namespace Expression

/-- The affinity that an expression has as an operand, if any. -/
def affinity? (s : Scope) : Expression → Option Affinity
  | name n _ => s.affinity? n
  | member _ column => s.affinity? column
  | collate e _ => affinity? s e
  | cast _ affinity => some affinity
  | vector (e :: _) => affinity? s e
  | _ => none

/-- The first name among tests and results in turn. -/
def firstOfPairs (tests results : List (Option String)) : Option String :=
  (tests.zip results).findSome? fun (test, result) => test.or result

mutual

/-- The name of the collation that an expression asks for. -/
def stated? : Expression → Option String
  | literal _ | numeral _ | truth _ | unusable _ | name .. | member .. => none
  | collate _ c => some c
  | negate e | plus e | complement e | not e | isNull e | notNull e | cast e _ => stated? e
  | between e _ _ => stated? e
  | binary _ a b => (stated? a).or (stated? b)
  | among e choices => (stated? e).or (firstStated? choices)
  | call _ arguments => firstStated? arguments
  | choose tests results otherwise =>
    (firstOfPairs (allStated tests) (allStated results)).or (stated? otherwise)
  | switch subject choices results otherwise =>
    ((stated? subject).or (firstOfPairs (allStated choices) (allStated results))).or
      (stated? otherwise)
  | vector [] => none
  | vector (e :: _) => stated? e

def firstStated? : List Expression → Option String
  | [] => none
  | e :: rest => (stated? e).or (firstStated? rest)

def allStated : List Expression → List (Option String)
  | [] => []
  | e :: rest => stated? e :: allStated rest

end

/-- The collation of the column that an expression is. -/
def inherited? (s : Scope) : Expression → Option Collation
  | name n _ => (s.column? n).map (·.collation)
  | member _ column => (s.column? column).map (·.collation)
  | plus e | cast e _ => inherited? s e
  | vector (e :: _) => inherited? s e
  | _ => none

/-- The collation by which an expression is compared. -/
def collation? (s : Scope) (e : Expression) : Option Collation :=
  match stated? e with
  | some stated => Collation.ofName? stated
  | none => inherited? s e

/-- The collation of a comparison: a stated one goes before that of a column, and the left one
before the right one. -/
def comparedBy (s : Scope) (a b : Expression) : Collation :=
  let c : Option Collation := match (stated? a).or (stated? b) with
    | some stated => Collation.ofName? stated
    | none => (inherited? s a).or (inherited? s b)
  c.getD .binary

/-- Are there all collations that comparisons ask for? To ask about truth is no comparison. -/
def knowsCollations (s : Scope) : Expression → Bool :=
  all fun
    | binary op a b => !op.compares || asksTruth s op b || knowsAll a b
    | between e low high => knowsAll e low && knowsAll e high
    | switch subject choices _ _ => choices.all (knowsAll subject)
    | among e _ => known (stated? e)
    | call f arguments => !comparingFunctions.contains f || known (firstStated? arguments)
    | _ => true
where
  known (collation : Option String) : Bool := collation.all fun stated =>
    (Collation.ofName? stated).isSome
  knowsAll (a b : Expression) : Bool :=
    (a.items.zip b.items).all fun (a, b) => known ((stated? a).or (stated? b))

/-- Both values as a comparison sees them. Numbers and texts meet in what either column prefers. -/
def compared (a b : Option Affinity) (v w : Value) : Value × Value :=
  let common := match a, b with
    | some x, some y => if x.isNumeric || y.isNumeric then Affinity.numeric else .blob
    | some x, none | none, some x => x
    | none, none => .blob
  if common.isNumeric then (v.numeric, w.numeric)
  else if common == .text && (v.isText || w.isText) then
    (Affinity.text.apply v, Affinity.text.apply w)
  else (v, w)

/-- How two values compare; nothing is known of nulls. -/
def ordering? (c : Collation) (a b : Option Affinity) (v w : Value) : Option Ordering :=
  if v.isNull || w.isNull then none
  else let (v, w) := compared a b v w; some (c.compare v w)

/-- How the values of two expressions compare. -/
def orderingOf (s : Scope) (a b : Expression) (v w : Value) : Option Ordering :=
  ordering? (comparedBy s a b) (affinity? s a) (affinity? s b) v w

end Expression

end Conform.Sqlite
