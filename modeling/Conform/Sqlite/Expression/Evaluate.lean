import Conform.Sqlite.Expression.Arithmetic
import Conform.Sqlite.Expression.Comparison
import Conform.Sqlite.Refusal

/-! The value of an expression for one row. Logic knows three values: of a null nothing is known.
Where an expression is only a condition, its second operand is left alone if the first one decides;
where it is a value, both operands are worked out. -/
namespace Conform.Sqlite

/-- A value that is worked out on demand, which may fail. -/
abbrev Outcome := Unit → Except Refusal Computed

namespace Outcome

def ofValue (v : Value) : Outcome := fun _ => .ok { value := v }

def map (f : Value → Value) (o : Outcome) : Outcome := fun _ => do
  return { value := f (← o ()).value }

def map₂ (f : Value → Value → Value) (o p : Outcome) : Outcome := fun _ => do
  return { value := f (← o ()).value (← p ()).value }

/-- The first value that is not null. -/
def firstKnown : List Outcome → Outcome
  | [], _ => .ok { value := .null }
  | [o], _ => o ()
  | o :: rest, _ => do
    let v ← o ()
    if v.value.isNull then firstKnown rest () else return v

def all : List Outcome → Except Refusal (List Computed)
  | [] => .ok []
  | o :: rest => do
    let v ← o ()
    return v :: (← all rest)

end Outcome

/-- What is compared: the items of a vector, or an expression by itself. -/
abbrev Operand := List (Expression × Outcome)

/-- What an expression comes to for a row. -/
structure Evaluation where
  value : Outcome
  /-- Does it hold, where a null counts as told? -/
  holds : (nullAs : Bool) → Except Refusal Bool
  /-- Its truth, if that is known without any row. -/
  always : Option Bool := none
  /-- What is compared of it. -/
  operand : Operand

namespace Evaluation

def ofOutcome (e : Expression) (o : Outcome) (always : Option Bool := none) : Evaluation where
  value := o
  holds nullAs := do return (← o ()).value.isTrue nullAs
  always
  operand := [(e, o)]

def ofCondition (e : Expression) (condition : Unit → Except Refusal (Option Bool)) : Evaluation :=
  ofOutcome e fun _ => do return { value := .ofTruth (← condition ()) }

/-- The value of a conjunction needs both operands. -/
def conjunction (e : Expression) (a b : Evaluation) : Evaluation :=
  let simple : Option Evaluation :=
    if a.always = some true ∨ b.always = some false then some b
    else if b.always = some true ∨ a.always = some false then some a
    else none
  let value := Outcome.map₂ (Value.operate .and) a.value b.value
  { value
    holds nullAs := match simple with
      | some simple => simple.holds nullAs
      | none => do if ← a.holds nullAs then b.holds nullAs else return false
    always := simple.bind (·.always)
    operand := [(e, value)] }

/-- The value of a disjunction needs both operands. -/
def disjunction (e : Expression) (a b : Evaluation) : Evaluation :=
  let simple : Option Evaluation :=
    if a.always = some true ∨ b.always = some false then some a
    else if b.always = some true ∨ a.always = some false then some b
    else none
  let value := Outcome.map₂ (Value.operate .or) a.value b.value
  { value
    holds nullAs := match simple with
      | some simple => simple.holds nullAs
      | none => do if ← a.holds nullAs then return true else b.holds nullAs
    always := simple.bind (·.always)
    operand := [(e, value)] }

def negation (e : Expression) (a : Evaluation) : Evaluation :=
  let value := a.value.map fun v => .ofTruth (v.truth?.map (!·))
  { value
    holds nullAs := do return !(← a.holds !nullAs)
    operand := [(e, value)] }

/-- Is the truth of an operand as it is asked for? -/
def truthTest (e : Expression) (asked negated : Bool) (a : Evaluation) : Evaluation :=
  let value := a.value.map fun v => .ofBool ((v.truth? == some asked) != negated)
  { value
    holds _ := do
      if asked != negated then a.holds negated else return !(← a.holds !negated)
    operand := [(e, value)] }

/-! ### Comparing -/

/-- Are all items equal? The first that differs decides. -/
def equalItems (s : Scope) (nullsMatch : Bool) : Operand → Operand → Except Refusal (Option Bool)
  | (a, o) :: as, (b, p) :: bs => do
    let v := (← o ()).value
    let w := (← p ()).value
    let same : Option Bool :=
      if nullsMatch && (v.isNull || w.isNull) then some (v.isNull && w.isNull)
      else (Expression.orderingOf s a b v w).map (· == .eq)
    if same = some false then return same
    return Value.both same (← equalItems s nullsMatch as bs)
  | _, _ => return some true

/-- How the items compare: the first pair that is not equal decides. -/
def orderItems (s : Scope) : Operand → Operand → Except Refusal (Option Ordering)
  | (a, o) :: as, (b, p) :: bs => do
    let v := (← o ()).value
    let w := (← p ()).value
    let order := Expression.orderingOf s a b v w
    if order = some .eq then orderItems s as bs else return order
  | _, _ => return some .eq

def compare (s : Scope) (op : BinaryOperator) (a b : Operand) : Except Refusal (Option Bool) :=
  let test (f : Ordering → Bool) : Except Refusal (Option Bool) := do
    return (← orderItems s a b).map f
  match op with
  | .equal => equalItems s false a b
  | .notEqual => do return (← equalItems s false a b).map (!·)
  | .is => equalItems s true a b
  | .isNot => do return (← equalItems s true a b).map (!·)
  | .less => test (· == .lt)
  | .lessOrEqual => test (· != .gt)
  | .greater => test (· == .gt)
  | .greaterOrEqual => test (· != .lt)
  | _ => return none

/-- Is a value one of some choices? They are tried one after the other. -/
def isAmong (s : Scope) (a : Expression) (v : Value) :
    List Outcome → Except Refusal (Option Bool)
  | [] => .ok (some false)
  | o :: rest => do
    let w := (← o ()).value
    let c := (Expression.collation? s a).getD .binary
    let same := (Expression.ordering? c (Expression.affinity? s a) none v w).map (· == .eq)
    if same = some true then return same
    return Value.either same (← isAmong s a v rest)

/-! ### Choosing -/

/-- The result beside the first test that holds. -/
def chosen (otherwise : Evaluation) : List (Unit → Except Refusal Bool) → List Evaluation → Outcome
  | test :: tests, result :: results, _ => do
    if ← test () then result.value () else chosen otherwise tests results ()
  | _, _, _ => otherwise.value ()

/-- What a function gives for its arguments, of which some are worked out only if need be. -/
def call (s : Scope) (c : Collation) (f : String) (arguments : List Evaluation) : Outcome :=
  let outcomes := arguments.map (·.value)
  match f, arguments with
  | "coalesce", _ | "ifnull", _ => .firstKnown outcomes
  | "iif", [test, a, b] => chosen b [fun _ => test.holds false] [a]
  | "likely", a :: _ | "unlikely", a :: _ | "likelihood", a :: _ => a.value
  | f, _ => fun _ => do
    (Function.apply s.present c f (← Outcome.all outcomes)).mapError .failedFunction

end Evaluation

namespace Expression

open Evaluation (ofOutcome ofCondition)

/-- An integer as the sign before it says; beyond 64 bits it is a real number. -/
def signedNumeral (n : Int) : Value := if fits n then .integer n else .real (Binary64.ofInt n)

mutual

/-- What the expression comes to, where `read` gives the columns and the number of the row. -/
def evaluation (s : Scope) (read : Place → Value) : Expression → Evaluation
  | literal v => ofOutcome (literal v) (.ofValue v)
  | numeral n => ofOutcome (numeral n) (.ofValue (signedNumeral n))
      (if n ≤ greatestShort then some (n != 0) else none)
  | truth b => ofOutcome (truth b) (.ofValue (.ofBool b)) (some b)
  | unusable c => ofOutcome (unusable c) (.ofValue .null)
  | name n quoted => match s.place? n with
    | some place => ofOutcome (name n quoted) (.ofValue (read place))
    | none =>
      let known := if quoted then none else truthWord? n
      ofOutcome (name n quoted) (.ofValue (if quoted then .ofString n else .ofTruth known)) known
  | member table column => ofOutcome (member table column)
      (.ofValue ((s.place? column).elim .null read))
  | negate (numeral n) => ofOutcome (negate (numeral n)) (.ofValue (signedNumeral (-n)))
  | negate (literal (.real x)) => ofOutcome (negate (literal (.real x)))
      (.ofValue (.real x.negate))
  | negate e => ofOutcome (negate e) ((evaluation s read e).value.map .negated)
  | plus e => ofOutcome (plus e) (evaluation s read e).value
  | complement e => ofOutcome (complement e) ((evaluation s read e).value.map .complement)
  | not e => .negation (not e) (evaluation s read e)
  | isNull e => ofOutcome (isNull e)
      ((evaluation s read e).value.map fun v => .ofBool v.isNull)
  | notNull e => ofOutcome (notNull e)
      ((evaluation s read e).value.map fun v => .ofBool !v.isNull)
  | binary op a b =>
    let e := binary op a b
    let x := evaluation s read a
    let y := evaluation s read b
    let truth := if op = .is ∨ op = .isNot then truthAsked? s b else none
    match op, truth with
    | .and, _ => .conjunction e x y
    | .or, _ => .disjunction e x y
    | op, some asked => .truthTest e asked (op = .isNot) x
    | op, none =>
      if op.compares then
        ofCondition e fun _ => Evaluation.compare s op x.operand y.operand
      else ofOutcome e (.map₂ (.operate op) x.value y.value)
  -- All items of the first operand are worked out before any is compared.
  | between a low high =>
    let e := between a low high
    let x := evaluation s read a
    let y := evaluation s read low
    let z := evaluation s read high
    .conjunction e
      (ofCondition e fun _ => do
        let _ ← Outcome.all (x.operand.map (·.2))
        Evaluation.compare s .greaterOrEqual x.operand y.operand)
      (ofCondition e fun _ => Evaluation.compare s .lessOrEqual x.operand z.operand)
  -- More than two choices that depend on no row are all worked out before the first comparison.
  | among a choices =>
    let x := evaluation s read a
    let ys := (evaluations s read choices).map (·.value)
    let isSet := 2 < choices.length && choices.all (isSettled s)
    ofCondition (among a choices) fun _ => do
      if isSet then
        let _ ← Outcome.all ys
      Evaluation.isAmong s a (← x.value ()).value ys
  | collate e c => ofOutcome (collate e c) (evaluation s read e).value
  | cast e affinity =>
    let x := evaluation s read e
    ofOutcome (cast e affinity) fun _ => do
      let v ← x.value ()
      return { v with value := v.value.converted affinity }
  | call f arguments =>
    let c := (arguments.findSome? (collation? s)).getD .binary
    ofOutcome (call f arguments) (Evaluation.call s c f (evaluations s read arguments))
  | choose tests results otherwise =>
    let conditions := (evaluations s read tests).map fun x _ => x.holds false
    ofOutcome (choose tests results otherwise)
      (Evaluation.chosen (evaluation s read otherwise) conditions (evaluations s read results))
  | switch subject choices results otherwise =>
    let x := evaluation s read subject
    let conditions := (evaluations s read choices).map fun y _ => do
      return (← Evaluation.equalItems s false x.operand y.operand) == some true
    ofOutcome (switch subject choices results otherwise)
      (Evaluation.chosen (evaluation s read otherwise) conditions (evaluations s read results))
  | vector es =>
    { ofOutcome (vector es) (.ofValue .null) with
      operand := es.zip ((evaluations s read es).map (·.value)) }

def evaluations (s : Scope) (read : Place → Value) : List Expression → List Evaluation
  | [] => []
  | e :: rest => evaluation s read e :: evaluations s read rest

end

/-- The value of an expression. -/
def value (s : Scope) (read : Place → Value) (e : Expression) : Except Refusal Value :=
  (fun c => c.value) <$> (e.evaluation s read).value ()

/-- Does the expression hold? What is not known is not held against it. -/
def passes (s : Scope) (read : Place → Value) (e : Expression) : Except Refusal Bool :=
  (e.evaluation s read).holds true

end Expression

end Conform.Sqlite
