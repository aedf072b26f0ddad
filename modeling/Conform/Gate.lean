import Conform.Error
import Conform.Text.Case
import Conform.Text.Blank

/-! The gate stands before every statement that drops a table. Large tables never pass; for others
it asks, unless everything has been allowed. -/
namespace Conform

inductive Answer where
  | yes
  | no
  | yesToAll
  deriving DecidableEq, Repr, Inhabited

/-- What a typed line says. Anything but a clear yes is a no. -/
def Answer.ofLine (line : List Char) : Answer :=
  match String.ofList (Text.lower (Text.trim line)) with
  | "y" | "yes" => .yes
  | "a" | "all" => .yesToAll
  | _ => .no

/-- What is about to happen to the rows of a table. -/
inductive Peril where
  | drop
  | rebuild
  /-- An action named by its caller. -/
  | named (action : String)
  deriving DecidableEq, Repr

def Peril.word : Peril → String
  | drop => "Drop"
  | rebuild => "Rebuild"
  | named action => action

structure Check where
  table : String
  rows : Nat
  peril : Peril
  deriving DecidableEq, Repr

def Check.question (c : Check) : String :=
  s!"{c.peril.word} table {c.table} ({c.rows} rows)?"

inductive Decision where
  | proceed
  | declined
  deriving DecidableEq, Repr

/-- The gate with the answers still to be given. When they run out the answer is no. -/
structure Gate where
  latched : Bool := false
  answers : List Answer := []
  deriving DecidableEq, Repr, Inhabited

/-- How a check was settled. -/
inductive Ruling where
  | tooLarge
  | authorized
  | answered (answer : Answer)
  deriving DecidableEq, Repr

namespace Gate

def preAuthorized : Gate := { latched := true }

def rule (g : Gate) (c : Check) : Ruling :=
  if rowLimit ≤ c.rows then .tooLarge
  else if g.latched then .authorized
  else .answered (g.answers.head?.getD .no)

/-- The gate after a ruling. Only an answer uses one up, and "all" opens the gate for good. -/
def next (g : Gate) : Ruling → Gate
  | .answered answer => { latched := g.latched || answer == .yesToAll, answers := g.answers.tail }
  | .tooLarge | .authorized => g

/-- The rulings on checks made one after another, and the gate after them. -/
def ruleAll (g : Gate) : List Check → List Ruling × Gate
  | [] => ([], g)
  | c :: rest =>
    let ruling := g.rule c
    let later := (g.next ruling).ruleAll rest
    (ruling :: later.1, later.2)

end Gate

namespace Ruling

def asked : Ruling → Bool
  | answered _ => true
  | tooLarge | authorized => false

def decision (c : Check) : Ruling → Except Error Decision
  | tooLarge => .error (.tableTooLarge c.table c.rows)
  | authorized => .ok .proceed
  | answered .no => .ok .declined
  | answered .yes | answered .yesToAll => .ok .proceed

end Ruling

end Conform
