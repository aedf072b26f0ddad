import Conform.Gate
import Conform.Live.Basic
import Conform.Plan

/-! A session is a run of calls to one backend and of questions at one gate. It keeps the trace of
both, so that what happened, and in which order, can be read off afterwards. -/
namespace Conform

/-- What a backend can be asked to do. -/
inductive Call where
  | existingSchema
  | existingTable (name : String)
  | execute (statement : Sql.Statement)
  | rowCount (table : String)
  /-- The text of a statement that creates `target` like `table`. -/
  | previousDefinition (table target : String)
  /-- Runs the statements as one: all of them take effect or none. -/
  | executeRebuild (table : String) (statements : List Sql.Statement)
  deriving DecidableEq, Repr

/-- What a backend answers when a call succeeds. -/
abbrev Call.Answer : Call → Type
  | existingSchema => Live.Schema
  | existingTable _ => Option Live.Table
  | execute _ => Unit
  | rowCount _ => Nat
  | previousDefinition _ _ => String
  | executeRebuild _ _ => Unit

abbrev Call.Result (c : Call) : Type := Except Error c.Answer

/-- A backend with states of type `σ`. -/
structure Backend (σ : Type) where
  dialect : Dialect
  answer : (c : Call) → σ → c.Result × σ

inductive Event where
  | called (call : Call) (result : call.Result)
  | ruled (check : Check) (ruling : Ruling)

/-- The question of an event, if one was put. -/
def Event.question? : Event → Option String
  | called _ _ => none
  | ruled check ruling => if ruling.asked then some check.question else none

structure Session (σ : Type) where
  state : σ
  gate : Gate := {}
  trace : List Event := []

/-- The questions put so far. -/
def Session.asked (s : Session σ) : List String := s.trace.filterMap (·.question?)

/-- Work within a session. An error ends the work and keeps the session. -/
abbrev Run (σ : Type) : Type → Type := ExceptT Error (StateM (Session σ))

/-- The outcome of work and the session after it. -/
def Run.from (work : Run σ α) (s : Session σ) : Except Error α × Session σ := work s

/-- Makes one call. -/
def Backend.call (b : Backend σ) (c : Call) : Run σ c.Answer := fun s =>
  let reply := b.answer c s.state
  (reply.1, { s with state := reply.2, trace := s.trace ++ [.called c reply.1] })

/-- Puts one check to the gate. -/
def consult (c : Check) : Run σ Decision := fun s =>
  let ruling := s.gate.rule c
  (ruling.decision c, { s with gate := s.gate.next ruling, trace := s.trace ++ [.ruled c ruling] })

/-- The outcome of work on one table. Only an error that ends the run gets through. -/
def attempt (work : Run σ α) : Run σ (Except Error α) := fun s =>
  match work s with
  | (.ok a, s) => (.ok (.ok a), s)
  | (.error e, s) => if e.endsRun then (.error e, s) else (.ok (.error e), s)

end Conform
