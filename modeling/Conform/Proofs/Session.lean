import Conform.Session

/-! Work in a session told by what it leaves behind: its outcome and the events that it adds to the
trace. The gate after the work follows from these events alone. -/
namespace Conform

@[simp] theorem Event.question?_called (c : Call) (r : c.Result) :
    (Event.called c r).question? = none := rfl

@[simp] theorem Event.question?_ruled (c : Check) (ruling : Ruling) :
    (Event.ruled c ruling).question? = if ruling.asked then some c.question else none := rfl

/-- The gate after the rulings among some events. -/
def Gate.after (g : Gate) : List Event → Gate
  | [] => g
  | .called _ _ :: rest => g.after rest
  | .ruled _ ruling :: rest => (g.next ruling).after rest

@[simp] theorem Gate.after_nil (g : Gate) : g.after [] = g := rfl

theorem Gate.after_append (g : Gate) (before after : List Event) :
    g.after (before ++ after) = (g.after before).after after := by
  induction before generalizing g with
  | nil => rfl
  | cons event rest ih => cases event <;> exact ih _

/-- A latched gate stays latched. -/
theorem Gate.after_latched {g : Gate} (latched : g.latched = true) (events : List Event) :
    (g.after events).latched = true := by
  induction events generalizing g with
  | nil => exact latched
  | cons event rest ih =>
    cases event with
    | called => exact ih latched
    | ruled _ ruling =>
      refine ih ?_
      cases ruling <;> simp [next, latched]

/-- Calls leave the gate alone. -/
theorem Gate.after_calls {g : Gate} {events : List Event}
    (calls : ∀ event ∈ events, ∃ c r, event = .called c r) : g.after events = g := by
  induction events with
  | nil => rfl
  | cons event rest ih =>
    obtain ⟨c, r, rfl⟩ := calls event List.mem_cons_self
    exact ih fun later member => calls later (List.mem_cons_of_mem _ member)

namespace Run

/-- The events that the work adds to the trace. -/
def events (work : Run σ α) (s : Session σ) : List Event :=
  (work.from s).2.trace.drop s.trace.length

theorem events_eq {work : Run σ α} (added : (work.from s).2.trace = s.trace ++ later) :
    work.events s = later := by
  rw [events, added, List.drop_left]

@[simp] theorem from_pure (a : α) (s : Session σ) : Run.from (pure a) s = (.ok a, s) := rfl

theorem from_bind (work : Run σ α) (next : α → Run σ β) (s : Session σ) :
    Run.from (work >>= next) s = match work.from s with
      | (.ok a, later) => (next a).from later
      | (.error e, later) => (.error e, later) := by
  show (work >>= next) s = _
  simp only [bind, ExceptT.bind, ExceptT.mk, StateT.bind, Run.from]
  rcases work s with ⟨_ | _, later⟩ <;> rfl

theorem from_bind_of_ok {work : Run σ α} {next : α → Run σ β}
    (ran : work.from s = (.ok a, later)) : Run.from (work >>= next) s = (next a).from later := by
  rw [from_bind, ran]

theorem from_bind_of_error {work : Run σ α} {next : α → Run σ β}
    (ran : work.from s = (.error e, later)) :
    Run.from (work >>= next) s = (.error e, later) := by
  rw [from_bind, ran]

/-- Begun with the gate `g`, the work adds events that go with its outcome as `P` says. -/
def Does (work : Run σ α) (g : Gate) (P : Except Error α → List Event → Prop) : Prop :=
  ∀ s : Session σ, s.gate = g → ∃ events, (work.from s).2.trace = s.trace ++ events ∧
    (work.from s).2.gate = g.after events ∧ P (work.from s).1 events

variable {P Q : Except Error α → List Event → Prop}

theorem Does.weaken {work : Run σ α} (does : work.Does g P)
    (implies : ∀ r events, P r events → Q r events) : work.Does g Q := by
  intro s begun
  obtain ⟨events, trace, gate, holds⟩ := does s begun
  exact ⟨events, trace, gate, implies _ _ holds⟩

theorem Does.pure (holds : P (.ok a) []) : Does (pure a : Run σ α) g P := by
  intro s begun
  exact ⟨[], by simp, by simpa using begun, holds⟩

/-- Work that only looks up a result adds no event. -/
theorem Does.ofResult {result : Except Error α} (holds : P result []) :
    Does (ExceptT.mk (Pure.pure result) : Run σ α) g P := by
  intro s begun
  exact ⟨[], (List.append_nil _).symm, begun, holds⟩

theorem Does.bind {R : Except Error β → List Event → Prop} {work : Run σ α}
    {next : α → Run σ β} (first : work.Does g P)
    (failed : ∀ e before, P (.error e) before → R (.error e) before)
    (passed : ∀ a before, P (.ok a) before →
      (next a).Does (g.after before) fun r after => R r (before ++ after)) :
    Does (work >>= next) g R := by
  intro s begun
  obtain ⟨before, trace, gate, holds⟩ := first s begun
  rcases ran : work.from s with ⟨e | a, later⟩
  · rw [ran] at trace gate holds
    rw [from_bind_of_error ran]
    exact ⟨before, trace, gate, failed e before holds⟩
  · rw [ran] at trace gate holds
    rw [from_bind_of_ok ran]
    obtain ⟨after, traceAfter, gateAfter, holdsAfter⟩ := passed a before holds later gate
    refine ⟨before ++ after, ?_, ?_, holdsAfter⟩
    · rw [traceAfter, trace, List.append_assoc]
    · rw [gateAfter, Gate.after_append]

end Run

/-- In some state the backend answers the call with the error. -/
def Backend.FailsWith (b : Backend σ) (c : Call) (e : Error) : Prop :=
  ∃ state, (b.answer c state).1 = .error e

theorem Backend.call_does (b : Backend σ) (c : Call) (g : Gate) :
    (b.call c).Does g fun r events =>
      events = [.called c r] ∧ ∀ e, r = .error e → b.FailsWith c e := by
  intro s begun
  exact ⟨[.called c _], rfl, begun, rfl, fun _ failed => ⟨s.state, failed⟩⟩

/-- A call leaves its event and nothing else. -/
theorem Backend.call_trace {b : Backend σ} {c : Call} {r : c.Result}
    (called : (b.call c).from s = (r, later)) : later.trace = s.trace ++ [.called c r] := by
  cases called
  rfl

theorem Backend.call_gate {b : Backend σ} {c : Call} {r : c.Result}
    (called : (b.call c).from s = (r, later)) : later.gate = s.gate := by
  cases called
  rfl

theorem consult_does (c : Check) (g : Gate) :
    (consult c : Run σ Decision).Does g fun r events =>
      r = (g.rule c).decision c ∧ events = [.ruled c (g.rule c)] := by
  intro s begun
  subst begun
  exact ⟨[.ruled c _], rfl, rfl, rfl, rfl⟩

theorem attempt_from (work : Run σ α) (s : Session σ) :
    (attempt work).from s = match work.from s with
      | (.ok a, later) => (.ok (.ok a), later)
      | (.error e, later) =>
        if e.endsRun then (.error e, later) else (.ok (.error e), later) := rfl

end Conform
