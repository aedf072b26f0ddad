import Conform.Proofs.Run.Honest
import Conform.Proofs.Run.Step
import Conform.Proofs.Schema.Order
import Mathlib.Data.List.Nodup

/-! A step that fails fatally has issued nothing. A table that is reset has two steps, though, and
then one of them may issue statements while the other fails. -/
namespace Conform

/-- The event hands statements to the database. -/
def Event.issues : Event → Bool
  | called (.execute _) _ | called (.executeRebuild _ _) _ => true
  | called _ _ | ruled _ _ => false

namespace Step

variable {σ : Type}

/-- The step hands statements to the database. -/
def issues (step : Step σ) : Bool := step.events.any (·.issues)

/-- The step fails with a fatal error. -/
def isFatal (step : Step σ) : Bool :=
  match step.result with
  | .error e => e.isFatal
  | .ok _ => false

end Step

section
variable {σ : Type} {b : Backend σ}

/-- What issues statements is no part of a check. -/
theorem Event.issues_eq_false_of_isCheck {event : Event} (check : event.isCheck = true) :
    event.issues = false := by
  unfold Event.isCheck at check
  split at check <;> first | rfl | cases check

private theorem error_of_map {r : Except Error α} {f : α → β} (failed : r.map f = .error e) :
    r = .error e := by
  cases r with
  | error => exact congrArg _ (Except.error.inj failed)
  | ok => cases failed

theorem Executed.fails (run : Executed b statements r events) (failed : r = .error e) :
    ∃ c, b.FailsWith c e := by
  induction run with
  | done => cases failed
  | failed fails => cases failed; exact ⟨_, fails⟩
  | next _ ih => exact ih failed

theorem Applied.fails (run : Applied b statements false r events) (failed : r = .error e) :
    ∃ c, b.FailsWith c e := by
  cases run with
  | executed run => exact run.fails (error_of_map failed)

theorem Prepared.fails (prepared : Prepared b table steps (.error e) events) :
    ∃ c, b.FailsWith c e := by
  cases prepared with
  | undefined fails => exact ⟨_, fails⟩

theorem Backend.Honest.not_fatal (honest : b.Honest) (fails : ∃ c, b.FailsWith c e) :
    e.isFatal = false := by
  obtain ⟨c, state, failed⟩ := fails
  exact honest c state e failed

/-- Before a fatal error nothing is issued: the planner finds it, or the gate does in a check. -/
theorem StepTrace.quiet (honest : b.Honest) (trace : StepTrace b false task g r events)
    (failed : r = .error e) (fatal : e.isFatal = true) (member : event ∈ events) :
    event.issues = false := by
  have impossible (fails : ∃ c, b.FailsWith c e) : event.issues = false := by
    rw [honest.not_fatal fails] at fatal
    cases fatal
  have checked {peril r} (check : Checked b g task.table peril r events) : event.issues = false :=
    Event.issues_eq_false_of_isCheck (check.isCheck member)
  cases task with
  | reset table =>
    cases trace with
    | stopped check => exact checked check
    | declined => cases failed
    | dropped _ run => exact impossible (run.fails (error_of_map failed))
  | reconcile t live =>
    cases trace with
    | unplanned => cases member
    | unchanged => cases failed
    | created _ run | altered _ _ run => exact impossible (run.fails (error_of_map failed))
    | rebuilt _ run =>
      cases run with
      | stopped check => exact checked check
      | declined | rebuilt => cases failed
      | undefined _ prepared => cases failed; exact impossible prepared.fails
      | failed _ _ fails => cases failed; exact impossible ⟨_, fails⟩

theorem Performed.quiet (performed : Performed b false s steps s') (honest : b.Honest)
    (member : step ∈ steps) (fatal : step.isFatal = true) : step.issues = false := by
  unfold Step.isFatal at fatal
  rw [Step.issues, List.any_eq_false]
  intro event among issues
  split at fatal
  case h_1 e failed =>
    rw [(performed.traced member).quiet honest failed fatal among] at issues
    cases issues
  case h_2 => cases fatal

theorem Report.mem_failures {report : Report} : (table, e) ∈ report.failures ↔
    ∃ entry ∈ report.entries, entry.table = table ∧ entry.result = .error e := by
  rw [Report.failures, List.mem_filterMap]
  constructor
  · rintro ⟨⟨name, result⟩, member, kept⟩
    cases result <;> cases kept
    exact ⟨_, member, rfl, rfl⟩
  · rintro ⟨⟨name, result⟩, member, rfl, rfl⟩
    exact ⟨_, member, rfl⟩

namespace Course

variable {model : Schema.Model} {options : Options} {resets rest : List (Step σ)}

/-- A failure of the report is the failure of a step. -/
theorem step_of_failure (course : Course b model options s resets rest (.ok report) s')
    (failure : (table, e) ∈ report.failures) :
    ∃ step ∈ resets ++ rest, step.task.table = table ∧ step.result = .error e := by
  obtain ⟨entry, member, named, failed⟩ := Report.mem_failures.mp failure
  rw [course.entries_eq] at member
  obtain ⟨step, among, rfl⟩ := List.mem_map.mp member
  exact ⟨step, among, named, failed⟩

/-- No table is reset twice. -/
theorem reset_unique (course : Course b model options s resets rest r s')
    (distinct : (model.tables.map (·.name)).Nodup) {first second : Step σ}
    (one : first ∈ resets) (other : second ∈ resets)
    (same : first.task.table = second.task.table) : first = second := by
  have ordered : (model.ordered.map (·.name)).Nodup :=
    (model.ordered_perm.map _).nodup_iff.mpr distinct
  have reversed : (model.ordered.reverse.map (·.name)).Nodup := by
    rw [List.map_reverse]
    exact List.nodup_reverse.mpr ordered
  exact List.inj_on_of_nodup_map (course.resetTables.nodup reversed) one other same

/-- No table is reconciled twice. -/
theorem rest_unique (course : Course b model options s resets rest r s')
    (distinct : (model.tables.map (·.name)).Nodup) {first second : Step σ}
    (one : first ∈ rest) (other : second ∈ rest)
    (same : first.task.table = second.task.table) : first = second := by
  have ordered : (model.ordered.map (·.name)).Nodup :=
    (model.ordered_perm.map _).nodup_iff.mpr distinct
  exact List.inj_on_of_nodup_map (course.restTables.sublist.nodup ordered) one other same

/-- A step that fails fatally and one that issues statements for the same table are the reset of the
table and its reconciliation. -/
theorem reset_and_rest (course : Course b model ⟨forceReset, false⟩ s resets rest r s')
    (honest : b.Honest) (distinct : (model.tables.map (·.name)).Nodup) {failing issuing : Step σ}
    (one : failing ∈ resets ++ rest) (other : issuing ∈ resets ++ rest)
    (same : failing.task.table = issuing.task.table)
    (fatal : failing.isFatal = true) (issues : issuing.issues = true) :
    failing ∈ resets ∧ issuing ∈ rest ∨ failing ∈ rest ∧ issuing ∈ resets := by
  -- a step that fails fatally is quiet, so the two are not one
  have differ : failing ≠ issuing := by
    rintro rfl
    rw [course.performed.quiet honest one fatal] at issues
    cases issues
  rcases List.mem_append.mp one with one | one <;>
    rcases List.mem_append.mp other with other | other
  · exact absurd (course.reset_unique distinct one other same) differ
  · exact .inl ⟨one, other⟩
  · exact .inr ⟨one, other⟩
  · exact absurd (course.rest_unique distinct one other same) differ

end Course

/-- Of the reset of a table and its reconciliation one fails fatally and the other issues. -/
def Split (resets rest : List (Step σ)) (table : String) : Prop :=
  ∃ reset ∈ resets, ∃ step ∈ rest, reset.task.table = table ∧ step.task.table = table ∧
    (reset.issues = true ∧ step.isFatal = true ∨ reset.isFatal = true ∧ step.issues = true)

/-- A run issues statements for a table with a fatal failure exactly when it is forced to reset the
table, and one of the reset and the reconciliation fails fatally while the other issues. -/
theorem issued_despite_fatal_iff (honest : b.Honest)
    (distinct : (model.tables.map (·.name)).Nodup)
    (ran : (b.reconcile model ⟨forceReset, false⟩).from s = (.ok report, s')) :
    ∃ live later resets rest, (b.call .existingSchema).from s = (.ok live, later) ∧
      Course b model ⟨forceReset, false⟩ later resets rest (.ok report) s' ∧
      ∀ table e, (table, e) ∈ report.failures → e.isFatal = true →
        ((∃ step ∈ resets ++ rest, step.task.table = table ∧ step.issues = true) ↔
          forceReset = true ∧ Split resets rest table) := by
  obtain ⟨live, later, resets, rest, read, course⟩ := Backend.reconcile_reported ran
  refine ⟨live, later, resets, rest, read, course, fun table e failure fatal => ?_⟩
  constructor
  · rintro ⟨issuing, other, named, issues⟩
    obtain ⟨failing, one, same, failed⟩ := course.step_of_failure failure
    have fails : failing.isFatal = true := by rw [Step.isFatal, failed]; exact fatal
    rcases course.reset_and_rest honest distinct one other (same.trans named.symm) fails issues
      with ⟨one, other⟩ | ⟨one, other⟩
    · exact ⟨(course.reset_of_mem one).1, failing, one, issuing, other, same, named,
        .inr ⟨fails, issues⟩⟩
    · exact ⟨(course.reset_of_mem other).1, issuing, other, failing, one, named, same,
        .inl ⟨issues, fails⟩⟩
  · rintro ⟨_, reset, among, step, member, named, same, ⟨issues, _⟩ | ⟨_, issues⟩⟩
    · exact ⟨reset, List.mem_append_left _ among, named, issues⟩
    · exact ⟨step, List.mem_append_right _ member, same, issues⟩

end

/-- A table is wanted with a column that has no type in SQLite. -/
private def untypable : Schema.Model :=
  { tables := [{ name := "T", fields := [{ name := "shape", type := "Geometry" }] }] }

/-- The table is there with another column, and the gate is latched. -/
private def untypableStart : Session Rehearsal.Stage where
  state.script.tables := [{ name := "T", columns := [{ name := "id", type := "INTEGER" }] }]
  gate := .preAuthorized

private def untypableReset : Except Error Report × Session Rehearsal.Stage :=
  ((Rehearsal.backend .sqlite).reconcile untypable ⟨true, false⟩).from untypableStart

/-- The table is dropped before it is found that it cannot be created anew. -/
theorem dropped_despite_fatal :
    untypableReset.1.toOption.map (·.failures) =
        some [("T", .unsupportedType "sqlite" "Geometry")] ∧
      (Error.unsupportedType "sqlite" "Geometry").isFatal = true ∧
      untypableReset.2.state.calls =
        ["existing_schema", "row_count T", "execute DROP TABLE IF EXISTS \"T\""] := by
  decide +kernel

theorem untypable_issued_despite_fatal_iff :
    (Rehearsal.backend .sqlite).Honest ∧ (untypable.tables.map (·.name)).Nodup ∧
      ∃ report, untypableReset = (.ok report, untypableReset.2) ∧
        ∃ live later resets rest,
          ((Rehearsal.backend .sqlite).call .existingSchema).from untypableStart =
            (.ok live, later) ∧
          Course (Rehearsal.backend .sqlite) untypable ⟨true, false⟩ later resets rest
            (.ok report) untypableReset.2 ∧
          ∀ table e, (table, e) ∈ report.failures → e.isFatal = true →
            ((∃ step ∈ resets ++ rest, step.task.table = table ∧ step.issues = true) ↔
              true = true ∧ Split resets rest table) := by
  have honest : (Rehearsal.backend .sqlite).Honest := Rehearsal.backend_honest _
  have distinct : (untypable.tables.map (·.name)).Nodup := by decide
  have reported : untypableReset.1.toOption.isSome = true := by decide +kernel
  rcases ran : untypableReset with ⟨e | report, s'⟩
  · rw [ran] at reported
    cases reported
  · exact ⟨honest, distinct, report, rfl, issued_despite_fatal_iff honest distinct ran⟩

end Conform
