import Conform.Dialect.Postgres
import Conform.Proofs.Run.Dry

/-! What a report says of the statements that took effect. It lists them all, in their order, unless
a table fails between two of its statements: those that were executed before are then missing. -/
namespace Conform

/-- Lists that are joined from sublists are the same only if all the sublists are. -/
theorem flatMap_eq_iff_of_sublist {f g : α → List β} {xs : List α}
    (parts : ∀ x ∈ xs, (f x).Sublist (g x)) :
    (xs.flatMap f).Sublist (xs.flatMap g) ∧
      (xs.flatMap f = xs.flatMap g ↔ ∀ x ∈ xs, f x = g x) := by
  induction xs with
  | nil => simp
  | cons x rest ih =>
    have first := parts x List.mem_cons_self
    obtain ⟨later, same⟩ := ih fun y member => parts y (List.mem_cons_of_mem _ member)
    simp only [List.flatMap_cons, List.forall_mem_cons]
    refine ⟨first.append later, fun joined => ?_, fun ⟨head, tail⟩ => ?_⟩
    · have lengths := congrArg List.length joined
      simp only [List.length_append] at lengths
      have head := first.length_le
      have tail := later.length_le
      exact ⟨first.eq_of_length (by omega), same.mp (later.eq_of_length (by omega))⟩
    · rw [head, same.mpr tail]

/-- The statements of the step that took effect. -/
def Step.executed {σ : Type} (step : Step σ) : List Sql.Statement :=
  step.events.flatMap (·.executed)

section
variable {σ : Type} (b : Backend σ)

/-- The statements that a task executes one by one. A rebuild executes its statements as one. -/
inductive Singly : Task → List Sql.Statement → Prop where
  | drop : Singly (.reset table) (b.dialect.render (.dropTable table true))
  | create (plan : b.dialect.plan t live = .ok (.create operations)) :
      Singly (.reconcile t live) (b.applicable operations)
  | alter (plan : b.dialect.plan t live = .ok (.alter operations)) :
      Singly (.reconcile t live) (b.applicable operations)

/-- The step failed between two of its statements, with those before the failure executed. -/
def Midway (step : Step σ) : Prop :=
  ∃ done statement rest e, Singly b step.task (done ++ statement :: rest) ∧ done ≠ [] ∧
    step.executed = done ∧ .called (.execute statement) (.error e) ∈ step.events ∧
    step.result = .error e

variable {b}

/-- What took effect is what the outcome lists, or the step failed midway. -/
def Accounted (b : Backend σ) (step : Step σ) : Prop :=
  step.entry.statements = step.executed ∨ step.entry.statements = [] ∧ Midway b step

/-- Statements executed after a check are those of the outcome, or one of them failed. -/
private theorem accounted_of_executed {step : Step σ} {outcome : Outcome} (before : List Event)
    (run : Executed b statements r after) (events : step.events = before ++ after)
    (silent : before.flatMap (·.executed) = [])
    (result : step.result = r.map fun _ => outcome) (lists : outcome.statements = statements)
    (singly : Singly b step.task statements) : Accounted b step := by
  have executed : step.executed = after.flatMap (·.executed) := by
    rw [Step.executed, events, List.flatMap_append, silent, List.nil_append]
  rcases run.cut with ⟨rfl, all⟩ | ⟨done, statement, rest, e, rfl, rfl, some, member⟩
  · refine .inl ?_
    rw [Entry.statements, Step.entry, result, executed, all]
    exact lists
  · have none : step.entry.statements = [] := by
      rw [Entry.statements, Step.entry, result]
      rfl
    by_cases nothing : done = []
    · refine .inl ?_
      rw [none, executed, some, nothing]
    · have member : .called (.execute statement) (.error e) ∈ step.events := by
        rw [events]
        exact List.mem_append_right _ member
      exact .inr ⟨none, done, statement, rest, e, singly, nothing, executed.trans some, member,
        result⟩

/-- A step that executed nothing has nothing to list. -/
private theorem accounted_of_silent {step : Step σ} (silent : step.executed = [])
    (lists : step.entry.statements = []) : Accounted b step := by
  refine .inl ?_
  rw [silent, lists]

theorem StepTrace.accounted {step : Step σ}
    (trace : StepTrace b false step.task g step.result step.events) : Accounted b step := by
  rcases step with ⟨task, start, result, events⟩
  cases task with
  | reset table =>
    cases trace with
    | stopped check | declined check => exact accounted_of_silent check.executed_eq rfl
    | dropped check run => exact accounted_of_executed _ run rfl check.executed_eq rfl rfl .drop
  | reconcile t live =>
    cases trace with
    | unplanned | unchanged => exact accounted_of_silent rfl rfl
    | @created operations _ _ _ plan run =>
      cases run with
      | @executed r _ run =>
        have result : (r.map fun _ => b.applicable operations).map Outcome.created =
            r.map fun _ => Outcome.created (b.applicable operations) := by cases r <;> rfl
        exact accounted_of_executed [] run rfl rfl result rfl (.create plan)
    | @altered operations _ _ _ plan some run =>
      cases run with
      | @executed r _ run =>
        have result : (r.map fun _ => b.applicable operations).map Outcome.altered =
            r.map fun _ => Outcome.altered (b.applicable operations) := by cases r <;> rfl
        exact accounted_of_executed [] run rfl rfl result rfl (.alter plan)
    | rebuilt _ run => exact .inl run.executed_eq.symm

/-- What a step is listed with is part of what it executed, and all of it unless it failed
midway. -/
theorem Accounted.sublist {step : Step σ} (accounted : Accounted b step) :
    step.entry.statements.Sublist step.executed ∧
      (step.entry.statements = step.executed ↔ ¬ Midway b step) := by
  rcases accounted with all | ⟨none, midway⟩
  · refine ⟨all ▸ List.Sublist.refl _, iff_of_true all ?_⟩
    rintro ⟨done, _, _, _, _, some, executed, _, failed⟩
    have none : step.entry.statements = [] := by
      rw [Entry.statements, Step.entry, failed]
      rfl
    exact some (by rw [← executed, ← all, none])
  · refine ⟨none ▸ List.nil_sublist _, iff_of_false ?_ (not_not_intro midway)⟩
    obtain ⟨done, _, _, _, _, some, executed, _, _⟩ := midway
    intro same
    exact some (by rw [← executed, ← same, none])

/-- In both dialects one statement drops a table, so that a reset does not stop midway. -/
theorem Midway.not_reset {step : Step σ} (known : b.dialect = .sqlite ∨ b.dialect = .postgres)
    (midway : Midway b step) : step.task.isReset = false := by
  obtain ⟨done, statement, rest, _, singly, some, _⟩ := midway
  generalize step.task = task, cut : done ++ statement :: rest = statements at singly
  cases singly with
  | create | alter => rfl
  | drop =>
    have single : (done ++ statement :: rest).length = 1 := by
      rw [cut]
      rcases known with same | same <;> rw [same] <;> rfl
    have length := List.length_pos_iff.mpr some
    simp only [List.length_append, List.length_cons] at single
    omega

/-- A report lists statements that took effect, in the order in which they did. None is missing
exactly if no step failed between two of its statements. -/
theorem report_complete_iff
    (ran : (b.reconcile model ⟨forceReset, false⟩).from s = (.ok report, s')) :
    ∃ live later resets rest, (b.call .existingSchema).from s = (.ok live, later) ∧
      Course b model ⟨forceReset, false⟩ later resets rest (.ok report) s' ∧
      report.statements.Sublist
        (((b.reconcile model ⟨forceReset, false⟩).events s).flatMap (·.executed)) ∧
      (report.statements =
          ((b.reconcile model ⟨forceReset, false⟩).events s).flatMap (·.executed) ↔
        ∀ step ∈ resets ++ rest, ¬ Midway b step) ∧
      (b.dialect = .sqlite ∨ b.dialect = .postgres →
        ∀ step ∈ resets ++ rest, Midway b step → step.task.isReset = false) := by
  obtain ⟨live, later, resets, rest, read, course⟩ := Backend.reconcile_reported ran
  have events : (b.reconcile model ⟨forceReset, false⟩).events s =
      .called .existingSchema (.ok live) :: (resets ++ rest).flatMap (·.events) := by
    refine Run.events_eq ?_
    rw [ran]
    exact course.performed.trace_after read
  have executed : ((b.reconcile model ⟨forceReset, false⟩).events s).flatMap (·.executed) =
      (resets ++ rest).flatMap (·.executed) := by
    rw [events, List.flatMap_cons, List.flatMap_assoc]
    rfl
  have listed : report.statements = (resets ++ rest).flatMap (·.entry.statements) := by
    rw [Report.statements_eq, course.entries_eq, List.flatMap_map]
  have each (step : Step σ) (member : step ∈ resets ++ rest) :=
    (course.performed.traced member).accounted.sublist
  obtain ⟨part, whole⟩ := flatMap_eq_iff_of_sublist fun step member => (each step member).1
  refine ⟨live, later, resets, rest, read, course, ?_, ?_, fun known step _ midway =>
    midway.not_reset known⟩
  · rw [executed, listed]
    exact part
  · rw [executed, listed, whole]
    exact forall_congr' fun step => imp_congr_right fun member => (each step member).2

end

/-- A new table with an index. -/
private def noted : Schema.Model where
  tables := [{
    name := "T"
    fields := [{ name := "note", type := "String" }]
    indexes := [{ fields := ["note"] }] }]

/-- The database refuses the index. -/
private def notedStart : Session Rehearsal.Stage where
  state.script.mishaps := [⟨"execute", "CREATE INDEX", .reported "refused"⟩]

private def notedRun : Run Rehearsal.Stage Report :=
  (Rehearsal.backend .sqlite).reconcile noted ⟨false, false⟩

/-- The table has been created, and the report knows nothing of it. -/
theorem noted_report_incomplete :
    (notedRun.from notedStart).1.toOption.map
        (fun report => (report.statements, report.failures.map (·.1))) = some ([], ["T"]) ∧
      (notedRun.events notedStart).flatMap (·.executed) =
        [.createTable { name := "T", columns := [⟨"note", "TEXT"⟩] } true] := by
  decide +kernel

theorem noted_report_complete_iff :
    ∃ report s', notedRun.from notedStart = (.ok report, s') ∧
      ∃ live later resets rest,
        ((Rehearsal.backend .sqlite).call .existingSchema).from notedStart = (.ok live, later) ∧
        Course (Rehearsal.backend .sqlite) noted ⟨false, false⟩ later resets rest (.ok report) s' ∧
        report.statements.Sublist ((notedRun.events notedStart).flatMap (·.executed)) ∧
        (report.statements = (notedRun.events notedStart).flatMap (·.executed) ↔
          ∀ step ∈ resets ++ rest, ¬ Midway (Rehearsal.backend .sqlite) step) ∧
        ((Rehearsal.backend .sqlite).dialect = .sqlite ∨
            (Rehearsal.backend .sqlite).dialect = .postgres →
          ∀ step ∈ resets ++ rest, Midway (Rehearsal.backend .sqlite) step →
            step.task.isReset = false) := by
  have reported : (notedRun.from notedStart).1.toOption.isSome = true := by decide +kernel
  rcases ran : notedRun.from notedStart with ⟨e | report, s'⟩
  · rw [ran] at reported
    cases reported
  · exact ⟨report, s', rfl, report_complete_iff ran⟩

end Conform
