import Conform.Proofs.Postgres.Effect
import Conform.Proofs.Run.Reported
import Conform.Schema.Normal

/-! What a forced reset leaves of the foreign keys that are declared to a PostgreSQL database. Tables
that were not dropped are planned from what they were before the others were, so that the foreign
keys that went with the others are taken for present. -/
namespace Conform

namespace Report

variable {report : Report}

/-- The table was dropped in the run. -/
def Drops (report : Report) (table : String) : Prop :=
  ∃ statements, ⟨table, .ok (.dropped statements)⟩ ∈ report.entries

theorem mem_entries_of_outcome? (last : report.outcome? table = some outcome) :
    ⟨table, .ok outcome⟩ ∈ report.entries := by
  obtain ⟨before, after, cut, _⟩ := List.lookup_eq_some_iff.mp last
  have listed : (table, outcome) ∈ report.outcomes := by
    rw [← List.mem_reverse, cut]
    simp
  obtain ⟨⟨named, r⟩, member, same⟩ := List.mem_filterMap.mp listed
  cases r with
  | error => cases same
  | ok =>
    cases same
    exact member

end Report

section
variable {σ : Type} {b : Backend σ} {live : Option Live.Table}

/-- If no call failed, the statements of a step are those that its entry lists. -/
theorem Accounted.executed_eq {step : Step σ} (accounted : Accounted b step)
    (unfailing : ∀ c e, .called c (.error e) ∉ step.events) :
    step.executed = step.entry.statements := by
  rcases accounted with all | ⟨_, _, _, _, _, _, _, _, failed, _⟩
  · exact all.symm
  · exact absurd failed (unfailing _ _)

theorem DropTrace.statements_eq (trace : DropTrace b table g false r events) :
    Entry.statements ⟨table, r⟩ =
      if r.toOption.any (·.isDropped) then b.dialect.render (.dropTable table true) else [] := by
  cases trace with
  | stopped | declined => rfl
  | @dropped _ r _ check run => cases r <;> rfl

/-- A reset leaves a table dropped, or as it was. -/
theorem DropTrace.not_settled (trace : DropTrace b table g false (.ok outcome) events) :
    outcome.label ∉ ["unchanged", "altered", "created"] := by
  generalize result : Except.ok outcome = r at trace
  cases trace with
  | stopped => cases result
  | declined =>
    cases result
    decide
  | dropped =>
    obtain ⟨_, _, rfl⟩ := ok_of_map result.symm
    simp [Outcome.label]

/-- PostgreSQL renders no remarks, so all that is planned is executed. -/
theorem applicable_postgres (postgres : b.dialect = .postgres) (operations : List Operation) :
    b.applicable operations = operations.flatMap Dialect.postgres.render := by
  rw [Backend.applicable, postgres, List.filter_eq_self]
  intro statement among
  obtain ⟨operation, _, rendered⟩ := List.mem_flatMap.mp among
  cases operation with
  | setPrimaryKey =>
    rcases Postgres.mem_render_setPrimaryKey rendered with ⟨_, rfl⟩ | rfl <;> rfl
  | _ =>
    obtain rfl := List.mem_singleton.mp rendered
    rfl

/-- A table that is brought in line in place, or created, has the statements of its plan. -/
theorem ReconcileTrace.plan_of_ok (trace : ReconcileTrace b t live g false (.ok outcome) events) :
    outcome.isDropped = false ∧ ∃ plan, b.dialect.plan t live = .ok plan ∧
      ∀ operations, plan = .create operations ∨ plan = .alter operations →
        outcome.statements = b.applicable operations := by
  generalize result : Except.ok outcome = r at trace
  cases trace with
  | unplanned => cases result
  | created plan run =>
    cases run
    obtain ⟨_, ended, rfl⟩ := ok_of_map result.symm
    obtain ⟨_, _, rfl⟩ := ok_of_map ended
    exact ⟨rfl, _, plan, by rintro _ (⟨⟨⟩⟩ | ⟨⟨⟩⟩); rfl⟩
  | unchanged plan =>
    cases result
    exact ⟨rfl, _, plan, by rintro _ (⟨⟨⟩⟩ | ⟨⟨⟩⟩); rfl⟩
  | altered plan _ run =>
    cases run
    obtain ⟨_, ended, rfl⟩ := ok_of_map result.symm
    obtain ⟨_, _, rfl⟩ := ok_of_map ended
    exact ⟨rfl, _, plan, by rintro _ (⟨⟨⟩⟩ | ⟨⟨⟩⟩); rfl⟩
  | rebuilt plan run =>
    cases run with
    | stopped | undefined | failed => cases result
    | declined | rebuilt =>
      cases result
      exact ⟨rfl, _, plan, by rintro _ (⟨⟨⟩⟩ | ⟨⟨⟩⟩)⟩

/-- In PostgreSQL a table that is reconciled is created if it is absent, and otherwise changed in
place. -/
theorem ReconcileTrace.statements_cases (postgres : b.dialect = .postgres)
    (trace : ReconcileTrace b t live g false (.ok outcome) events) : ∃ columns,
      live = none ∧ outcome.statements =
          (Operation.createTable (t.definition columns) true :: t.createIndexes).flatMap
            Dialect.postgres.render ∨
        ∃ table, live = some table ∧ outcome.statements =
          (Dialect.postgres.operations t table columns).flatMap Dialect.postgres.render := by
  obtain ⟨_, plan, planned, lists⟩ := trace.plan_of_ok
  rw [postgres] at planned
  obtain ⟨columns, ⟨absent, rfl⟩ | ⟨table, present, rfl⟩⟩ := Postgres.plan_cases planned
  · refine ⟨columns, .inl ⟨absent, ?_⟩⟩
    rw [lists _ (.inl rfl), applicable_postgres postgres]
  · refine ⟨columns, .inr ⟨table, present, ?_⟩⟩
    rw [lists _ (.inr rfl), applicable_postgres postgres]

theorem ReconcileTrace.worksOn (postgres : b.dialect = .postgres)
    (trace : ReconcileTrace b t live g false r events) :
    ∀ statement ∈ Entry.statements ⟨t.name, r⟩, statement.worksOn t.name = true := by
  intro statement among
  cases r with
  | error => cases among
  | ok outcome =>
    have listed : statement ∈ outcome.statements := among
    obtain ⟨columns, ⟨_, statements⟩ | ⟨_, _, statements⟩⟩ := trace.statements_cases postgres
    · rw [statements] at listed
      exact Postgres.worksOn_of_create columns listed
    · rw [statements] at listed
      exact Postgres.worksOn_of_operations listed

/-- A table that was planned before others were dropped has the foreign keys afterwards that it
declares, except for those that it had to the others. -/
theorem ReconcileTrace.hasForeignKey_iff (postgres : b.dialect = .postgres)
    (trace : ReconcileTrace b t live g false (.ok outcome) events) {db : Postgres.Tables}
    (before : (db t.name).map (·.constraints) =
      (live.map (·.without gone)).map (·.constraints)) :
    ∃ table, Postgres.afterAll db outcome.statements t.name = some table ∧
      ∀ r ∈ t.foreignKeys, table.hasForeignKey r = false ↔
        live.any (·.hasForeignKey r) = true ∧ r.referencedTable ∈ gone := by
  obtain ⟨columns, ⟨rfl, statements⟩ | ⟨planned, rfl, statements⟩⟩ :=
    trace.statements_cases postgres
  · have absent : db t.name = none := by simpa using before
    obtain ⟨table, made, all⟩ := Postgres.afterAll_create absent columns
    refine ⟨table, statements ▸ made, fun r declared => ?_⟩
    simp [all r declared]
  · obtain ⟨found, there, same⟩ := Option.map_eq_some_iff.mp before
    refine ⟨_, Postgres.afterAll_own (trace.worksOn postgres) there, fun r declared => ?_⟩
    rw [statements, Postgres.hasForeignKey_of_operations columns same declared]
    rfl

/-- The tables that steps dropped. -/
def droppedBy (steps : List (Step σ)) : List String :=
  (steps.filter (·.drops)).map (·.task.table)

theorem mem_droppedBy {steps : List (Step σ)} : name ∈ droppedBy steps ↔
    steps.any (fun step => step.task.table == name && step.drops) = true := by
  simp only [droppedBy, List.mem_map, List.mem_filter, List.any_eq_true, Bool.and_eq_true,
    beq_iff_eq]
  constructor
  · rintro ⟨step, ⟨member, drops⟩, named⟩
    exact ⟨step, member, named, drops⟩
  · rintro ⟨step, member, named, drops⟩
    exact ⟨step, ⟨member, drops⟩, named⟩

/-- What steps execute that drop their tables. -/
theorem executed_of_drops {steps : List (Step σ)} (each : ∀ step ∈ steps, step.executed =
    if step.drops then [.dropTable step.task.table true true] else []) :
    steps.flatMap (·.executed) = (droppedBy steps).map (.dropTable · true true) := by
  induction steps with
  | nil => rfl
  | cons step rest ih =>
    have later := ih fun other member => each other (List.mem_cons_of_mem _ member)
    rw [List.flatMap_cons, each step List.mem_cons_self, later]
    cases drops : step.drops with
    | false => simp [droppedBy, drops]
    | true => simp [droppedBy, drops]

/-- Steps on other tables leave the constraints of a table alone. -/
theorem afterAll_steps_other {steps : List (Step σ)} {db : Postgres.Tables}
    (works : ∀ step ∈ steps, ∀ statement ∈ step.executed,
      statement.worksOn step.task.table = true)
    (others : ∀ step ∈ steps, step.task.table ≠ name) :
    (Postgres.afterAll db (steps.flatMap (·.executed)) name).map (·.constraints) =
      (db name).map (·.constraints) := by
  induction steps generalizing db with
  | nil => rfl
  | cons step rest ih =>
    rw [List.flatMap_cons, Postgres.afterAll_append]
    refine (ih (fun other member => works other (List.mem_cons_of_mem _ member))
      fun other member => others other (List.mem_cons_of_mem _ member)).trans ?_
    exact Postgres.afterAll_other (works step List.mem_cons_self)
      (others step List.mem_cons_self).symm

namespace Finished

variable {model : Schema.Model} {live : Live.Schema} {s s' : Session σ}
  {resets rest : List (Step σ)} {report : Report}
  (finished : Finished b model ⟨true, false⟩ live s resets rest report s')
include finished

theorem task_of_reset (member : step ∈ resets) : ∃ name, step.task = .reset name := by
  obtain ⟨left, resetting, _⟩ := finished.tasks
  obtain ⟨t, _, task⟩ := List.mem_map.mp (resetting.sublist.subset (List.mem_map_of_mem member))
  exact ⟨t.name, task.symm⟩

/-- A table is reconciled as absent if it was dropped, and otherwise as it was in the beginning. -/
theorem task_of_rest (member : step ∈ rest) : ∃ t ∈ model.tables, step.task =
    .reconcile t (if t.name ∈ droppedBy resets then none else live.find? t.name) := by
  obtain ⟨left, resetting, tasks⟩ := finished.tasks
  obtain ⟨t, among, task⟩ := List.mem_map.mp (tasks ▸ List.mem_map_of_mem member)
  refine ⟨t, model.ordered_perm.subset among, task.symm.trans ?_⟩
  rw [resetting.find?_left rfl]
  simp only [mem_droppedBy]

theorem names_nodup (distinct : (model.tables.map (·.name)).Nodup) :
    (rest.map (·.task.table)).Nodup := by
  obtain ⟨left, _, tasks⟩ := finished.tasks
  have same := congrArg (List.map Task.table) tasks
  simp only [List.map_map, Function.comp_def, Task.table_reconcile] at same
  rw [same]
  exact (model.ordered_perm.map _).nodup_iff.mpr distinct

/-- What the report says to be dropped was dropped by a reset. -/
theorem drops_iff : report.Drops name ↔ name ∈ droppedBy resets := by
  rw [mem_droppedBy, any_drops_iff, Report.Drops, finished.recorded.entries_eq rfl]
  refine exists_congr fun statements => ?_
  rw [List.map_append, List.mem_append, or_iff_left]
  intro listed
  obtain ⟨step, member, same⟩ := List.mem_map.mp listed
  obtain ⟨t, _, task⟩ := finished.task_of_rest member
  have trace := finished.performed.traced (List.mem_append_right resets member)
  have result : step.result = .ok (.dropped statements) := congrArg Entry.result same
  rw [task, result] at trace
  cases (ReconcileTrace.plan_of_ok trace).1

/-- The last outcome of a table is that of its reconciliation, unless it is that of a reset. -/
theorem step_of_outcome (distinct : (model.tables.map (·.name)).Nodup)
    (declared : t ∈ model.tables) (last : report.outcome? t.name = some outcome)
    (settled : outcome.label ∈ ["unchanged", "altered", "created"]) :
    ∃ step ∈ rest, step.result = .ok outcome ∧ step.task =
      .reconcile t (if t.name ∈ droppedBy resets then none else live.find? t.name) := by
  have listed := Report.mem_entries_of_outcome? last
  rw [finished.recorded.entries_eq rfl] at listed
  obtain ⟨step, member, same⟩ := List.mem_map.mp listed
  have named : step.task.table = t.name := congrArg Entry.table same
  have result : step.result = .ok outcome := congrArg Entry.result same
  have trace := finished.performed.traced member
  rcases List.mem_append.mp member with member | member
  · obtain ⟨_, task⟩ := finished.task_of_reset member
    rw [task, result] at trace
    exact absurd settled (DropTrace.not_settled trace)
  · obtain ⟨own, among, task⟩ := finished.task_of_rest member
    rw [task, Task.table_reconcile] at named
    obtain rfl := List.inj_on_of_nodup_map distinct among declared named
    exact ⟨step, member, result, task⟩

section
variable (postgres : b.dialect = .postgres)
  (lists : ∀ step ∈ resets ++ rest, step.executed = step.entry.statements)
include postgres lists

theorem executed_of_resets :
    resets.flatMap (·.executed) = (droppedBy resets).map (.dropTable · true true) := by
  refine executed_of_drops fun step member => ?_
  obtain ⟨name, task⟩ := finished.task_of_reset member
  have among := List.mem_append_left rest member
  have trace := finished.performed.traced among
  rw [lists step among, Step.entry]
  rw [task] at trace ⊢
  refine (DropTrace.statements_eq trace).trans ?_
  rw [postgres]
  rfl

/-- Reconciling works on one table after the other. -/
theorem worksOn_of_rest (member : step ∈ rest) :
    ∀ statement ∈ step.executed, statement.worksOn step.task.table = true := by
  obtain ⟨t, _, task⟩ := finished.task_of_rest member
  have among := List.mem_append_right resets member
  have trace := finished.performed.traced among
  rw [lists step among, Step.entry]
  rw [task] at trace ⊢
  exact ReconcileTrace.worksOn postgres trace

/-- Of the foreign keys that a reconciled table declares, those are missing at the end that it had
in the beginning, if it was not dropped itself, to tables that were. -/
theorem hasForeignKey_iff (distinct : (model.tables.map (·.name)).Nodup) (member : step ∈ rest)
    (task : step.task =
      .reconcile t (if t.name ∈ droppedBy resets then none else live.find? t.name))
    (reconciled : step.result = .ok outcome) :
    ∃ table, Postgres.afterAll live.find? ((resets ++ rest).flatMap (·.executed)) t.name =
        some table ∧
      ∀ r ∈ t.foreignKeys, table.hasForeignKey r = false ↔
        (live.find? t.name).any (·.hasForeignKey r) = true ∧ t.name ∉ droppedBy resets ∧
          r.referencedTable ∈ droppedBy resets := by
  obtain ⟨first, last, rfl, before, after⟩ := split_at (finished.names_nodup distinct) member
  simp only [task, Task.table_reconcile] at before after
  have works {other : Step σ} (among : other ∈ first ++ step :: last) :=
    finished.worksOn_of_rest postgres lists among
  have among := List.mem_append_right resets member
  have trace := finished.performed.traced among
  rw [task, reconciled] at trace
  have executed : step.executed = outcome.statements := by
    rw [lists step among, Step.entry, reconciled]
    rfl
  -- the drops come first, then the steps on other tables, and the own one among these
  let reset := Postgres.afterAll live.find? (resets.flatMap (·.executed))
  let met := Postgres.afterAll reset (first.flatMap (·.executed))
  have dropped : reset t.name = (if t.name ∈ droppedBy resets then none
      else live.find? t.name).map (·.without (droppedBy resets)) := by
    dsimp only [reset]
    rw [finished.executed_of_resets postgres lists, Postgres.afterAll_drops]
    split <;> rfl
  have found : (met t.name).map (·.constraints) = (reset t.name).map (·.constraints) :=
    afterAll_steps_other (fun other member => works (List.mem_append_left _ member)) before
  rw [dropped] at found
  obtain ⟨own, made, missing⟩ := ReconcileTrace.hasForeignKey_iff postgres trace found
  have kept : (Postgres.afterAll (Postgres.afterAll met outcome.statements)
      (last.flatMap (·.executed)) t.name).map (·.constraints) = some own.constraints := by
    rw [afterAll_steps_other (fun other member => works (List.mem_append_right _
      (List.mem_cons_of_mem _ member))) after, made]
    rfl
  obtain ⟨table, final, same⟩ := Option.map_eq_some_iff.mp kept
  refine ⟨table, ?_, fun r declared => ?_⟩
  · rw [List.flatMap_append, List.flatMap_append, List.flatMap_cons, executed,
      Postgres.afterAll_append, Postgres.afterAll_append, Postgres.afterAll_append]
    exact final
  · rw [Live.Table.hasForeignKey_of_constraints same, missing r declared]
    by_cases gone : t.name ∈ droppedBy resets <;> simp [gone]

end

end Finished

/-- If no call fails, a forced reset of a PostgreSQL database leaves every table that is unchanged,
altered or created with the foreign keys that it declares, except for those that it had before if
it was not dropped itself and the table that they reference was. -/
theorem reset_loses_foreign_key_iff (postgres : b.dialect = .postgres)
    (distinct : (model.tables.map (·.name)).Nodup)
    (unfailing : ∀ c e, Event.called c (.error e) ∉ (b.reconcile model ⟨true, false⟩).events s) :
    ∃ live later report, (b.call .existingSchema).from s = (.ok live, later) ∧
      ((b.reconcile model ⟨true, false⟩).from s).1 = .ok report ∧
      ∀ t ∈ model.tables, ∀ outcome, report.outcome? t.name = some outcome →
        outcome.label ∈ ["unchanged", "altered", "created"] →
          ∃ table, Postgres.afterAll live.find?
              (((b.reconcile model ⟨true, false⟩).events s).flatMap (·.executed)) t.name =
                some table ∧
            ∀ r ∈ t.foreignKeys, table.hasForeignKey r = false ↔
              (live.find? t.name).any (·.hasForeignKey r) = true ∧ ¬ report.Drops t.name ∧
                report.Drops r.referencedTable := by
  obtain ⟨live, later, resets, rest, report, read, ran, finished, events⟩ :=
    Backend.reconcile_unfailing unfailing
  have lists (step : Step σ) (member : step ∈ resets ++ rest) :
      step.executed = step.entry.statements := by
    refine (finished.performed.traced member).accounted.executed_eq fun c e failed => ?_
    refine unfailing c e ?_
    rw [events]
    exact List.mem_cons_of_mem _ (List.mem_flatMap.mpr ⟨step, member, failed⟩)
  have executed : ((b.reconcile model ⟨true, false⟩).events s).flatMap (·.executed) =
      (resets ++ rest).flatMap (·.executed) := by
    rw [events, List.flatMap_cons, List.flatMap_assoc]
    rfl
  refine ⟨live, later, report, read, ran, fun t declared outcome last settled => ?_⟩
  obtain ⟨step, member, result, task⟩ :=
    finished.step_of_outcome distinct declared last settled
  simp only [finished.drops_iff, executed]
  exact finished.hasForeignKey_iff postgres lists distinct member task result

end

private def reference : Schema.Relation :=
  { field := "ref", referencedTable := "A", fields := ["a"], references := ["id"] }

/-- Two tables of which the second references the first. -/
private def linkedTables : List Schema.Table := [
  { name := "A", fields := [{ name := "id", type := "Int", isId := true }], idFields := ["id"] },
  { name := "B", fields := [
      { name := "a", type := "Int" },
      { name := "ref", type := "A", isRelation := true, relation := some reference }] }]

private def linked : Schema.Model := { tables := linkedTables }

/-- Both tables are there as they are declared. -/
private def linkedLive : List Live.Table := [
  { name := "A"
    columns := [{ name := "id", type := "integer", notNull := true, primaryKey := true }]
    primaryKey := ["id"]
    primaryKeyName := some "A_pkey" },
  { name := "B"
    columns := [{ name := "a", type := "integer" }]
    foreignKeys := [⟨some "fk_B_a", ["a"], "A", ["id"]⟩] }]

/-- The operator keeps the second table and lets the first be dropped. -/
private def linkedStart : Session Rehearsal.Stage where
  state.script.tables := linkedLive
  gate.answers := [.no, .yes]

private def linkedRun : Run Rehearsal.Stage Report :=
  (Rehearsal.backend .postgres).reconcile linked ⟨true, false⟩

/-- The second table has lost its foreign key to the first, and is said to be unchanged. -/
theorem linked_reset_loses_foreign_key :
    Schema.normalize linkedTables [] = .ok linked ∧
      Smooth ⟨linkedLive⟩ (fun _ _ => "") (linkedRun.events linkedStart) ∧
      (linkedRun.from linkedStart).1.toOption.bind (·.outcome? "B") = some .unchanged ∧
      linkedTables.flatMap (·.foreignKeys) = [reference] ∧
      (Postgres.afterAll (Live.Schema.find? ⟨linkedLive⟩)
        ((linkedRun.events linkedStart).flatMap (·.executed)) "B").map
          (·.hasForeignKey reference) = some false := by
  decide +kernel

theorem linked_reset_loses_foreign_key_iff :
    (Rehearsal.backend .postgres).dialect = .postgres ∧
      (linked.tables.map (·.name)).Nodup ∧
      (∀ c e, Event.called c (.error e) ∉ linkedRun.events linkedStart) ∧
      ∃ live later report,
        ((Rehearsal.backend .postgres).call .existingSchema).from linkedStart = (.ok live, later) ∧
        (linkedRun.from linkedStart).1 = .ok report ∧
        ∀ t ∈ linked.tables, ∀ outcome, report.outcome? t.name = some outcome →
          outcome.label ∈ ["unchanged", "altered", "created"] →
            ∃ table, Postgres.afterAll live.find?
                ((linkedRun.events linkedStart).flatMap (·.executed)) t.name = some table ∧
              ∀ r ∈ t.foreignKeys, table.hasForeignKey r = false ↔
                (live.find? t.name).any (·.hasForeignKey r) = true ∧ ¬ report.Drops t.name ∧
                  report.Drops r.referencedTable := by
  have distinct : (linked.tables.map (·.name)).Nodup := by decide +kernel
  have smooth : Smooth ⟨linkedLive⟩ (fun _ _ => "") (linkedRun.events linkedStart) := by
    decide +kernel
  have unfailing (c : Call) (e : Error) :
      Event.called c (.error e) ∉ linkedRun.events linkedStart := smooth.not_failed
  exact ⟨rfl, distinct, unfailing, reset_loses_foreign_key_iff rfl distinct unfailing⟩

end Conform
