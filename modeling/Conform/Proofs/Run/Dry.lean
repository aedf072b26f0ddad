import Conform.Dialect.Sqlite
import Conform.Proofs.Run.Account
import Conform.Rehearsal.Backend

/-! A dry run only reads. As long as no call fails it foretells the run that follows it, down to the
statements that are executed. -/
namespace Conform

section
variable {σ : Type} {b : Backend σ} {table : String}

/-- All that a dry step asks for is the definition of its table, and a dry reset not even that. -/
theorem StepTrace.reads (trace : StepTrace b true task g r events) (member : event ∈ events) :
    task.isReset = false ∧
      ∃ result, event = .called (.previousDefinition task.table (asideName task.table)) result := by
  cases task with
  | reset =>
    cases trace
    cases member
  | reconcile t live =>
    refine ⟨rfl, ?_⟩
    cases trace with
    | unplanned | unchanged => cases member
    | created _ run | altered _ _ run =>
      cases run
      cases member
    | planned _ prepared => exact prepared.mem member

/-- All that a dry run asks for after the catalog are the definitions of declared tables. -/
theorem Course.reads (course : Course b model ⟨forceReset, true⟩ s resets rest r s')
    (member : event ∈ (resets ++ rest).flatMap (·.events)) : ∃ t ∈ model.tables, ∃ result,
      event = .called (.previousDefinition t.name (asideName t.name)) result := by
  obtain ⟨step, among, member⟩ := List.mem_flatMap.mp member
  obtain ⟨notReset, result, same⟩ := (course.performed.traced among).reads member
  rcases List.mem_append.mp among with among | among
  · rw [(course.reset_of_mem among).2] at notReset
    cases notReset
  · have listed := course.restTables.subset (List.mem_map_of_mem among)
    obtain ⟨t, declared, named⟩ := List.mem_map.mp listed
    exact ⟨t, model.ordered_perm.subset declared, result, by rw [same, named]⟩

/-- A dry run reads the catalog and the definitions of declared tables. It calls for nothing else,
asks nothing and leaves the gate as it was. -/
theorem dry_run_only_reads (b : Backend σ) (model : Schema.Model) (forceReset : Bool)
    (s : Session σ) :
    ∃ read later,
      ((b.reconcile model ⟨forceReset, true⟩).from s).2.trace =
        s.trace ++ .called .existingSchema read :: later ∧
      (∀ event ∈ later, ∃ t ∈ model.tables, ∃ result,
        event = .called (.previousDefinition t.name (asideName t.name)) result) ∧
      ((b.reconcile model ⟨forceReset, true⟩).from s).2.gate = s.gate ∧
      ((b.reconcile model ⟨forceReset, true⟩).from s).2.asked = s.asked := by
  rcases called : (b.call .existingSchema).from s with ⟨e | live, start⟩
  · have trace := Backend.call_trace called
    rw [Backend.reconcile_unread called]
    refine ⟨.error e, [], trace, by simp, Backend.call_gate called, ?_⟩
    simp [Session.asked, trace]
  · obtain ⟨resets, rest, course⟩ := Backend.reconcile_course model ⟨forceReset, true⟩ called
    have trace := course.performed.trace_after called
    refine ⟨.ok live, _, trace, fun _ member => course.reads member, ?gate, ?asked⟩
    case gate =>
      rw [course.performed.gate, Backend.call_gate called]
      refine Gate.after_calls fun event member => ?_
      obtain ⟨_, _, result, same⟩ := course.reads member
      exact ⟨_, result, same⟩
    case asked =>
      have silent : ((resets ++ rest).flatMap (·.events)).filterMap (·.question?) = [] := by
        refine List.filterMap_eq_nil_iff.mpr fun event member => ?_
        obtain ⟨_, _, result, rfl⟩ := course.reads member
        rfl
      rw [Session.asked, trace, List.filterMap_append, List.filterMap_cons_none rfl, silent,
        List.append_nil]
      rfl

end

/-- The statements that an event shows executed. -/
def Event.executed : Event → List Sql.Statement
  | called (.execute statement) (.ok _) => [statement]
  | called (.executeRebuild _ statements) (.ok _) => statements
  | called _ _ | ruled _ _ => []

/-- Nothing goes wrong with the event: a call succeeds, few rows are counted, the catalog is `live`,
and the definition of a table is what `definition` gives. -/
def Event.isSmooth (live : Live.Schema) (definition : String → String → String) : Event → Bool
  | called .existingSchema (.ok read) => read == live
  | called (.rowCount _) (.ok rows) => rows < rowLimit
  | called (.previousDefinition table target) (.ok text) => text == definition table target
  | called _ (.ok _) | ruled _ _ => true
  | called _ (.error _) => false

/-- Nothing goes wrong with any of the events. -/
def Smooth (live : Live.Schema) (definition : String → String → String)
    (events : List Event) : Prop :=
  ∀ event ∈ events, event.isSmooth live definition = true

instance (live : Live.Schema) (definition : String → String → String) (events : List Event) :
    Decidable (Smooth live definition events) :=
  inferInstanceAs (Decidable (∀ event ∈ events, event.isSmooth live definition = true))

namespace Smooth

variable {live : Live.Schema} {definition : String → String → String} {before after : List Event}

theorem append_iff : Smooth live definition (before ++ after) ↔
    Smooth live definition before ∧ Smooth live definition after := by
  simp only [Smooth, List.forall_mem_append]

theorem not_failed (smooth : Smooth live definition events) :
    .called c (.error e) ∉ events := by
  intro member
  have impossible := smooth _ member
  cases c <;> cases impossible

end Smooth

namespace Backend

variable {σ : Type} (b : Backend σ) (definition : String → String → String)

/-- What a plan for a table comes to when nothing goes wrong. -/
def foretellPlan (table : String) : Plan → Outcome
  | .create operations => .created (b.applicable operations)
  | .alter [] => .unchanged
  | .alter operations => .altered (b.applicable operations)
  | .rebuild reasons steps =>
    let aside := asideName table
    .rebuilt reasons (b.rebuildSteps table (.createLike table aside (definition table aside)) steps)

/-- What a step comes to when nothing goes wrong with its calls. -/
def foretell : Task → Except Error Outcome
  | .reset table => .ok (.dropped (b.dialect.render (.dropTable table true)))
  | .reconcile t live => (b.dialect.plan t live).map (b.foretellPlan definition t.name)

end Backend

/-- The statements of a table, none if it failed. -/
def Entry.statements (entry : Entry) : List Sql.Statement :=
  entry.result.toOption.elim [] (·.statements)

theorem Report.statements_eq (report : Report) :
    report.statements = report.entries.flatMap (·.statements) := by
  rw [Report.statements, Report.outcomes]
  induction report.entries with
  | nil => rfl
  | cons entry rest ih =>
    rw [List.filterMap_cons, List.flatMap_cons, ← ih, Entry.statements]
    cases entry.result <;> rfl

section
variable {σ : Type} {b : Backend σ} {read : Live.Schema}
  {definition : String → String → String} {table : String}

/-- Statements are executed up to the first that fails. -/
theorem Executed.cut (run : Executed b statements r events) :
    r = .ok () ∧ events.flatMap (·.executed) = statements ∨
      ∃ done statement rest e, statements = done ++ statement :: rest ∧ r = .error e ∧
        events.flatMap (·.executed) = done ∧ .called (.execute statement) (.error e) ∈ events := by
  induction run with
  | done => exact .inl ⟨rfl, rfl⟩
  | @failed statement e rest =>
    exact .inr ⟨[], statement, rest, e, rfl, rfl, rfl, List.mem_cons_self⟩
  | @next _ _ _ first _ ih =>
    have head (events : List Event) : (Event.called (.execute first) (.ok ()) :: events).flatMap
        (·.executed) = first :: events.flatMap (·.executed) := rfl
    rcases ih with ⟨passed, executed⟩ | ⟨done, statement, rest, e, cut, failed, executed, member⟩
    · exact .inl ⟨passed, by rw [head, executed]⟩
    · refine .inr ⟨first :: done, statement, rest, e, by rw [cut]; rfl, failed, ?_, ?_⟩
      · rw [head, executed]
      · exact List.mem_cons_of_mem _ member

/-- A check executes nothing. -/
theorem Checked.executed_eq (check : Checked b g table peril r events) :
    events.flatMap (·.executed) = [] := by
  cases check <;> rfl

theorem Prepared.executed_eq (prepared : Prepared b table steps r events) :
    events.flatMap (·.executed) = [] := by
  cases prepared <;> rfl

/-- A rebuild executes all that its outcome lists, or nothing. -/
theorem RebuildTrace.executed_eq (run : RebuildTrace b table reasons steps g r events) :
    events.flatMap (·.executed) = Entry.statements ⟨table, r⟩ := by
  cases run with
  | stopped check | declined check => exact check.executed_eq
  | undefined check prepared =>
    rw [List.flatMap_append, check.executed_eq, prepared.executed_eq]
    rfl
  | failed check prepared =>
    rw [List.flatMap_append, List.flatMap_append, check.executed_eq, prepared.executed_eq]
    rfl
  | @rebuilt _ statements _ check prepared =>
    rw [List.flatMap_append, List.flatMap_append, check.executed_eq, prepared.executed_eq]
    exact List.append_nil statements

theorem Executed.smooth (run : Executed b statements r events)
    (smooth : Smooth read definition events) :
    r = .ok () ∧ events.flatMap (·.executed) = statements := by
  rcases run.cut with done | ⟨_, _, _, _, _, _, _, failed⟩
  · exact done
  · exact absurd failed smooth.not_failed

theorem Applied.smooth (run : Applied b statements dryRun r events)
    (smooth : Smooth read definition events) : r = .ok statements ∧
      events.flatMap (·.executed) = if dryRun then [] else statements := by
  cases run with
  | planned => exact ⟨rfl, rfl⟩
  | executed run =>
    obtain ⟨rfl, executed⟩ := run.smooth smooth
    exact ⟨rfl, executed⟩

theorem Checked.smooth (check : Checked b g table peril r events) (latched : g.latched = true)
    (smooth : Smooth read definition events) : r = .ok .proceed := by
  cases check with
  | uncounted => exact absurd List.mem_cons_self smooth.not_failed
  | tooLarge large =>
    have small := smooth _ List.mem_cons_self
    simp only [Event.isSmooth, decide_eq_true_eq] at small
    exact absurd small (Nat.not_lt.mpr large)
  | authorized | allowed => rfl
  | declined _ unlatched =>
    rw [latched] at unlatched
    cases unlatched

theorem Prepared.smooth (prepared : Prepared b table steps r events)
    (smooth : Smooth read definition events) : r = .ok (b.rebuildSteps table
      (.createLike table (asideName table) (definition table (asideName table))) steps) := by
  cases prepared with
  | undefined => exact absurd List.mem_cons_self smooth.not_failed
  | defined =>
    have defined := smooth _ List.mem_cons_self
    simp only [Event.isSmooth, beq_iff_eq] at defined
    rw [defined]

theorem DropTrace.smooth (trace : DropTrace b table g dryRun r events)
    (latched : dryRun = false → g.latched = true) (smooth : Smooth read definition events) :
    r = b.foretell definition (.reset table) ∧
      events.flatMap (·.executed) = if dryRun then [] else Entry.statements ⟨table, r⟩ := by
  cases trace with
  | planned => exact ⟨rfl, rfl⟩
  | stopped check | declined check => cases check.smooth (latched rfl) smooth
  | dropped check run =>
    obtain ⟨rfl, executed⟩ := run.smooth (Smooth.append_iff.mp smooth).2
    refine ⟨rfl, ?_⟩
    rw [List.flatMap_append, check.executed_eq, executed]
    rfl

theorem RebuildTrace.smooth (run : RebuildTrace b table reasons steps g r events)
    (latched : g.latched = true) (smooth : Smooth read definition events) :
    r = .ok (b.foretellPlan definition table (.rebuild reasons steps)) := by
  cases run with
  | stopped check | declined check => cases check.smooth latched smooth
  | undefined _ prepared => cases prepared.smooth (Smooth.append_iff.mp smooth).2
  | failed =>
    have failed := (Smooth.append_iff.mp (Smooth.append_iff.mp smooth).2).2
    exact absurd List.mem_cons_self failed.not_failed
  | rebuilt _ prepared =>
    have worked := (Smooth.append_iff.mp smooth).2
    cases prepared.smooth (Smooth.append_iff.mp worked).1
    rfl

theorem ReconcileTrace.smooth (trace : ReconcileTrace b t live g dryRun r events)
    (latched : dryRun = false → g.latched = true) (smooth : Smooth read definition events) :
    r = b.foretell definition (.reconcile t live) ∧
      events.flatMap (·.executed) = if dryRun then [] else Entry.statements ⟨t.name, r⟩ := by
  cases trace with
  | unplanned plan =>
    exact ⟨by rw [Backend.foretell, plan]; rfl, by cases dryRun <;> rfl⟩
  | created plan run =>
    obtain ⟨rfl, executed⟩ := run.smooth smooth
    exact ⟨by rw [Backend.foretell, plan]; rfl, executed⟩
  | unchanged plan =>
    exact ⟨by rw [Backend.foretell, plan]; rfl, by cases dryRun <;> rfl⟩
  | @altered operations _ _ _ plan some run =>
    obtain ⟨rfl, executed⟩ := run.smooth smooth
    refine ⟨?_, executed⟩
    rw [Backend.foretell, plan]
    cases operations with
    | nil => exact absurd rfl some
    | cons => rfl
  | planned plan prepared =>
    obtain rfl := prepared.smooth smooth
    exact ⟨by rw [Backend.foretell, plan]; rfl, prepared.executed_eq⟩
  | rebuilt plan run =>
    have made := run.smooth (latched rfl) smooth
    exact ⟨by rw [Backend.foretell, plan, made]; rfl, run.executed_eq⟩

theorem StepTrace.smooth (trace : StepTrace b dryRun task g r events)
    (latched : dryRun = false → g.latched = true) (smooth : Smooth read definition events) :
    r = b.foretell definition task ∧
      events.flatMap (·.executed) = if dryRun then [] else Entry.statements ⟨task.table, r⟩ := by
  cases task with
  | reset => exact DropTrace.smooth trace latched smooth
  | reconcile => exact ReconcileTrace.smooth trace latched smooth

/-- Which tables are reset, and what is left of them, follows from what the steps come to. -/
theorem Resetting.unique {first second : List (Step σ)} {comes : Task → Except Error Outcome}
    (one : Resetting live tables first left) (other : Resetting live tables second left')
    (reached : left = .ok kept) (reached' : left' = .ok kept')
    (each : ∀ step ∈ first, step.result = comes step.task)
    (each' : ∀ step ∈ second, step.result = comes step.task) :
    first.map (·.task) = second.map (·.task) ∧ kept = kept' := by
  induction one generalizing second with
  | done =>
    cases other
    cases reached
    cases reached'
    exact ⟨rfl, rfl⟩
  | absent missing _ ih =>
    cases other with
    | absent _ other => exact ih other reached each each'
    | next found | lost found =>
      rw [missing] at found
      cases found
  | @next _ _ _ _ _ _ step found task _ ih =>
    cases other with
    | absent missing =>
      rw [missing] at found
      cases found
    | @next _ _ _ _ _ _ step' _ task' other =>
      -- the same comes of both steps, so both drop the table or neither does
      have same : step.result = step'.result := by
        rw [each _ List.mem_cons_self, each' _ List.mem_cons_self, task, task']
      rw [Step.drops, ← same, ← Step.drops] at other
      obtain ⟨tasks, left⟩ := ih other reached (fun later member => each later (.tail _ member))
        fun later member => each' later (.tail _ member)
      exact ⟨by rw [List.map_cons, List.map_cons, task, task', tasks], left⟩
    | lost => cases reached'
  | lost => cases reached

theorem entries_of_tasks {steps : List (Step σ)} {comes : Task → Except Error Outcome}
    (each : ∀ step ∈ steps, step.result = comes step.task) :
    steps.map (·.entry) = (steps.map (·.task)).map fun task => ⟨task.table, comes task⟩ := by
  rw [List.map_map]
  exact List.map_congr_left fun step member => by rw [Step.entry, each step member]; rfl

/-- A run with which nothing goes wrong comes to its end, and every step as foretold. -/
theorem Backend.reconcile_smooth (latched : options.dryRun = false → s.gate.latched = true)
    (smooth : Smooth live definition ((b.reconcile model options).events s)) :
    ∃ report start resets rest, ((b.reconcile model options).from s).1 = .ok report ∧
      Finished b model options live start resets rest report
        ((b.reconcile model options).from s).2 ∧
      (∀ step ∈ resets ++ rest, step.result = b.foretell definition step.task) ∧
      ((b.reconcile model options).events s).flatMap (·.executed) =
        if options.dryRun then [] else report.statements := by
  obtain ⟨read, start, resets, rest, report, called, ended, finished, events⟩ :=
    reconcile_unfailing fun _ _ => smooth.not_failed
  rw [events] at smooth
  have same : read = live := by simpa [Event.isSmooth] using smooth _ List.mem_cons_self
  subst same
  have each (step : Step σ) (member : step ∈ resets ++ rest) := by
    have own : Smooth read definition step.events := fun event among =>
      smooth event (List.mem_cons_of_mem _ (List.mem_flatMap.mpr ⟨step, member, among⟩))
    exact (finished.performed.traced member).smooth
      (fun real => finished.performed.latched (call_gate called ▸ latched real) member) own
  refine ⟨report, start, resets, rest, ended, finished,
    fun step member => (each step member).1, ?_⟩
  have executed := List.flatMap_congr fun step member => (each step member).2
  rw [events, List.flatMap_cons, List.flatMap_assoc, executed, Report.statements_eq,
    finished.recorded.entries_eq rfl, List.flatMap_map]
  cases options.dryRun with
  | true => simp [Event.executed]
  | false => rfl

/-- As long as nothing goes wrong, a run with a latched gate gives the entries that a dry run gives,
and executes the statements that the dry run reports, in their order. -/
theorem dry_run_foretells (b : Backend σ) (model : Schema.Model) (forceReset : Bool)
    (dry real : Session σ) (latched : real.gate.latched = true)
    (smoothDry : Smooth live definition ((b.reconcile model ⟨forceReset, true⟩).events dry))
    (smoothReal : Smooth live definition ((b.reconcile model ⟨forceReset, false⟩).events real)) :
    ∃ foretold report,
      ((b.reconcile model ⟨forceReset, true⟩).from dry).1 = .ok foretold ∧
      ((b.reconcile model ⟨forceReset, false⟩).from real).1 = .ok report ∧
      report.entries = foretold.entries ∧
      ((b.reconcile model ⟨forceReset, false⟩).events real).flatMap (·.executed) =
        foretold.statements := by
  obtain ⟨foretold, _, resets, rest, reported, finished, each, _⟩ :=
    b.reconcile_smooth (by rintro ⟨⟩) smoothDry
  obtain ⟨report, _, resets', rest', reported', finished', each', executed⟩ :=
    b.reconcile_smooth (fun _ => latched) smoothReal
  have entries : report.entries = foretold.entries := by
    obtain ⟨left, resetting, tasks⟩ := finished.tasks
    obtain ⟨left', resetting', tasks'⟩ := finished'.tasks
    obtain ⟨resetTasks, rfl⟩ := resetting.unique resetting' rfl rfl
      (fun step member => each step (List.mem_append_left _ member))
      fun step member => each' step (List.mem_append_left _ member)
    have same : (resets' ++ rest').map (·.task) = (resets ++ rest).map (·.task) := by
      rw [List.map_append, List.map_append, resetTasks, tasks, tasks']
    rw [finished.recorded.entries_eq rfl, finished'.recorded.entries_eq rfl, entries_of_tasks each,
      entries_of_tasks each', same]
  refine ⟨foretold, report, reported, reported', entries, ?_⟩
  rw [executed, Report.statements_eq, Report.statements_eq, entries]
  rfl

end

/-- A table that gets a key, and a new table. -/
private def mended : Schema.Model where
  tables := [
    { name := "T", fields := [{ name := "id", type := "Int" }], idFields := ["id"] },
    { name := "U", fields := [{ name := "id", type := "Int" }] }]

private def mendable : Live.Table where
  name := "T"
  columns := [{ name := "id", type := "INTEGER" }]

private def mendableStart : Session Rehearsal.Stage where
  state.script.tables := [mendable]
  gate := .preAuthorized

private def mendedRun (dryRun : Bool) : Run Rehearsal.Stage Report :=
  (Rehearsal.backend .sqlite).reconcile mended ⟨false, dryRun⟩

/-- The text that the rehearsal gives for any table. -/
private def rehearsed (table target : String) : String := "PREVIOUS " ++ table ++ " AS " ++ target

/-- The one table is rebuilt and the other created, as foretold. -/
theorem mended_dry_run_foretells :
    mendableStart.gate.latched = true ∧
      Smooth ⟨[mendable]⟩ rehearsed ((mendedRun true).events mendableStart) ∧
      Smooth ⟨[mendable]⟩ rehearsed ((mendedRun false).events mendableStart) ∧
      ((mendedRun false).from mendableStart).1.toOption.map
        (fun report => report.outcomes.map (·.2.label)) = some ["rebuilt", "created"] ∧
      ∃ foretold report,
        ((mendedRun true).from mendableStart).1 = .ok foretold ∧
        ((mendedRun false).from mendableStart).1 = .ok report ∧
        report.entries = foretold.entries ∧
        ((mendedRun false).events mendableStart).flatMap (·.executed) = foretold.statements := by
  have dry : Smooth ⟨[mendable]⟩ rehearsed ((mendedRun true).events mendableStart) := by
    decide +kernel
  have real : Smooth ⟨[mendable]⟩ rehearsed ((mendedRun false).events mendableStart) := by
    decide +kernel
  exact ⟨rfl, dry, real, by decide +kernel, dry_run_foretells _ _ _ _ _ rfl dry real⟩

end Conform
