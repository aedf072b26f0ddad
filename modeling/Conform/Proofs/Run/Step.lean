import Conform.Proofs.Run.Trace

/-! A run is one reading of the catalog and then a sequence of steps, each of which works on one
table. What is known of the trace of a step is thereby known of the trace of a whole run. -/
namespace Conform

/-- What a step does to its table. -/
inductive Task where
  | reset (table : String)
  | reconcile (table : Schema.Table) (live : Option Live.Table)

namespace Task

def table : Task → String
  | reset table => table
  | reconcile table _ => table.name

/-- What may happen to the rows of the table. -/
def peril : Task → Peril
  | reset _ => .drop
  | reconcile _ _ => .rebuild

def isReset : Task → Bool
  | reset _ => true
  | reconcile _ _ => false

@[simp] theorem table_reset (table : String) : (reset table).table = table := rfl

@[simp] theorem table_reconcile (t : Schema.Table) (live : Option Live.Table) :
    (reconcile t live).table = t.name := rfl

end Task

/-- A step with the session that it began in, its outcome and the events that it added. -/
structure Step (σ : Type) where
  task : Task
  start : Session σ
  result : Except Error Outcome
  events : List Event

def Step.entry (step : Step σ) : Entry := ⟨step.task.table, step.result⟩

section
variable {σ : Type} (b : Backend σ) (dryRun : Bool)

def Backend.perform : Task → Run σ Outcome
  | .reset table => b.dropTable table dryRun
  | .reconcile t live => b.reconcileTable t live dryRun

/-- The trace that a step may leave. -/
def StepTrace : Task → Gate → Except Error Outcome → List Event → Prop
  | .reset table, g => DropTrace b table g dryRun
  | .reconcile t live, g => ReconcileTrace b t live g dryRun

/-- The steps were performed one after another between two sessions. -/
inductive Performed : Session σ → List (Step σ) → Session σ → Prop where
  | done : Performed s [] s
  | next (ran : (b.perform dryRun step.task).from step.start = (step.result, s))
      (added : s.trace = step.start.trace ++ step.events) (later : Performed s steps s') :
      Performed step.start (step :: steps) s'

variable {b dryRun}

theorem Backend.perform_does (task : Task) (g : Gate) :
    (b.perform dryRun task).Does g (StepTrace b dryRun task g) := by
  cases task with
  | reset table => exact b.dropTable_does table dryRun g
  | reconcile t live => exact b.reconcileTable_does t live dryRun g

theorem Performed.append (first : Performed b dryRun s before s')
    (second : Performed b dryRun s' after s'') : Performed b dryRun s (before ++ after) s'' := by
  induction first with
  | done => exact second
  | next ran added _ ih => exact .next ran added (ih second)

/-- Steps only add their own events. -/
theorem Performed.trace (performed : Performed b dryRun s steps s') :
    s'.trace = s.trace ++ steps.flatMap (·.events) := by
  induction performed with
  | done => simp
  | next ran added later ih => rw [ih, added, List.flatMap_cons, List.append_assoc]

/-- Steps after a call add their events to that of the call. -/
theorem Performed.trace_after (called : (b.call c).from s = (r, later))
    (performed : Performed b dryRun later steps s') :
    s'.trace = s.trace ++ .called c r :: steps.flatMap (·.events) := by
  rw [performed.trace, Backend.call_trace called, List.append_assoc]
  rfl

/-- A step leaves one of its traces, and the gate as the rulings in it leave it. -/
private theorem step_does {step : Step σ}
    (ran : (b.perform dryRun step.task).from step.start = (step.result, s))
    (added : s.trace = step.start.trace ++ step.events) :
    s.gate = step.start.gate.after step.events ∧
      StepTrace b dryRun step.task step.start.gate step.result step.events := by
  obtain ⟨events, trace, gate, holds⟩ := Backend.perform_does step.task _ step.start rfl
  rw [ran] at trace gate holds
  have own : step.events = events := List.append_cancel_left (added.symm.trans trace)
  rw [own]
  exact ⟨gate, holds⟩

/-- What a step may do is what it did. -/
theorem Performed.traced (performed : Performed b dryRun s steps s') (member : step ∈ steps) :
    StepTrace b dryRun step.task step.start.gate step.result step.events := by
  induction performed with
  | done => simp at member
  | next ran added _ ih =>
    rcases List.mem_cons.mp member with same | member
    · subst same
      exact (step_does ran added).2
    · exact ih member

/-- Only the rulings of steps change the gate. -/
theorem Performed.gate (performed : Performed b dryRun s steps s') :
    s'.gate = s.gate.after (steps.flatMap (·.events)) := by
  induction performed with
  | done => rfl
  | next ran added _ ih =>
    rw [ih, (step_does ran added).1, List.flatMap_cons, Gate.after_append]

/-- Every step begins with a latched gate if the first one does. -/
theorem Performed.latched (performed : Performed b dryRun s steps s')
    (latched : s.gate.latched = true) (member : step ∈ steps) :
    step.start.gate.latched = true := by
  induction performed with
  | done => simp at member
  | next ran added _ ih =>
    rcases List.mem_cons.mp member with same | member
    · rwa [same]
    · refine ih ?_ member
      rw [(step_does ran added).1]
      exact Gate.after_latched latched _

/-- Every task can be performed, and is then a step. -/
theorem performed_single (b : Backend σ) (dryRun : Bool) (task : Task) (s : Session σ) :
    ∃ step : Step σ, step.task = task ∧ step.result = ((b.perform dryRun task).from s).1 ∧
      Performed b dryRun s [step] ((b.perform dryRun task).from s).2 := by
  obtain ⟨events, trace, _, _⟩ := Backend.perform_does (b := b) task s.gate s rfl
  let step : Step σ := ⟨task, s, ((b.perform dryRun task).from s).1, events⟩
  have alone : Performed b dryRun step.start [step] _ := .next rfl trace .done
  exact ⟨step, rfl, rfl, alone⟩

/-- What is kept of steps: an entry for each, unless one of them ends the run. -/
inductive Recorded : List (Step σ) → Except Error (List Entry) → Prop where
  | done : Recorded [] (.ok [])
  | next {step : Step σ} (goes : ∀ e, step.result = .error e → e.endsRun = false)
      (later : Recorded steps r) : Recorded (step :: steps) (r.map (step.entry :: ·))
  | lost (failed : step.result = .error e) (ends : e.endsRun = true) : Recorded [step] (.error e)

private theorem map_map (r : Except Error α) (f : α → β) (h : β → γ) :
    (r.map f).map h = r.map (h ∘ f) := by
  cases r <;> rfl

theorem ok_of_map {r : Except Error α} {f : α → β} (kept : r.map f = .ok made) :
    ∃ a, r = .ok a ∧ f a = made := by
  cases r with
  | error => cases kept
  | ok a => exact ⟨a, rfl, Except.ok.inj kept⟩

private theorem Recorded.append_kept {before after : List (Step σ)} (first : Recorded before kept)
    (second : Recorded after r) :
    ∀ entries, kept = .ok entries → Recorded (before ++ after) (r.map (entries ++ ·)) := by
  induction first with
  | done =>
    rintro _ ⟨⟩
    cases r <;> exact second
  | @next _ outcome step goes _ ih =>
    intro entries same
    rcases outcome with e | rest
    · cases same
    · cases same
      simpa [map_map, Function.comp_def] using Recorded.next goes (ih rest rfl)
  | lost => rintro _ ⟨⟩

theorem Recorded.append {before after : List (Step σ)} (first : Recorded before (.ok entries))
    (second : Recorded after r) : Recorded (before ++ after) (r.map (entries ++ ·)) :=
  first.append_kept second entries rfl

/-- Where no step ends the run, the entries are those of the steps. -/
theorem Recorded.entries_eq {steps : List (Step σ)} (recorded : Recorded steps r)
    (kept : r = .ok entries) : entries = steps.map (·.entry) := by
  induction recorded generalizing entries with
  | done => cases kept; rfl
  | @next _ outcome step _ _ ih =>
    rcases outcome with e | rest
    · cases kept
    · cases kept
      rw [List.map_cons, ih rfl]
  | lost => cases kept

/-- The step dropped its table. -/
def Step.drops (step : Step σ) : Bool := step.result.toOption.any (·.isDropped)

/-- Tables are reset one after another. Each is reset that is still there, and those that are
dropped are no longer left. -/
inductive Resetting : Live.Schema → List Schema.Table → List (Step σ) →
    Except Error Live.Schema → Prop where
  | done : Resetting live [] [] (.ok live)
  | absent (missing : live.find? t.name = none) (later : Resetting live rest steps left) :
      Resetting live (t :: rest) steps left
  | next (found : live.find? t.name = some table) (task : step.task = .reset t.name)
      (later : Resetting (if step.drops then live.erase t.name else live) rest steps left) :
      Resetting live (t :: rest) (step :: steps) left
  | lost (found : live.find? t.name = some table) (task : step.task = .reset t.name) :
      Resetting live (t :: rest) [step] (.error e)

theorem Resetting.sublist {steps : List (Step σ)} (resetting : Resetting live tables steps left) :
    (steps.map (·.task)).Sublist (tables.map fun t => .reset t.name) := by
  induction resetting with
  | done => exact .slnil
  | absent _ _ ih => exact ih.cons _
  | next _ task _ ih => simpa [task] using ih
  | lost _ task => simp [task]

/-- An attempted task is a step, and the run goes on with its outcome or ends with its error. -/
theorem attempt_step (b : Backend σ) (dryRun : Bool) (task : Task) (s : Session σ) :
    ∃ step later, step.task = task ∧ Performed b dryRun s [step] later ∧
      ((attempt (b.perform dryRun task)).from s = (.ok step.result, later) ∧
          (∀ e, step.result = .error e → e.endsRun = false) ∨
        ∃ e, (attempt (b.perform dryRun task)).from s = (.error e, later) ∧
          step.result = .error e ∧ e.endsRun = true) := by
  obtain ⟨step, same, result, performed⟩ := performed_single b dryRun task s
  refine ⟨step, _, same, performed, ?_⟩
  rw [attempt_from, result]
  rcases (b.perform dryRun task).from s with ⟨e | outcome, later⟩
  · cases ends : e.endsRun with
    | true => exact .inr ⟨e, by simp [ends], rfl, ends⟩
    | false => exact .inl ⟨by simp [ends], by rintro _ ⟨⟩; exact ends⟩
  · exact .inl ⟨rfl, by simp⟩

namespace Backend

/-- A reset of a table that is there is attempted, and then the others are reset. -/
theorem resetAll_attempt (found : live.find? t.name = some table) (s : Session σ) :
    (b.resetAll dryRun live (t :: rest)).from s =
      match (attempt (b.perform dryRun (.reset t.name))).from s with
      | (.error e, later) => (.error e, later)
      | (.ok result, later) =>
        let gone := result.toOption.any (·.isDropped)
        let (r, last) :=
          (b.resetAll dryRun (if gone then live.erase t.name else live) rest).from later
        (r.map fun (left, entries) => (left, ⟨t.name, result⟩ :: entries), last) := by
  simp only [resetAll, found, Run.from_bind, perform]
  rcases (attempt (b.dropTable t.name dryRun)).from s with ⟨e | result, later⟩
  · rfl
  · dsimp only
    rcases (b.resetAll dryRun _ rest).from later with ⟨e | ⟨left, entries⟩, last⟩ <;> rfl

theorem reconcileAll_attempt (live : Live.Schema) (t : Schema.Table) (rest : List Schema.Table)
    (s : Session σ) :
    (b.reconcileAll dryRun live (t :: rest)).from s =
      match (attempt (b.perform dryRun (.reconcile t (live.find? t.name)))).from s with
      | (.error e, later) => (.error e, later)
      | (.ok result, later) =>
        let (r, last) := (b.reconcileAll dryRun live rest).from later
        (r.map (⟨t.name, result⟩ :: ·), last) := by
  simp only [reconcileAll, Run.from_bind, perform]
  rcases (attempt (b.reconcileTable t (live.find? t.name) dryRun)).from s with ⟨e | result, later⟩
  · rfl
  · dsimp only
    rcases (b.reconcileAll dryRun live rest).from later with ⟨e | entries, last⟩ <;> rfl

/-- Resetting performs a reset for each of the tables that is still there, in their order. -/
theorem resetAll_steps (b : Backend σ) (dryRun : Bool) (live : Live.Schema)
    (tables : List Schema.Table) (s : Session σ) :
    ∃ steps, Performed b dryRun s steps ((b.resetAll dryRun live tables).from s).2 ∧
      Resetting live tables steps (((b.resetAll dryRun live tables).from s).1.map (·.1)) ∧
      Recorded steps (((b.resetAll dryRun live tables).from s).1.map (·.2)) := by
  induction tables generalizing live s with
  | nil => exact ⟨[], .done, .done, .done⟩
  | cons t rest ih =>
    cases found : live.find? t.name with
    | none =>
      obtain ⟨steps, performed, resetting, recorded⟩ := ih live s
      rw [resetAll, found]
      exact ⟨steps, performed, .absent found resetting, recorded⟩
    | some _ =>
      rw [resetAll_attempt found]
      obtain ⟨step, later, task, alone, ⟨ran, goes⟩ | ⟨e, ran, failed, ends⟩⟩ :=
        attempt_step b dryRun (.reset t.name) s
      · rw [ran]
        obtain ⟨steps, performed, resetting, recorded⟩ :=
          ih (if step.drops then live.erase t.name else live) later
        have entry : step.entry = ⟨t.name, step.result⟩ := by rw [Step.entry, task]; rfl
        rw [Step.drops] at performed resetting recorded
        refine ⟨step :: steps, alone.append performed, ?_, ?_⟩
        · simpa [map_map, Function.comp_def] using Resetting.next found task resetting
        · simpa [entry, map_map, Function.comp_def] using Recorded.next goes recorded
      · rw [ran]
        exact ⟨[step], alone, .lost found task, .lost failed ends⟩

/-- Reconciling performs the tables from the first on, all of them unless the run ends. -/
theorem reconcileAll_steps (b : Backend σ) (dryRun : Bool) (live : Live.Schema)
    (tables : List Schema.Table) (s : Session σ) :
    ∃ steps, Performed b dryRun s steps ((b.reconcileAll dryRun live tables).from s).2 ∧
      steps.map (·.task) <+: tables.map (fun t => .reconcile t (live.find? t.name)) ∧
      (∀ entries, ((b.reconcileAll dryRun live tables).from s).1 = .ok entries →
        steps.length = tables.length) ∧
      Recorded steps ((b.reconcileAll dryRun live tables).from s).1 := by
  induction tables generalizing s with
  | nil => exact ⟨[], .done, List.prefix_rfl, fun _ _ => rfl, .done⟩
  | cons t rest ih =>
    rw [reconcileAll_attempt]
    obtain ⟨step, later, task, alone, ⟨ran, goes⟩ | ⟨e, ran, failed, ends⟩⟩ :=
      attempt_step b dryRun (.reconcile t (live.find? t.name)) s
    · rw [ran]
      obtain ⟨steps, performed, tasks, all, recorded⟩ := ih later
      have entry : step.entry = ⟨t.name, step.result⟩ := by rw [Step.entry, task]; rfl
      refine ⟨step :: steps, alone.append performed, by simpa [task] using tasks, ?_, ?_⟩
      · intro entries ended
        obtain ⟨others, kept, _⟩ := ok_of_map ended
        rw [List.length_cons, List.length_cons, all others kept]
      · simpa [entry] using Recorded.next goes recorded
    · rw [ran]
      exact ⟨[step], alone, by simp [task], (by rintro _ ⟨⟩), .lost failed ends⟩

end Backend

/-- A whole run after the reading of the catalog: resets of some tables in the reversed order, then
reconciliations with what is left. -/
structure Course (b : Backend σ) (model : Schema.Model) (options : Options) (s : Session σ)
    (resets rest : List (Step σ)) (r : Except Error Report) (s' : Session σ) : Prop where
  performed : Performed b options.dryRun s (resets ++ rest) s'
  resetTasks : (resets.map (·.task)).Sublist
    ((if options.forceReset then model.ordered.reverse else []).map fun t => .reset t.name)
  restTasks : ∃ live : Live.Schema,
    rest.map (·.task) <+: model.ordered.map fun t => .reconcile t (live.find? t.name)
  recorded : Recorded (resets ++ rest) (r.map (·.entries))

namespace Course

variable {model : Schema.Model} {options : Options} {resets rest : List (Step σ)}

theorem entries_eq (course : Course b model options s resets rest (.ok report) s') :
    report.entries = (resets ++ rest).map (·.entry) :=
  course.recorded.entries_eq rfl

theorem reset_of_mem (course : Course b model options s resets rest r s')
    (member : step ∈ resets) : options.forceReset = true ∧ step.task.isReset = true := by
  have listed := course.resetTasks.subset (List.mem_map_of_mem member)
  obtain ⟨t, among, same⟩ := List.mem_map.mp listed
  cases forced : options.forceReset with
  | false => simp [forced] at among
  | true => exact ⟨rfl, by rw [← same]; rfl⟩

/-- The tables that are reset, in their order, are tables of the model. -/
theorem resetTables (course : Course b model options s resets rest r s') :
    (resets.map (·.task.table)).Sublist (model.ordered.reverse.map (·.name)) := by
  have tables := course.resetTasks.map Task.table
  simp only [List.map_map, Function.comp_def, Task.table] at tables
  refine tables.trans (List.Sublist.map _ ?_)
  split
  · exact List.Sublist.refl _
  · exact List.nil_sublist _

/-- The tables that are reconciled are the first of the model, in its order. -/
theorem restTables (course : Course b model options s resets rest r s') :
    rest.map (·.task.table) <+: model.ordered.map (·.name) := by
  obtain ⟨live, tasks⟩ := course.restTasks
  simpa [List.map_map, Function.comp_def, Task.table] using tasks.map Task.table

end Course

/-- A whole run that comes to its end: every table that is there is reset, if that is forced, and
then every table is reconciled with what is left of its live state. -/
structure Finished (b : Backend σ) (model : Schema.Model) (options : Options) (live : Live.Schema)
    (s : Session σ) (resets rest : List (Step σ)) (report : Report) (s' : Session σ) : Prop where
  performed : Performed b options.dryRun s (resets ++ rest) s'
  recorded : Recorded (resets ++ rest) (.ok report.entries)
  tasks : ∃ left,
    Resetting live (if options.forceReset then model.ordered.reverse else []) resets (.ok left) ∧
    rest.map (·.task) = model.ordered.map fun t => .reconcile t (left.find? t.name)

namespace Backend

theorem reconcile_unread (read : (b.call .existingSchema).from s = (.error e, s')) :
    (b.reconcile model options).from s = (.error e, s') :=
  Run.from_bind_of_error read

/-- The run after the reading of the catalog. Without a forced reset no table is reset. -/
private theorem reconcile_read (read : (b.call .existingSchema).from s = (.ok live, s')) :
    (b.reconcile model options).from s =
      match (b.resetAll options.dryRun live
        (if options.forceReset then model.ordered.reverse else [])).from s' with
      | (.error e, later) => (.error e, later)
      | (.ok (left, entries), later) =>
        let (r, last) := (b.reconcileAll options.dryRun left model.ordered).from later
        (r.map fun rest => { entries := entries ++ rest, dryRun := options.dryRun }, last) := by
  have begun : (b.reconcile model options).from s = _ := Run.from_bind_of_ok read
  rw [begun]
  rcases options with ⟨_ | _, dryRun⟩
  · simp only [↓reduceIte, Bool.false_eq_true, resetAll, Run.from_bind, Run.from_pure]
    rcases (b.reconcileAll dryRun live model.ordered).from s' with ⟨e | rest, last⟩ <;> rfl
  · simp only [↓reduceIte, Run.from_bind]
    rcases (b.resetAll dryRun live _).from s' with ⟨e | ⟨left, entries⟩, later⟩
    · rfl
    · dsimp only
      rcases (b.reconcileAll dryRun left model.ordered).from later with ⟨e | rest, last⟩ <;> rfl

/-- The steps of a run, and which they are if the run comes to its end. -/
theorem reconcile_steps (model : Schema.Model) (options : Options)
    (read : (b.call .existingSchema).from s = (.ok live, s')) :
    ∃ resets rest, Course b model options s' resets rest
        ((b.reconcile model options).from s).1 ((b.reconcile model options).from s).2 ∧
      ∀ report, ((b.reconcile model options).from s).1 = .ok report →
        Finished b model options live s' resets rest report
          ((b.reconcile model options).from s).2 := by
  rw [reconcile_read read]
  obtain ⟨resets, performed, resetting, recorded⟩ :=
    resetAll_steps b options.dryRun live
      (if options.forceReset then model.ordered.reverse else []) s'
  rcases ran : (b.resetAll options.dryRun live
    (if options.forceReset then model.ordered.reverse else [])).from s'
    with ⟨e | ⟨left, entries⟩, later⟩
  · rw [ran] at performed recorded
    have whole : Recorded (resets ++ []) (.error e) := by rwa [List.append_nil]
    exact ⟨resets, [], ⟨by simpa using performed, resetting.sublist, ⟨live, by simp⟩, whole⟩,
      by rintro _ ⟨⟩⟩
  · rw [ran] at performed resetting recorded
    obtain ⟨rest, performedRest, restTasks, all, recordedRest⟩ :=
      reconcileAll_steps b options.dryRun left model.ordered later
    have whole := recorded.append recordedRest
    refine ⟨resets, rest, ⟨performed.append performedRest, resetting.sublist, ⟨left, restTasks⟩,
      by simpa [map_map, Function.comp_def] using whole⟩, ?_⟩
    intro report ended
    obtain ⟨others, kept, rfl⟩ := ok_of_map ended
    have same : rest.map (·.task) = model.ordered.map fun t => .reconcile t (left.find? t.name) :=
      restTasks.eq_of_length (by rw [List.length_map, List.length_map, all others kept])
    exact ⟨performed.append performedRest, by rwa [kept] at whole, left, resetting, same⟩

theorem reconcile_course (model : Schema.Model) (options : Options)
    (read : (b.call .existingSchema).from s = (.ok live, s')) :
    ∃ resets rest, Course b model options s' resets rest
      ((b.reconcile model options).from s).1 ((b.reconcile model options).from s).2 := by
  obtain ⟨resets, rest, course, _⟩ := reconcile_steps model options read
  exact ⟨resets, rest, course⟩

/-- A run that gives a report has read the catalog. -/
theorem reconcile_reported (ran : (b.reconcile model options).from s = (.ok report, s')) :
    ∃ live later resets rest, (b.call .existingSchema).from s = (.ok live, later) ∧
      Course b model options later resets rest (.ok report) s' := by
  rcases read : (b.call .existingSchema).from s with ⟨e | live, later⟩
  · rw [reconcile_unread read] at ran
    cases ran
  · obtain ⟨resets, rest, course⟩ := reconcile_course model options read
    rw [ran] at course
    exact ⟨live, later, resets, rest, rfl, course⟩

end Backend

end

end Conform
