import Conform.Proofs.Live.Schema
import Conform.Proofs.Plan.Cases
import Conform.Proofs.Run.Step
import Conform.Proofs.Schema.Order
import Conform.Dialect.Sqlite
import Conform.Rehearsal.Backend
import Mathlib.Data.List.Nodup

/-! A run accounts for every table. Only a lost connection ends it, with the error of the call that
lost it and with no call after that one; all other failures are entries of the report. -/
namespace Conform

/-- The event is a call that loses the connection. -/
def Event.isLoss : Event → Bool
  | called _ (.error e) => e.endsRun
  | called _ (.ok _) | ruled _ _ => false

/-- The error that work ended with, if it did. -/
def failureOf : Except Error α → Option Error
  | .ok _ => none
  | .error e => some e

@[simp] theorem failureOf_map (r : Except Error α) (f : α → β) :
    failureOf (r.map f) = failureOf r := by
  cases r <;> rfl

theorem failureOf_eq_some_iff {r : Except Error α} : failureOf r = some e ↔ r = .error e := by
  cases r <;> simp [failureOf]

/-- Work ends at the first call that loses the connection, and with its error. -/
inductive EndsAtLoss : Option Error → List Event → Prop where
  | kept {fate : Option Error} (goes : ∀ e, fate = some e → e.endsRun = false)
      (quiet : ∀ event ∈ events, event.isLoss = false) : EndsAtLoss fate events
  | lost (quiet : ∀ event ∈ before, event.isLoss = false) (ends : e.endsRun = true) :
      EndsAtLoss (some e) (before ++ [.called c (.error e)])

namespace EndsAtLoss

variable {before after events : List Event}

theorem done (quiet : ∀ event ∈ events, event.isLoss = false) : EndsAtLoss none events :=
  .kept (by rintro _ ⟨⟩) quiet

theorem failed : EndsAtLoss (some e) [.called c (.error e)] := by
  cases ends : e.endsRun with
  | true =>
    have first : EndsAtLoss (some e) ([] ++ [.called c (.error e)]) := .lost (by simp) ends
    exact first
  | false =>
    refine .kept (by rintro _ ⟨⟩; exact ends) fun event member => ?_
    rw [List.mem_singleton.mp member]
    exact ends

theorem quiet (ended : EndsAtLoss fate events)
    (goes : ∀ e, fate = some e → e.endsRun = false) :
    ∀ event ∈ events, event.isLoss = false := by
  cases ended with
  | kept _ quiet => exact quiet
  | lost _ ends =>
    rw [goes _ rfl] at ends
    cases ends

/-- Work goes on after work that lost nothing. -/
theorem append (first : ∀ event ∈ before, event.isLoss = false)
    (second : EndsAtLoss fate after) : EndsAtLoss fate (before ++ after) := by
  have both {later : List Event} (quiet : ∀ event ∈ later, event.isLoss = false) :
      ∀ event ∈ before ++ later, event.isLoss = false := by
    intro event member
    rcases List.mem_append.mp member with member | member
    · exact first event member
    · exact quiet event member
  cases second with
  | kept goes quiet => exact .kept goes (both quiet)
  | lost quiet ends =>
    rw [← List.append_assoc]
    exact .lost (both quiet) ends

/-- A call that loses the connection is the last one. -/
theorem of_cut (ended : EndsAtLoss fate (before ++ .called c (.error e) :: after))
    (ends : e.endsRun = true) : after = [] ∧ fate = some e := by
  generalize same : before ++ .called c (.error e) :: after = events at ended
  cases ended with
  | kept _ quiet =>
    have lossless := quiet (.called c (.error e)) (by simp [← same])
    simp [Event.isLoss, ends] at lossless
  | @lost first _ _ quiet _ =>
    have absent : Event.called c (.error e) ∉ first := by
      intro member
      have lossless := quiet _ member
      simp [Event.isLoss, ends] at lossless
    obtain ⟨rest, _, last⟩ := cut_after same.symm absent
    cases rest with
    | nil =>
      obtain ⟨⟨⟩, rfl⟩ := List.cons.inj last
      exact ⟨rfl, rfl⟩
    | cons _ rest => simp at last

theorem exists_call (ended : EndsAtLoss (some e) events) (ends : e.endsRun = true) :
    ∃ c, .called c (.error e) ∈ events := by
  cases ended with
  | kept goes => rw [goes e rfl] at ends; cases ends
  | lost => exact ⟨_, List.mem_append_right _ List.mem_cons_self⟩

theorem followed (first : EndsAtLoss none before) (second : EndsAtLoss fate after) :
    EndsAtLoss fate (before ++ after) :=
  second.append (first.quiet (by rintro _ ⟨⟩))

end EndsAtLoss

section
variable {σ : Type} {b : Backend σ}

theorem Executed.endsAtLoss (run : Executed b statements r events) :
    EndsAtLoss (failureOf r) events := by
  induction run with
  | done => exact .done (by simp)
  | failed => exact .failed
  | @next _ _ _ statement _ ih =>
    have passed : ∀ event ∈ [Event.called (.execute statement) (.ok ())], event.isLoss = false := by
      simp [Event.isLoss]
    exact .append passed ih

theorem Applied.endsAtLoss (run : Applied b statements dryRun r events) :
    EndsAtLoss (failureOf r) events := by
  cases run with
  | planned => exact .done (by simp)
  | executed run => simpa using run.endsAtLoss

theorem Checked.endsAtLoss (check : Checked b g table peril r events) :
    EndsAtLoss (failureOf r) events := by
  cases check with
  | uncounted => exact .failed
  | tooLarge => exact .kept (by rintro _ ⟨⟩; rfl) (by simp [Event.isLoss])
  | authorized | allowed | declined => exact .done (by simp [Event.isLoss])

theorem Prepared.endsAtLoss (prepared : Prepared b table steps r events) :
    EndsAtLoss (failureOf r) events := by
  cases prepared with
  | undefined => exact .failed
  | defined => exact .done (by simp [Event.isLoss])

theorem DropTrace.endsAtLoss (trace : DropTrace b table g dryRun r events) :
    EndsAtLoss (failureOf r) events := by
  cases trace with
  | planned => exact .done (by simp)
  | stopped check | declined check => exact check.endsAtLoss
  | dropped check run => simpa using check.endsAtLoss.followed run.endsAtLoss

theorem RebuildTrace.endsAtLoss (run : RebuildTrace b table reasons steps g r events) :
    EndsAtLoss (failureOf r) events := by
  cases run with
  | stopped check | declined check => exact check.endsAtLoss
  | undefined check prepared => exact check.endsAtLoss.followed prepared.endsAtLoss
  | failed check prepared => exact check.endsAtLoss.followed (prepared.endsAtLoss.followed .failed)
  | rebuilt check prepared =>
    exact check.endsAtLoss.followed (prepared.endsAtLoss.followed (.done (by simp [Event.isLoss])))

theorem ReconcileTrace.endsAtLoss (trace : ReconcileTrace b t live g dryRun r events) :
    EndsAtLoss (failureOf r) events := by
  cases trace with
  | unplanned plan => exact .kept (by rintro _ ⟨⟩; exact Dialect.plan_goes plan) (by simp)
  | created _ run | altered _ _ run => simpa using run.endsAtLoss
  | unchanged => exact .done (by simp)
  | planned _ prepared => simpa using prepared.endsAtLoss
  | rebuilt _ run => exact run.endsAtLoss

theorem StepTrace.endsAtLoss (trace : StepTrace b dryRun task g r events) :
    EndsAtLoss (failureOf r) events := by
  cases task with
  | reset => exact DropTrace.endsAtLoss trace
  | reconcile => exact ReconcileTrace.endsAtLoss trace

/-- Steps end a run as their calls do. -/
theorem Recorded.endsAtLoss {steps : List (Step σ)} (recorded : Recorded steps r)
    (each : ∀ step ∈ steps, EndsAtLoss (failureOf step.result) step.events) :
    EndsAtLoss (failureOf r) (steps.flatMap (·.events)) := by
  induction recorded with
  | done => exact .done (by simp)
  | @next _ _ step goes _ ih =>
    have rest := ih fun step member => each step (List.mem_cons_of_mem _ member)
    have quiet := (each step List.mem_cons_self).quiet fun e failed =>
      goes e (failureOf_eq_some_iff.mp failed)
    simpa using rest.append quiet
  | @lost step _ failed ends =>
    have ended := each step List.mem_cons_self
    rw [failed] at ended
    simpa [failureOf] using ended

/-- Only an error that ends the run keeps steps from being recorded. -/
theorem Recorded.ends {steps : List (Step σ)} (recorded : Recorded steps r)
    (failed : r = .error e) : e.endsRun = true := by
  induction recorded with
  | done => cases failed
  | @next _ outcome _ _ _ ih =>
    cases outcome with
    | error => exact ih failed
    | ok => cases failed
  | lost _ ends =>
    cases failed
    exact ends

namespace Resetting

variable {live kept : Live.Schema} {steps : List (Step σ)}

/-- What is left after the resets is what was not dropped. -/
theorem find?_left (resetting : Resetting live tables steps left) (reached : left = .ok kept)
    (name : String) : kept.find? name =
      if steps.any (fun step => step.task.table == name && step.drops) then none
      else live.find? name := by
  induction resetting with
  | done =>
    cases reached
    rfl
  | absent _ _ ih => exact ih reached
  | @next _ _ _ _ live t step _ task _ ih =>
    rw [ih reached, List.any_cons, task]
    cases step.drops with
    | false => simp
    | true =>
      rw [if_pos rfl, Live.Schema.find?_erase]
      by_cases same : name = t.name
      · simp [same, Task.table]
      · simp [same, Ne.symm same, Task.table]
  | lost => cases reached

/-- Of tables with distinct names each is reset that was there in the beginning. -/
theorem tasks_eq (resetting : Resetting live tables steps left) (reached : left = .ok kept)
    (distinct : (tables.map (·.name)).Nodup) : steps.map (·.task) =
      (tables.filter fun t => (live.find? t.name).isSome).map fun t => .reset t.name := by
  induction resetting with
  | done => rfl
  | absent missing _ ih =>
    rw [List.filter_cons_of_neg (by simp [missing])]
    exact ih reached (List.nodup_cons.mp distinct).2
  | @next _ rest _ _ live t step found task _ ih =>
    obtain ⟨unlike, distinct⟩ := List.nodup_cons.mp distinct
    -- the drop of one table takes away no other
    have kept : rest.filter (fun other => ((if step.drops then live.erase t.name
        else live).find? other.name).isSome) =
        rest.filter fun other => (live.find? other.name).isSome := by
      refine List.filter_congr fun other member => ?_
      have differs : other.name ≠ t.name := by
        intro same
        exact unlike (List.mem_map.mpr ⟨other, member, same⟩)
      cases step.drops with
      | false => rfl
      | true => simp [Live.Schema.find?_erase, differs]
    rw [List.filter_cons_of_pos (by simp [found]), List.map_cons, List.map_cons, task,
      ih reached distinct, kept]
  | lost => cases reached

end Resetting

namespace Course

variable {model : Schema.Model} {options : Options} {resets rest : List (Step σ)}

/-- The calls of a run end it as they end a step. -/
theorem endsAtLoss (course : Course b model options s resets rest r s') :
    EndsAtLoss (failureOf r) ((resets ++ rest).flatMap (·.events)) := by
  have ended := course.recorded.endsAtLoss fun step member =>
    (course.performed.traced member).endsAtLoss
  simpa using ended

theorem ends (course : Course b model options s resets rest (.error e) s') :
    e.endsRun = true :=
  course.recorded.ends rfl

/-- Only a call that loses the connection ends the run. -/
theorem exists_loss (course : Course b model options s resets rest (.error e) s') :
    ∃ c, .called c (.error e) ∈ (resets ++ rest).flatMap (·.events) :=
  course.endsAtLoss.exists_call course.ends

/-- A call that loses the connection is the last one of the run, and the run ends with its error. -/
theorem of_loss (course : Course b model options s resets rest r s') (ends : e.endsRun = true)
    (cut : (resets ++ rest).flatMap (·.events) = before ++ .called c (.error e) :: after) :
    after = [] ∧ r = .error e := by
  have ended := course.endsAtLoss
  rw [cut] at ended
  obtain ⟨nothing, failed⟩ := ended.of_cut ends
  exact ⟨nothing, failureOf_eq_some_iff.mp failed⟩

end Course

/-- A run in which no call fails comes to its end. -/
theorem Backend.reconcile_unfailing
    (unfailing : ∀ c e, Event.called c (.error e) ∉ (b.reconcile model options).events s) :
    ∃ live start resets rest report, (b.call .existingSchema).from s = (.ok live, start) ∧
      ((b.reconcile model options).from s).1 = .ok report ∧
      Finished b model options live start resets rest report
        ((b.reconcile model options).from s).2 ∧
      (b.reconcile model options).events s =
        .called .existingSchema (.ok live) :: (resets ++ rest).flatMap (·.events) := by
  rcases called : (b.call .existingSchema).from s with ⟨e | live, start⟩
  · have events : (b.reconcile model options).events s = [.called .existingSchema (.error e)] :=
      Run.events_eq (by rw [reconcile_unread called]; exact call_trace called)
    exact absurd List.mem_cons_self (events ▸ unfailing _ e)
  · obtain ⟨resets, rest, course, finished⟩ := reconcile_steps model options called
    have events : (b.reconcile model options).events s =
        .called .existingSchema (.ok live) :: (resets ++ rest).flatMap (·.events) :=
      Run.events_eq (course.performed.trace_after called)
    cases ended : ((b.reconcile model options).from s).1 with
    | error e =>
      -- the run would have ended with the answer to one of its calls
      rw [ended] at course
      obtain ⟨c, member⟩ := course.exists_loss
      exact absurd (List.mem_cons_of_mem _ member) (events ▸ unfailing c e)
    | ok report =>
      exact ⟨live, start, resets, rest, report, rfl, rfl, finished report ended, events⟩

/-- A report with the steps that it accounts for. -/
structure Accounts (b : Backend σ) (model : Schema.Model) (options : Options) (live : Live.Schema)
    (s : Session σ) (resets rest : List (Step σ)) (report : Report) (s' : Session σ) : Prop where
  performed : Performed b options.dryRun s (resets ++ rest) s'
  /-- Every step has its entry. -/
  entries : report.entries = (resets ++ rest).map (·.entry)
  /-- A forced reset has one entry for each declared table that is there, from the last one on. Then
  there is one for each declared table. -/
  tables : report.entries.map (·.table) =
    (if options.forceReset then
      (model.ordered.reverse.filter fun t => (live.find? t.name).isSome).map (·.name) else []) ++
    model.ordered.map (·.name)
  declared : model.ordered.Perm model.tables
  /-- A table is reconciled as absent when it was not there or was dropped. -/
  known : ∃ known : Schema.Table → Option Live.Table,
    rest.map (·.task) = model.ordered.map (fun t => .reconcile t (known t)) ∧
    ∀ t, (known t = none ↔ live.find? t.name = none ∨
        ∃ statements, ⟨t.name, .ok (.dropped statements)⟩ ∈ resets.map (·.entry)) ∧
      (known t = none ∨ known t = live.find? t.name)

/-- The step that drops a table is recorded with the statements that dropped it. -/
theorem Step.drops_iff (step : Step σ) :
    step.drops = true ↔ ∃ statements, step.result = .ok (.dropped statements) := by
  unfold Step.drops
  cases step.result with
  | error => simp [Except.toOption]
  | ok outcome => cases outcome <;> simp [Except.toOption, Outcome.isDropped]

theorem any_drops_iff {steps : List (Step σ)} :
    steps.any (fun step => step.task.table == name && step.drops) = true ↔
      ∃ statements, ⟨name, .ok (.dropped statements)⟩ ∈ steps.map (·.entry) := by
  simp only [List.any_eq_true, Bool.and_eq_true, beq_iff_eq, Step.drops_iff, List.mem_map,
    Step.entry, Entry.mk.injEq]
  constructor
  · rintro ⟨step, member, named, statements, dropped⟩
    exact ⟨statements, step, member, named, dropped⟩
  · rintro ⟨statements, step, member, named, dropped⟩
    exact ⟨step, member, named, statements, dropped⟩

theorem Finished.accounts (finished : Finished b model options live s resets rest report s')
    (distinct : (model.tables.map (·.name)).Nodup) :
    Accounts b model options live s resets rest report s' := by
  obtain ⟨left, resetting, tasks⟩ := finished.tasks
  have entries := finished.recorded.entries_eq rfl
  have reversed : ((if options.forceReset then model.ordered.reverse else []).map
      (·.name)).Nodup := by
    cases options.forceReset with
    | false => exact List.nodup_nil
    | true =>
      rw [if_pos rfl, List.map_reverse]
      exact List.nodup_reverse.mpr ((model.ordered_perm.map _).nodup_iff.mpr distinct)
  have resetTasks := resetting.tasks_eq rfl reversed
  refine ⟨finished.performed, entries, ?_, model.ordered_perm, fun t => left.find? t.name,
    tasks, fun t => ?_⟩
  · have resetTables := congrArg (List.map Task.table) resetTasks
    have restTables := congrArg (List.map Task.table) tasks
    simp only [List.map_map, Function.comp_def, Task.table_reset, Task.table_reconcile]
      at resetTables restTables
    rw [entries, List.map_map, List.map_append]
    simp only [Function.comp_def, Step.entry, resetTables, restTables]
    cases options.forceReset <;> rfl
  · dsimp only
    rw [resetting.find?_left rfl, ← any_drops_iff]
    cases resets.any fun step => step.task.table == t.name && step.drops <;> simp

/-- How a run ends that read the catalog as `read` and left the events `later` after that. -/
structure RunAccount (b : Backend σ) (model : Schema.Model) (options : Options) (s : Session σ)
    (read : Except Error Live.Schema) (later : List Event) : Prop where
  trace : ((b.reconcile model options).from s).2.trace =
    s.trace ++ .called .existingSchema read :: later
  /-- The run fails if the catalog cannot be read or a later call loses the connection. -/
  fails_iff : (∃ e, ((b.reconcile model options).from s).1 = .error e) ↔
    (∃ e, read = .error e) ∨ ∃ c e, .called c (.error e) ∈ later ∧ e.endsRun = true
  /-- No call follows when the catalog cannot be read. -/
  unread : ∀ e, read = .error e →
    later = [] ∧ ((b.reconcile model options).from s).1 = .error e
  /-- No call follows when the connection is lost. -/
  last : ∀ before c e after, later = before ++ .called c (.error e) :: after →
    e.endsRun = true → after = [] ∧ ((b.reconcile model options).from s).1 = .error e
  /-- Otherwise the report accounts for every table. -/
  reported : ∀ report, ((b.reconcile model options).from s).1 = .ok report →
    ∃ live start resets rest, (b.call .existingSchema).from s = (.ok live, start) ∧
      read = .ok live ∧ Accounts b model options live start resets rest report
        ((b.reconcile model options).from s).2

/-- Whatever fails, a run ends in order: only a lost connection stops it after the catalog is read,
and otherwise every table has its entry. -/
theorem runs_account (b : Backend σ) (options : Options) (s : Session σ)
    (distinct : (model.tables.map (·.name)).Nodup) :
    ∃ read later, RunAccount b model options s read later := by
  rcases called : (b.call .existingSchema).from s with ⟨e | live, start⟩
  · have unread : (b.reconcile model options).from s = (.error e, start) :=
      Backend.reconcile_unread called
    refine ⟨.error e, [], ⟨?_, ?_, ?_, by simp, ?_⟩⟩ <;> rw [unread]
    · exact Backend.call_trace called
    · simp
    · rintro _ ⟨⟩
      exact ⟨rfl, rfl⟩
    · rintro _ ⟨⟩
  · obtain ⟨resets, rest, course, finished⟩ := Backend.reconcile_steps model options called
    refine ⟨.ok live, (resets ++ rest).flatMap (·.events), ⟨course.performed.trace_after called,
      ?fails, by rintro _ ⟨⟩, fun _ _ _ _ cut ends => course.of_loss ends cut, ?reported⟩⟩
    case fails =>
      constructor
      · rintro ⟨e, failed⟩
        rw [failed] at course
        obtain ⟨c, member⟩ := course.exists_loss
        exact .inr ⟨c, e, member, course.ends⟩
      · rintro (⟨_, ⟨⟩⟩ | ⟨c, e, member, ends⟩)
        obtain ⟨before, after, cut⟩ := List.append_of_mem member
        exact ⟨e, (course.of_loss ends cut).2⟩
    case reported =>
      intro report reported
      exact ⟨live, start, resets, rest, called, rfl, (finished report reported).accounts distinct⟩

end

private def owner : Schema.Relation :=
  { field := "a", referencedTable := "A", fields := ["owner"], references := ["id"] }

/-- Two tables of which the second references the first. -/
private def related : Schema.Model where
  tables := [
    { name := "A", fields := [{ name := "id", type := "Int", isId := true }] },
    { name := "B", fields := [
        { name := "owner", type := "Int" },
        { name := "a", type := "A", isRelation := true, relation := some owner }] }]

/-- Both tables are there, the gate is latched, and the rows of the second cannot be counted. -/
private def relatedStart : Session Rehearsal.Stage where
  state.script.tables := [{ name := "B" }, { name := "A" }]
  state.script.mishaps := [⟨"row_count", "B", .reported "refused"⟩]
  gate := .preAuthorized

/-- The first table is dropped and created, and both steps of the second fail. -/
theorem related_run_accounts :
    (related.tables.map (·.name)).Nodup ∧
      (((Rehearsal.backend .sqlite).reconcile related ⟨true, false⟩).from
        relatedStart).1.toOption.map
          (fun report => (report.entries.map (·.table), report.failures.map (·.1))) =
        some (["B", "A", "A", "B"], ["B", "B"]) ∧
      ∃ read later, RunAccount (Rehearsal.backend .sqlite) related ⟨true, false⟩ relatedStart
        read later := by
  have distinct : (related.tables.map (·.name)).Nodup := by decide
  exact ⟨distinct, by decide +kernel, runs_account _ _ _ distinct⟩

end Conform
