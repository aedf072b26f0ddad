import Conform.Dialect.Sqlite
import Conform.Proofs.Plan.Cases
import Conform.Proofs.Schema.Order
import Conform.Proofs.Session
import Conform.Rehearsal.Backend
import Mathlib.Data.List.Nodup

/-! What goes wrong with one table is nothing to the others. If the backend answers a call always in
the same way, a run records of each table what comes of it alone. -/
namespace Conform

/-- A run with a latched gate and a backend that answers each call as `reply` does, whenever it is
made, and never loses the connection. -/
structure SteadyRun (σ : Type) where
  backend : Backend σ
  model : Schema.Model
  start : Session σ
  live : Live.Schema
  reply : (c : Call) → c.Result
  /-- The states in which the backend may be. -/
  states : σ → Prop
  distinct : (model.tables.map (·.name)).Nodup
  latched : start.gate.latched = true
  started : states start.state
  keeps : ∀ c state, states state → states (backend.answer c state).2
  answers : ∀ c state, states state → (backend.answer c state).1 = reply c
  connected : ∀ c e, reply c = .error e → e.endsRun = false
  read : reply .existingSchema = .ok live

/-- The entries of one table. -/
def Report.entriesOf (report : Report) (table : String) : List Entry :=
  report.entries.filter (·.table == table)

/-- Of tables with distinct names one has the name of a table among them. -/
private theorem filter_named {tables : List Schema.Table} (distinct : (tables.map (·.name)).Nodup)
    (member : t ∈ tables) : tables.filter (·.name == t.name) = [t] := by
  induction tables with
  | nil => cases member
  | cons u rest ih =>
    obtain ⟨unlike, distinct⟩ := List.nodup_cons.mp distinct
    rcases List.mem_cons.mp member with rfl | member
    · rw [List.filter_cons_of_pos (by simp), List.filter_eq_nil_iff.mpr]
      intro v among named
      exact unlike (List.mem_map.mpr ⟨v, among, by simpa using named⟩)
    · have differs : u.name ≠ t.name := fun same =>
        unlike (List.mem_map.mpr ⟨t, member, same.symm⟩)
      rw [List.filter_cons_of_neg (by simpa using differs), ih distinct member]

namespace SteadyRun

section
variable {σ τ : Type} (run : SteadyRun σ) (other : SteadyRun τ)

/-- The sessions in which the run may be. -/
structure Ready (s : Session σ) : Prop where
  known : run.states s.state
  latched : s.gate.latched = true

theorem ready_start : run.Ready run.start := ⟨run.started, run.latched⟩

/-- Whenever the work is done the same comes of it, and that does not end the run. -/
structure Settles (work : Run σ α) (r : Except Error α) : Prop where
  goes : ∀ e, r = .error e → e.endsRun = false
  comes : ∀ s, run.Ready s → (work.from s).1 = r
  ready : ∀ s, run.Ready s → run.Ready (work.from s).2

variable {run other}

namespace Settles

theorem ofResult {r : Except Error α} (goes : ∀ e, r = .error e → e.endsRun = false) :
    run.Settles (ExceptT.mk (pure r)) r :=
  ⟨goes, fun _ _ => rfl, fun _ ready => ready⟩

theorem pure (a : α) : run.Settles (pure a) (.ok a) :=
  ofResult (r := .ok a) (by rintro _ ⟨⟩)

theorem bind {work : Run σ α} {next : α → Run σ β} (first : run.Settles work (.ok a))
    (second : run.Settles (next a) r) : run.Settles (work >>= next) r := by
  have begun (s : Session σ) (ready : run.Ready s) :
      Run.from (work >>= next) s = (next a).from (work.from s).2 :=
    Run.from_bind_of_ok (Prod.ext (first.comes s ready) rfl)
  refine ⟨second.goes, fun s ready => ?_, fun s ready => ?_⟩ <;> rw [begun s ready]
  · exact second.comes _ (first.ready s ready)
  · exact second.ready _ (first.ready s ready)

theorem bind_error {work : Run σ α} {next : α → Run σ β} (first : run.Settles work (.error e)) :
    run.Settles (work >>= next) (.error e) := by
  have ended (s : Session σ) (ready : run.Ready s) :
      Run.from (work >>= next) s = (.error e, (work.from s).2) :=
    Run.from_bind_of_error (Prod.ext (first.comes s ready) rfl)
  refine ⟨by rintro _ ⟨⟩; exact first.goes _ rfl, fun s ready => ?_, fun s ready => ?_⟩ <;>
    rw [ended s ready]
  exact first.ready s ready

/-- What goes wrong with one table is an outcome like any other. -/
theorem attempt {work : Run σ α} (settles : run.Settles work r) :
    run.Settles (attempt work) (.ok r) := by
  have came (s : Session σ) (ready : run.Ready s) :
      (Conform.attempt work).from s = (.ok r, (work.from s).2) := by
    rw [attempt_from, show work.from s = (r, (work.from s).2) from
      Prod.ext (settles.comes s ready) rfl]
    cases r with
    | ok => rfl
    | error e => simp [settles.goes e rfl]
  refine ⟨by rintro _ ⟨⟩, fun s ready => ?_, fun s ready => ?_⟩ <;> rw [came s ready]
  exact settles.ready s ready

end Settles

variable (run other) in
/-- The same comes of the two works, each done in its own run. -/
def Agree (work : Run σ α) (work' : Run τ α) : Prop :=
  ∃ r, run.Settles work r ∧ other.Settles work' r

namespace Agree

theorem pure (a : α) : Agree run other (pure a) (pure a) :=
  ⟨.ok a, .pure a, .pure a⟩

/-- What is known of the outcome of both works may be used of the works that follow. -/
theorem bind_of {work : Run σ α} {work' : Run τ α} {next : α → Run σ β} {next' : α → Run τ β}
    (mine : run.Settles work r) (theirs : other.Settles work' r)
    (second : ∀ a, r = .ok a → Agree run other (next a) (next' a)) :
    Agree run other (work >>= next) (work' >>= next') := by
  cases r with
  | error e => exact ⟨.error e, mine.bind_error, theirs.bind_error⟩
  | ok a =>
    obtain ⟨r, mineThen, theirsThen⟩ := second a rfl
    exact ⟨r, mine.bind mineThen, theirs.bind theirsThen⟩

theorem bind {work : Run σ α} {work' : Run τ α} {next : α → Run σ β} {next' : α → Run τ β}
    (first : Agree run other work work') (second : ∀ a, Agree run other (next a) (next' a)) :
    Agree run other (work >>= next) (work' >>= next') := by
  obtain ⟨_, mine, theirs⟩ := first
  exact bind_of mine theirs fun a _ => second a

end Agree

variable (run) in
theorem call_settles (c : Call) : run.Settles (run.backend.call c) (run.reply c) where
  goes := run.connected c
  comes s ready := run.answers c s.state ready.known
  ready s ready := ⟨run.keeps c s.state ready.known, ready.latched⟩

theorem call_agree {c : Call} (same : run.reply c = other.reply c) :
    Agree run other (run.backend.call c) (other.backend.call c) :=
  ⟨run.reply c, run.call_settles c, same ▸ other.call_settles c⟩

/-- A latched gate rules on the number of rows alone. -/
theorem consult_settles (check : Check) :
    run.Settles (consult check) ((Gate.preAuthorized.rule check).decision check) := by
  have rule {g : Gate} (latched : g.latched = true) :
      g.rule check = Gate.preAuthorized.rule check := by
    simp [Gate.rule, latched, Gate.preAuthorized]
  refine ⟨fun e failed => ?_, fun s ready => ?_, fun s ready => ⟨ready.known, ?_⟩⟩
  · unfold Gate.rule at failed
    split at failed <;> cases failed
    rfl
  · show (s.gate.rule check).decision check = _
    rw [rule ready.latched]
  · exact Gate.after_latched ready.latched [.ruled check (s.gate.rule check)]

theorem consult_agree (check : Check) : Agree run other (consult check) (consult check) :=
  ⟨_, consult_settles check, consult_settles check⟩

variable (run) in
/-- The plan for a table with what the run has read of it. -/
def plan (t : Schema.Table) : Except Error Plan :=
  run.backend.dialect.plan t (run.live.find? t.name)

/-- The calls that bring a table in line. -/
inductive Serves (run : SteadyRun σ) (t : Schema.Table) : Call → Prop where
  | create (plan : run.plan t = .ok (.create operations))
      (issued : statement ∈ run.backend.applicable operations) : Serves run t (.execute statement)
  | alter (plan : run.plan t = .ok (.alter operations))
      (issued : statement ∈ run.backend.applicable operations) : Serves run t (.execute statement)
  | count (plan : run.plan t = .ok (.rebuild reasons steps)) : Serves run t (.rowCount t.name)
  | define (plan : run.plan t = .ok (.rebuild reasons steps)) :
      Serves run t (.previousDefinition t.name (asideName t.name))
  | rebuild (plan : run.plan t = .ok (.rebuild reasons steps))
      (defined : run.reply (.previousDefinition t.name (asideName t.name)) = .ok text) :
      Serves run t (.executeRebuild t.name
        (run.backend.rebuildSteps t.name (.createLike t.name (asideName t.name) text) steps))

theorem executeAll_agree {statements : List Sql.Statement} (same : ∀ statement ∈ statements,
    run.reply (.execute statement) = other.reply (.execute statement)) :
    Agree run other (run.backend.executeAll statements) (other.backend.executeAll statements) := by
  induction statements with
  | nil => exact .pure ()
  | cons statement rest ih =>
    exact (call_agree (same statement List.mem_cons_self)).bind fun _ =>
      ih fun later member => same later (List.mem_cons_of_mem _ member)

variable (dialect : run.backend.dialect = other.backend.dialect)
include dialect

theorem apply_agree {operations : List Operation} (dryRun : Bool)
    (same : ∀ statement ∈ run.backend.applicable operations,
      run.reply (.execute statement) = other.reply (.execute statement)) :
    Agree run other (run.backend.apply operations dryRun)
      (other.backend.apply operations dryRun) := by
  have statements : other.backend.applicable operations = run.backend.applicable operations := by
    rw [Backend.applicable, Backend.applicable, dialect]
  rw [Backend.apply, Backend.apply, statements]
  cases dryRun with
  | true => exact .pure _
  | false => exact (executeAll_agree same).bind fun _ => .pure _

/-- The statements of a rebuild are those that the definition of the table makes them. -/
theorem rebuildStatements_settle {table : String} (steps : Rebuild)
    (define : run.reply (.previousDefinition table (asideName table)) =
      other.reply (.previousDefinition table (asideName table))) :
    let statements := (run.reply (.previousDefinition table (asideName table))).map fun text =>
      run.backend.rebuildSteps table (.createLike table (asideName table) text) steps
    run.Settles (run.backend.rebuildStatements table steps) statements ∧
      other.Settles (other.backend.rebuildStatements table steps) statements := by
  have mine := run.call_settles (.previousDefinition table (asideName table))
  have theirs := other.call_settles (.previousDefinition table (asideName table))
  rw [← define] at theirs
  have steps_eq : other.backend.rebuildSteps = run.backend.rebuildSteps := by
    funext table previous steps
    rw [Backend.rebuildSteps, Backend.rebuildSteps, dialect]
  cases defined : run.reply (.previousDefinition table (asideName table)) with
  | error e =>
    rw [defined] at mine theirs
    exact ⟨mine.bind_error, theirs.bind_error⟩
  | ok text =>
    rw [defined] at mine theirs
    exact ⟨mine.bind (.pure _), theirs.bind (steps_eq ▸ .pure _)⟩

theorem rebuildTable_agree {table : String} {reasons : List Reason} {steps : Rebuild}
    (count : run.reply (.rowCount table) = other.reply (.rowCount table))
    (define : run.reply (.previousDefinition table (asideName table)) =
      other.reply (.previousDefinition table (asideName table)))
    (rebuild : ∀ text, run.reply (.previousDefinition table (asideName table)) = .ok text →
      let statements :=
        run.backend.rebuildSteps table (.createLike table (asideName table) text) steps
      run.reply (.executeRebuild table statements) =
        other.reply (.executeRebuild table statements)) :
    Agree run other (run.backend.rebuildTable table reasons steps)
      (other.backend.rebuildTable table reasons steps) := by
  refine (call_agree count).bind fun rows => (consult_agree _).bind fun decision => ?_
  cases decision with
  | declined => exact .pure _
  | proceed =>
    obtain ⟨mine, theirs⟩ := rebuildStatements_settle dialect steps define
    refine .bind_of mine theirs fun statements made => ?_
    cases defined : run.reply (.previousDefinition table (asideName table)) with
    | error e =>
      rw [defined] at made
      cases made
    | ok text =>
      rw [defined] at made
      cases made
      exact (call_agree (rebuild text defined)).bind fun _ => .pure _

/-- What comes of a table depends on the answers to its own calls only. -/
theorem reconcileTable_agree {t : Schema.Table} (dryRun : Bool)
    (same : ∀ c, run.Serves t c → run.reply c = other.reply c) :
    Agree run other (run.backend.reconcileTable t (run.live.find? t.name) dryRun)
      (other.backend.reconcileTable t (run.live.find? t.name) dryRun) := by
  rw [Backend.reconcileTable, Backend.reconcileTable, ← dialect]
  -- the plan is made without a call, so both works have the same one
  have goes (e : Error) (failed : run.plan t = .error e) := Dialect.plan_goes failed
  refine .bind_of (.ofResult goes) (.ofResult goes) fun plan planned => ?_
  match plan with
  | .create operations =>
    exact (apply_agree dialect dryRun fun _ issued => same _ (.create planned issued)).bind
      fun _ => .pure _
  | .alter [] => exact .pure _
  | .alter (operation :: rest) =>
    exact (apply_agree dialect dryRun fun _ issued => same _ (.alter planned issued)).bind
      fun _ => .pure _
  | .rebuild reasons steps =>
    cases dryRun with
    | true =>
      obtain ⟨mine, theirs⟩ := rebuildStatements_settle dialect steps (same _ (.define planned))
      exact .bind ⟨_, mine, theirs⟩ fun _ => .pure _
    | false =>
      exact rebuildTable_agree dialect (same _ (.count planned)) (same _ (.define planned))
        fun text defined => same _ (.rebuild planned defined)

omit dialect

variable (run) in
/-- What comes of a declared table that is reconciled alone. -/
def alone (dryRun : Bool) (t : Schema.Table) : Except Error Outcome :=
  ((run.backend.reconcileTable t (run.live.find? t.name) dryRun).from run.start).1

theorem alone_settles (dryRun : Bool) (t : Schema.Table) :
    run.Settles (run.backend.reconcileTable t (run.live.find? t.name) dryRun)
      (run.alone dryRun t) := by
  have own : Agree run run (run.backend.reconcileTable t (run.live.find? t.name) dryRun)
      (run.backend.reconcileTable t (run.live.find? t.name) dryRun) :=
    reconcileTable_agree rfl dryRun fun _ _ => rfl
  obtain ⟨r, settles, _⟩ := own
  rwa [alone, settles.comes _ run.ready_start]

/-- One table after the other comes to what comes of it alone. -/
theorem reconcileAll_settles (dryRun : Bool) (tables : List Schema.Table) :
    run.Settles (run.backend.reconcileAll dryRun run.live tables)
      (.ok (tables.map fun t => ⟨t.name, run.alone dryRun t⟩)) := by
  induction tables with
  | nil => exact .pure []
  | cons t rest ih => exact (alone_settles dryRun t).attempt.bind (ih.bind (.pure _))

variable (run) in
/-- What comes of each table alone, in one report. -/
def report (dryRun : Bool) : Report where
  entries := run.model.ordered.map fun t => ⟨t.name, run.alone dryRun t⟩
  dryRun := dryRun

theorem reconcile_settles (dryRun : Bool) :
    run.Settles (run.backend.reconcile run.model ⟨false, dryRun⟩) (.ok (run.report dryRun)) := by
  have read : run.Settles (run.backend.call .existingSchema) (.ok run.live) :=
    run.read ▸ run.call_settles .existingSchema
  rw [Backend.reconcile]
  exact read.bind ((Settles.pure _).bind
    ((reconcileAll_settles dryRun run.model.ordered).bind (.pure _)))

/-- The two runs differ in one table at most. All others are declared in both alike and live in both
alike, and their calls are answered alike. -/
structure DiffersAt (changed : String) (run : SteadyRun σ) (other : SteadyRun τ) : Prop where
  dialect : run.backend.dialect = other.backend.dialect
  declared : ∀ t : Schema.Table, t.name ≠ changed → (t ∈ run.model.tables ↔ t ∈ other.model.tables)
  found : ∀ name, name ≠ changed → run.live.find? name = other.live.find? name
  answered : ∀ t ∈ run.model.tables, t.name ≠ changed →
    ∀ c, run.Serves t c → run.reply c = other.reply c

theorem DiffersAt.alone_eq (differs : DiffersAt changed run other) (dryRun : Bool)
    (declared : t ∈ run.model.tables) (apart : t.name ≠ changed) :
    run.alone dryRun t = other.alone dryRun t := by
  obtain ⟨r, mine, theirs⟩ :=
    reconcileTable_agree differs.dialect dryRun (differs.answered t declared apart)
  rw [differs.found t.name apart] at theirs
  rw [alone, alone, mine.comes _ run.ready_start, theirs.comes _ other.ready_start]

variable (run) in
theorem entriesOf_report (dryRun : Bool) (declared : t ∈ run.model.tables) :
    (run.report dryRun).entriesOf t.name = [⟨t.name, run.alone dryRun t⟩] := by
  have distinct := ((run.model.ordered_perm.map (·.name)).nodup_iff).mpr run.distinct
  have one := filter_named distinct (run.model.ordered_perm.mem_iff.mpr declared)
  rw [Report.entriesOf, report, List.filter_map]
  exact congrArg (List.map _) one

variable (run) in
theorem entriesOf_report_undeclared (dryRun : Bool)
    (undeclared : ∀ t ∈ run.model.tables, t.name ≠ name) :
    (run.report dryRun).entriesOf name = [] := by
  rw [Report.entriesOf, report, List.filter_map, List.map_eq_nil_iff, List.filter_eq_nil_iff]
  intro t among named
  exact undeclared t (run.model.ordered_perm.subset among) (by simpa using named)

/-- A run records the same of a table as one that differs from it in another table. -/
theorem DiffersAt.entriesOf_eq (differs : DiffersAt changed run other) (dryRun : Bool)
    (apart : name ≠ changed) :
    (run.report dryRun).entriesOf name = (other.report dryRun).entriesOf name := by
  by_cases declared : ∃ t ∈ run.model.tables, t.name = name
  · obtain ⟨t, declared, rfl⟩ := declared
    rw [run.entriesOf_report dryRun declared, differs.alone_eq dryRun declared apart,
      other.entriesOf_report dryRun ((differs.declared t apart).mp declared)]
  · have undeclared : ∀ t ∈ run.model.tables, t.name ≠ name := fun t among named =>
      declared ⟨t, among, named⟩
    rw [run.entriesOf_report_undeclared dryRun undeclared,
      other.entriesOf_report_undeclared dryRun fun t among named =>
        undeclared t ((differs.declared t (named ▸ apart)).mpr among) named]

end

end SteadyRun

/-- A run without a forced reset records one entry of each declared table, and it is what comes of
the table when it is reconciled alone. What another run changes in one table shows in no other. -/
theorem failures_isolated (run : SteadyRun σ) (dryRun : Bool) :
    ∃ report,
      ((run.backend.reconcile run.model ⟨false, dryRun⟩).from run.start).1 = .ok report ∧
      (∀ t ∈ run.model.tables, ∀ s, run.Ready s → report.entriesOf t.name =
        [⟨t.name, ((run.backend.reconcileTable t (run.live.find? t.name) dryRun).from s).1⟩]) ∧
      ∀ (τ : Type) (other : SteadyRun τ) (changed : String), SteadyRun.DiffersAt changed run other →
        ∃ report',
          ((other.backend.reconcile other.model ⟨false, dryRun⟩).from other.start).1 =
            .ok report' ∧
          ∀ name, name ≠ changed → report.entriesOf name = report'.entriesOf name := by
  refine ⟨run.report dryRun, (SteadyRun.reconcile_settles dryRun).comes _ run.ready_start, ?_, ?_⟩
  · intro t declared s ready
    rw [run.entriesOf_report dryRun declared, (SteadyRun.alone_settles dryRun t).comes s ready]
  · intro τ other changed differs
    exact ⟨other.report dryRun, (SteadyRun.reconcile_settles dryRun).comes _ other.ready_start,
      fun name apart => differs.entriesOf_eq dryRun apart⟩

namespace Rehearsal

/-- What comes of the act follows from the script alone. It neither changes the script nor ends a
run. -/
def Follows (script : Script) (act : Stage → Except Error α × Stage) : Prop :=
  ∃ r, (∀ e, r = .error e → e.endsRun = false) ∧
    ∀ s : Stage, s.script = script → (act s).1 = r ∧ (act s).2.script = script

/-- One act after another, unless the first one fails. -/
theorem Follows.followed {act next : Stage → Except Error Unit × Stage}
    (first : Follows script act) (second : Follows script next) :
    Follows script fun s => match act s with
      | (.ok (), s) => next s
      | failed => failed := by
  obtain ⟨r, goes, comes⟩ := first
  obtain ⟨r', goes', comes'⟩ := second
  cases r with
  | error e =>
    refine ⟨.error e, goes, fun s same => ?_⟩
    obtain ⟨failed, still⟩ := comes s same
    dsimp only
    rw [show act s = (.error e, (act s).2) from Prod.ext failed rfl]
    exact ⟨rfl, still⟩
  | ok =>
    refine ⟨r', goes', fun s same => ?_⟩
    obtain ⟨passed, still⟩ := comes s same
    dsimp only
    rw [show act s = (.ok (), (act s).2) from Prod.ext passed rfl]
    exact comes' _ still

section
variable {script : Script} (kept : ∀ m ∈ script.mishaps, m.failure.losesConnection = false)
include kept

theorem mishap?_kept (met : script.mishap? kind argument = some fate) :
    fate.losesConnection = false := by
  obtain ⟨m, found, rfl⟩ := Option.map_eq_some_iff.mp met
  exact kept m (List.mem_of_find?_eq_some found)

theorem perform_follows (kind : CallKind) (argument : String) (answer : Script → α) :
    Follows script fun s => s.perform kind argument (answer s.script) := by
  cases met : script.mishap? kind argument with
  | some fate =>
    refine ⟨.error (.database fate), ?_, fun s same => ?_⟩
    · rintro _ ⟨⟩
      exact mishap?_kept kept met
    · simp [Stage.perform, Stage.enter, same, met]
  | none =>
    refine ⟨.ok (answer script), by rintro _ ⟨⟩, fun s same => ?_⟩
    simp [Stage.perform, Stage.enter, same, met]

theorem execute_follows (statement : Sql.Statement) :
    Follows script fun s => s.execute statement := by
  cases met : script.mishap? .execute statement.sql with
  | some fate =>
    refine ⟨.error (.ofStatement statement.sql fate), ?_, fun s same => ?_⟩
    · rintro _ ⟨⟩
      have goes := mishap?_kept kept met
      cases fate <;> first | rfl | exact goes
    · simp [Stage.execute, Stage.enter, same, met]
  | none =>
    refine ⟨.ok (), by rintro _ ⟨⟩, fun s same => ?_⟩
    simp [Stage.execute, Stage.enter, same, met]

theorem executeAll_follows (statements : List Sql.Statement) :
    Follows script fun s => s.executeAll statements := by
  induction statements with
  | nil => exact ⟨.ok (), by rintro _ ⟨⟩, fun s same => ⟨rfl, same⟩⟩
  | cons statement rest ih => exact (execute_follows kept statement).followed ih

theorem rebuild_follows (table : String) (statements : List Sql.Statement) :
    Follows script fun s => s.rebuild table statements :=
  (perform_follows kept .beginRebuild table fun _ => ()).followed
    ((executeAll_follows kept statements).followed
      (perform_follows kept .commitRebuild table fun _ => ()))

theorem answer_follows (dialect : Dialect) (c : Call) :
    Follows script ((backend dialect).answer c) := by
  cases c with
  | existingSchema => exact perform_follows kept _ _ fun script =>
      Live.Schema.ofList script.tables
  | existingTable name =>
    exact perform_follows kept _ _ fun script => script.tables.find? (·.name == name)
  | rowCount table =>
    exact perform_follows kept _ _ fun script => (script.rows.lookup table).getD 0
  | previousDefinition => exact perform_follows kept _ _ fun _ => _
  | execute statement => exact execute_follows kept statement
  | executeRebuild table statements => exact rebuild_follows kept table statements

end

/-- A rehearsal is a steady run if its mishaps leave the connection alone and the catalog can be
read. -/
def steadyRun (dialect : Dialect) (script : Script) (model : Schema.Model)
    (kept : ∀ m ∈ script.mishaps, m.failure.losesConnection = false)
    (distinct : (model.tables.map (·.name)).Nodup)
    (readable : script.mishap? .existingSchema "" = none) : SteadyRun Stage where
  backend := backend dialect
  model := model
  start := { state.script := script, gate := .preAuthorized }
  live := .ofList script.tables
  reply c := ((backend dialect).answer c { script }).1
  states s := s.script = script
  distinct := distinct
  latched := rfl
  started := rfl
  keeps c s same := by
    obtain ⟨_, _, comes⟩ := answer_follows kept dialect c
    exact (comes s same).2
  answers c s same := by
    obtain ⟨_, _, comes⟩ := answer_follows kept dialect c
    rw [(comes s same).1, (comes _ rfl).1]
  connected c e failed := by
    obtain ⟨_, goes, comes⟩ := answer_follows kept dialect c
    rw [(comes _ rfl).1] at failed
    exact goes e failed
  read := by
    simp [backend, Stage.perform, Stage.enter, readable]

end Rehearsal

private def plain : Schema.Table where
  name := "A"
  fields := [{ name := "id", type := "Int" }]

/-- Two tables of the same shape. -/
private def plainPair : Schema.Model where
  tables := [plain, { plain with name := "B" }]

/-- A run on an empty database. -/
private def calm : SteadyRun Rehearsal.Stage :=
  Rehearsal.steadyRun .sqlite {} plainPair (by simp) (by decide) rfl

/-- A run that finds the second table there and may not change it. -/
private def troubled : SteadyRun Rehearsal.Stage :=
  Rehearsal.steadyRun .sqlite
    { tables := [{ name := "B" }], mishaps := [⟨"execute", "\"B\"", .reported "refused"⟩] }
    plainPair (by simp [Failure.losesConnection]) (by decide) rfl

private theorem troubled_differs : SteadyRun.DiffersAt "B" calm troubled where
  dialect := rfl
  declared _ _ := Iff.rfl
  found name apart := by
    show none = List.find? _ [_]
    simp [Ne.symm apart]
  answered t declared apart c serves := by
    have named : t = plain := by
      rcases List.mem_cons.mp declared with same | member
      · exact same
      · exact absurd (List.mem_singleton.mp member ▸ rfl) apart
    subst named
    have plan : Dialect.sqlite.plan plain none =
        .ok (.create [.createTable (plain.definition [⟨"id", "INTEGER"⟩]) true]) := by
      decide +kernel
    cases serves with
    | create planned issued =>
      cases plan.symm.trans planned
      cases List.mem_singleton.mp issued
      decide +kernel
    | alter planned | count planned | define planned | rebuild planned =>
      cases plan.symm.trans planned

/-- The second table is created in the one run and fails in the other. The first one is created in
both. -/
theorem troubled_run_isolated : ∃ report report',
    ((calm.backend.reconcile plainPair ⟨false, false⟩).from calm.start).1 = .ok report ∧
      ((troubled.backend.reconcile plainPair ⟨false, false⟩).from troubled.start).1 = .ok report' ∧
      report.entriesOf "A" = [⟨"A", ((calm.backend.reconcileTable plain none false).from
        calm.start).1⟩] ∧
      report.entriesOf "A" = report'.entriesOf "A" ∧
      ((troubled.backend.reconcile plainPair ⟨false, false⟩).from troubled.start).1.toOption.map
        (fun report => report.failures.map (·.1)) = some ["B"] := by
  obtain ⟨report, ran, alone, isolated⟩ := failures_isolated calm false
  obtain ⟨report', ran', same⟩ := isolated _ troubled "B" troubled_differs
  exact ⟨report, report', ran, ran', alone plain (by decide) _ calm.ready_start,
    same "A" (by decide), by decide +kernel⟩

end Conform
