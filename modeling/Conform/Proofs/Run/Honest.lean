import Conform.Postgres.Backend
import Conform.Rehearsal.Backend
import Conform.Sqlite.Connection

/-! Fatal errors are found by the planner and by the gate. A backend has errors of its own, and no
backend reports a fatal one. -/
namespace Conform

/-- What makes work on a table hopeless: a type unknown to the backend, an unsafe conversion, or too
many rows. -/
def Error.isFatal : Error → Bool
  | unsupportedType _ _ | lossyConversion _ _ _ _ | tableTooLarge _ _ => true
  | malformedSchema _ | refused _ _ | violation _ _ | database _ | unknownBackend _ => false

theorem Error.isFatal_ofStatement (sql : String) (failure : Failure) :
    (Error.ofStatement sql failure).isFatal = false := by
  cases failure <;> rfl

/-- No error of the backend is a fatal one. -/
def Backend.Honest (b : Backend σ) : Prop :=
  ∀ c state e, (b.answer c state).1 = .error e → e.isFatal = false

/-- No error of the work is a fatal one. -/
def Ordinary {σ : Type} (work : ExceptT Error (StateM σ) α) : Prop :=
  ∀ s e, (work s).1 = .error e → e.isFatal = false

namespace Ordinary

variable {σ : Type}

theorem pure (a : α) : Ordinary (pure a : ExceptT Error (StateM σ) α) := by
  rintro s e ⟨⟩

theorem throw (ordinary : e.isFatal = false) :
    Ordinary (throw e : ExceptT Error (StateM σ) α) := by
  rintro s _ ⟨⟩
  exact ordinary

theorem bind {work : ExceptT Error (StateM σ) α} {next : α → ExceptT Error (StateM σ) β}
    (first : Ordinary work) (second : ∀ a, Ordinary (next a)) : Ordinary (work >>= next) := by
  intro s e failed
  simp only [Bind.bind, ExceptT.bind, ExceptT.mk, StateT.bind] at failed
  rcases ran : work s with ⟨error | a, later⟩
  · rw [ran] at failed
    obtain rfl := Except.error.inj failed
    exact first s _ (by rw [ran])
  · rw [ran] at failed
    exact second a later e failed

theorem tryCatch {work : ExceptT Error (StateM σ) α} {handler : Error → ExceptT Error (StateM σ) α}
    (first : Ordinary work) (caught : ∀ e, e.isFatal = false → Ordinary (handler e)) :
    Ordinary (tryCatch work handler) := by
  intro s e failed
  simp only [MonadExceptOf.tryCatch, MonadExcept.tryCatch, tryCatchThe, ExceptT.tryCatch,
    ExceptT.mk, Bind.bind, StateT.bind] at failed
  rcases ran : work s with ⟨error | a, later⟩
  · rw [ran] at failed
    exact caught error (first s error (by rw [ran])) later e failed
  · rw [ran] at failed
    cases failed

/-- The last work is done in any case, and an error of the first one is kept. -/
theorem andAlways {work : ExceptT Error (StateM σ) α} {last : ExceptT Error (StateM σ) β}
    (first : Ordinary work) (second : Ordinary last) :
    Ordinary fun s => ((work s).1.bind fun _ => (last (work s).2).1, (last (work s).2).2) := by
  intro s e failed
  dsimp only at failed
  rcases ran : (work s).1 with error | a
  · rw [ran] at failed
    obtain rfl := Except.error.inj failed
    exact first s _ ran
  · rw [ran] at failed
    exact second _ e failed

theorem mapM {work : α → ExceptT Error (StateM σ) β} (each : ∀ a, Ordinary (work a))
    (list : List α) : Ordinary (list.mapM work) := by
  induction list with
  | nil => exact pure []
  | cons a rest ih =>
    rw [List.mapM_cons]
    exact (each a).bind fun _ => ih.bind fun _ => pure _

end Ordinary

/-- An error that is made of a failure is as ordinary as what makes it. -/
theorem ordinary_of_mapError {result : Except Failure α} {wrap : Failure → Error}
    (ordinary : ∀ failure, (wrap failure).isFatal = false)
    (failed : result.mapError wrap = .error e) : e.isFatal = false := by
  cases result with
  | ok => cases failed
  | error failure =>
    cases failed
    exact ordinary failure

namespace Rehearsal

theorem Stage.perform_ordinary (s : Stage) (kind : CallKind) (argument : String) (answer : α)
    (failed : (s.perform kind argument answer).1 = .error e) : e.isFatal = false := by
  rw [Stage.perform] at failed
  split at failed <;> cases failed
  rfl

theorem Stage.execute_ordinary (s : Stage) (statement : Sql.Statement)
    (failed : (s.execute statement).1 = .error e) : e.isFatal = false := by
  rw [Stage.execute] at failed
  split at failed <;> cases failed
  exact Error.isFatal_ofStatement _ _

theorem Stage.executeAll_ordinary (s : Stage) (statements : List Sql.Statement)
    (failed : (s.executeAll statements).1 = .error e) : e.isFatal = false := by
  induction statements generalizing s with
  | nil => cases failed
  | cons statement rest ih =>
    rw [Stage.executeAll] at failed
    rcases ran : s.execute statement with ⟨error | ⟨⟩, later⟩
    · rw [ran] at failed
      exact s.execute_ordinary statement (by rw [ran]; exact failed)
    · rw [ran] at failed
      exact ih later failed

theorem Stage.rebuild_ordinary (s : Stage) (table : String) (statements : List Sql.Statement)
    (failed : (s.rebuild table statements).1 = .error e) : e.isFatal = false := by
  rw [Stage.rebuild] at failed
  rcases begun : s.perform .beginRebuild table () with ⟨error | ⟨⟩, opened⟩
  · rw [begun] at failed
    exact s.perform_ordinary .beginRebuild table () (by rw [begun]; exact failed)
  · rw [begun] at failed
    dsimp only at failed
    rcases ran : opened.executeAll statements with ⟨error | ⟨⟩, later⟩
    · rw [ran] at failed
      exact opened.executeAll_ordinary statements (by rw [ran]; exact failed)
    · rw [ran] at failed
      exact later.perform_ordinary .commitRebuild table () failed

theorem backend_honest (dialect : Dialect) : (backend dialect).Honest := by
  intro c s e failed
  cases c with
  | existingSchema | existingTable | rowCount | previousDefinition =>
    exact s.perform_ordinary _ _ _ failed
  | execute statement => exact s.execute_ordinary statement failed
  | executeRebuild table statements => exact s.rebuild_ordinary table statements failed

end Rehearsal

namespace Postgres

namespace Server

variable {σ : Type} (server : Server σ)

theorem send_ordinary (r : Request) {wrap : Failure → Error}
    (ordinary : ∀ failure, (wrap failure).isFatal = false) : Ordinary (server.send r wrap) :=
  fun _ _ failed => ordinary_of_mapError ordinary failed

theorem ask_ordinary (r : Request) : Ordinary (server.ask r) :=
  server.send_ordinary r fun _ => rfl

theorem execute_ordinary (s : Sql.Statement) : Ordinary (server.execute s) :=
  server.send_ordinary _ (Error.isFatal_ofStatement s.sql)

theorem readTable_ordinary (name : String) : Ordinary (server.readTable name) :=
  (server.ask_ordinary _).bind fun _ => (server.ask_ordinary _).bind fun _ =>
    (server.ask_ordinary _).bind fun _ => (server.ask_ordinary _).bind fun _ => .pure _

theorem existingSchema_ordinary : Ordinary server.existingSchema :=
  (server.ask_ordinary _).bind fun names =>
    (Ordinary.mapM server.readTable_ordinary names).bind fun _ => .pure _

theorem existingTable_ordinary (name : String) : Ordinary (server.existingTable name) := by
  refine (server.ask_ordinary _).bind fun found => ?_
  cases found with
  | false => exact .pure none
  | true => exact (server.readTable_ordinary name).bind fun _ => .pure _

theorem executeAll_ordinary (statements : List Sql.Statement) :
    Ordinary (server.executeAll statements) := by
  induction statements with
  | nil => exact .pure ()
  | cons s rest ih => exact (server.execute_ordinary s).bind fun _ => ih

theorem rebuild_ordinary (statements : List Sql.Statement) :
    Ordinary (server.rebuild statements) := by
  refine (server.ask_ordinary _).bind fun _ => .tryCatch ?_ ?_
  · exact (server.ask_ordinary _).bind fun _ => (server.executeAll_ordinary statements).bind
      fun _ => server.send_ordinary _ (Error.isFatal_ofStatement _)
  · rintro e ordinary s _ ⟨⟩
    exact ordinary

end Server

theorem backend_honest (server : Server σ) : (backend server).Honest := by
  intro c s e failed
  cases c with
  | existingSchema => exact server.existingSchema_ordinary s e failed
  | existingTable name => exact server.existingTable_ordinary name s e failed
  | execute statement => exact server.execute_ordinary statement s e failed
  | rowCount table => exact server.ask_ordinary _ s e failed
  | previousDefinition => cases failed
  | executeRebuild _ statements => exact server.rebuild_ordinary statements s e failed

end Postgres

namespace Sqlite

namespace Channel

variable {σ : Type} (ch : Channel σ)

theorem send_ordinary (c : Command) {wrap : Failure → Error}
    (ordinary : ∀ failure, (wrap failure).isFatal = false) : Ordinary (ch.send c wrap) :=
  fun _ _ failed => ordinary_of_mapError ordinary failed

theorem sendAll_ordinary (statements : List Sql.Statement) : Ordinary (ch.sendAll statements) := by
  induction statements with
  | nil => exact .pure ()
  | cons s rest ih =>
    exact (ch.send_ordinary _ (Error.isFatal_ofStatement s.sql)).bind fun _ => ih

theorem abandon_ordinary (ordinary : e.isFatal = false) :
    Ordinary (ch.abandon e : ExceptT Error (StateM σ) α) := by
  rintro s _ ⟨⟩
  exact ordinary

theorem transact_ordinary (table : String) (statements : List Sql.Statement) :
    Ordinary (ch.transact table statements) := by
  refine (ch.send_ordinary _ fun _ => rfl).bind fun _ => .bind (.tryCatch ?worked ?given) ?checked
  case worked =>
    exact (ch.sendAll_ordinary statements).bind fun _ =>
      ch.send_ordinary _ (Error.isFatal_ofStatement _)
  case given => exact fun _ ordinary => ch.abandon_ordinary ordinary
  case checked =>
    intro missing
    have finish : Ordinary (tryCatch (ch.send .commit .database) ch.abandon) :=
      .tryCatch (ch.send_ordinary _ fun _ => rfl) fun _ ordinary => ch.abandon_ordinary ordinary
    dsimp only
    split
    · refine (ch.send_ordinary _ fun _ => rfl).bind fun _ => ?_
      exact (Ordinary.throw rfl).bind fun _ => finish
    · exact finish

theorem rebuild_ordinary (table : String) (statements : List Sql.Statement) :
    Ordinary (ch.rebuild table statements) :=
  (ch.send_ordinary _ fun _ => rfl).bind fun _ =>
    (ch.transact_ordinary table statements).andAlways
      (ch.send_ordinary (.enforceForeignKeys true) fun _ => rfl)

end Channel

theorem Catalog.previousDefinition_ordinary (c : Catalog) (table target : String)
    (failed : c.previousDefinition table target = .error e) : e.isFatal = false := by
  rw [Catalog.previousDefinition] at failed
  split at failed
  · cases failed
    rfl
  · split at failed <;> cases failed
    rfl

theorem backend_honest : backend.Honest := by
  intro c s e failed
  simp only [backend] at failed
  split at failed
  · cases failed
    rfl
  · cases c with
    | existingSchema | existingTable => cases failed
    | execute statement => exact ordinary_of_mapError (Error.isFatal_ofStatement _) failed
    | rowCount table =>
      cases counted : s.database.rowCount table with
      | ok => rw [Connection.answer, counted] at failed; cases failed
      | error => rw [Connection.answer, counted] at failed; cases failed; rfl
    | previousDefinition table target =>
      exact s.database.catalog.previousDefinition_ordinary table target failed
    | executeRebuild table statements =>
      exact Connection.channel.rebuild_ordinary table statements s e failed

end Sqlite

end Conform
