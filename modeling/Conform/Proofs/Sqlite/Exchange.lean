import Conform.Sqlite.Transaction

/-! What is said on a channel while a table is rebuilt, each way in which that can go. The rebuild
itself keeps no log; it does the same on a channel that keeps one. -/
namespace Conform.Sqlite

/-- A command, the state in which it was given, and the reply to it. -/
structure Exchange (σ : Type) where
  start : σ
  command : Command
  reply : Except Failure command.Answer

namespace Exchange

variable {σ : Type}

def said (x : Exchange σ) : (c : Command) × Except Failure c.Answer := ⟨x.command, x.reply⟩

def Failed (x : Exchange σ) : Prop := ∃ e, x.reply = .error e

end Exchange

namespace Channel

section
variable {σ : Type} {ch : Channel σ}

/-- The channel, keeping a log of what is said on it. -/
def logged (ch : Channel σ) : Channel (σ × List (Exchange σ)) where
  perform c s :=
    let reply := ch.perform c s.1
    (reply.1, reply.2, s.2 ++ [⟨s.1, c, reply.1⟩])

/-- With a log or without one the work does the same, and it logs what `P` says. -/
def Logs (plain : ExceptT Error (StateM σ) α)
    (noted : ExceptT Error (StateM (σ × List (Exchange σ))) α)
    (P : σ → Except Error α → σ → List (Exchange σ) → Prop) : Prop :=
  ∀ s log, ∃ r s' added, plain s = (r, s') ∧ noted (s, log) = (r, s', log ++ added) ∧
    P s r s' added

namespace Logs

variable {plain : ExceptT Error (StateM σ) α}
  {noted : ExceptT Error (StateM (σ × List (Exchange σ))) α}
  {P Q : σ → Except Error α → σ → List (Exchange σ) → Prop}

theorem weaken (logs : Logs plain noted P)
    (implies : ∀ s r s' added, P s r s' added → Q s r s' added) : Logs plain noted Q := by
  intro s log
  obtain ⟨r, s', added, ran, ranNoted, holds⟩ := logs s log
  exact ⟨r, s', added, ran, ranNoted, implies s r s' added holds⟩

theorem pure {a : α} : Logs (pure a : ExceptT Error (StateM σ) α) (pure a)
    fun s r s' added => r = .ok a ∧ s' = s ∧ added = [] :=
  fun s log => ⟨.ok a, s, [], rfl, by rw [List.append_nil]; rfl, rfl, rfl, rfl⟩

theorem throw {e : Error} : Logs (throw e : ExceptT Error (StateM σ) α) (throw e)
    fun s r s' added => r = .error e ∧ s' = s ∧ added = [] :=
  fun s log => ⟨.error e, s, [], rfl, by rw [List.append_nil]; rfl, rfl, rfl, rfl⟩

theorem bind {next : α → ExceptT Error (StateM σ) β}
    {nextNoted : α → ExceptT Error (StateM (σ × List (Exchange σ))) β}
    {R : σ → Except Error β → σ → List (Exchange σ) → Prop} (first : Logs plain noted P)
    (failed : ∀ s e s' added, P s (.error e) s' added → R s (.error e) s' added)
    (passed : ∀ a, Logs (next a) (nextNoted a) fun middle r s' after =>
      ∀ s before, P s (.ok a) middle before → R s r s' (before ++ after)) :
    Logs (plain >>= next) (noted >>= nextNoted) R := by
  intro s log
  simp only [Bind.bind, ExceptT.bind, ExceptT.mk, StateT.bind]
  obtain ⟨e | a, middle, before, ran, ranNoted, holds⟩ := first s log
  · rw [ran, ranNoted]
    exact ⟨.error e, middle, before, rfl, rfl, failed s e middle before holds⟩
  · obtain ⟨r, s', after, goes, goesNoted, follows⟩ := passed a middle (log ++ before)
    refine ⟨r, s', before ++ after, ?_, ?_, follows s before holds⟩
    · rw [ran]
      exact goes
    · rw [ranNoted, ← List.append_assoc]
      exact goesNoted

theorem tryCatch {handler : Error → ExceptT Error (StateM σ) α}
    {handlerNoted : Error → ExceptT Error (StateM (σ × List (Exchange σ))) α}
    (first : Logs plain noted P)
    (passed : ∀ s a s' added, P s (.ok a) s' added → Q s (.ok a) s' added)
    (caught : ∀ e, Logs (handler e) (handlerNoted e) fun middle r s' after =>
      ∀ s before, P s (.error e) middle before → Q s r s' (before ++ after)) :
    Logs (tryCatch plain handler) (tryCatch noted handlerNoted) Q := by
  intro s log
  simp only [MonadExceptOf.tryCatch, MonadExcept.tryCatch, tryCatchThe, ExceptT.tryCatch,
    ExceptT.mk, Bind.bind, StateT.bind]
  obtain ⟨e | a, middle, before, ran, ranNoted, holds⟩ := first s log
  · obtain ⟨r, s', after, goes, goesNoted, follows⟩ := caught e middle (log ++ before)
    refine ⟨r, s', before ++ after, ?_, ?_, follows s before holds⟩
    · rw [ran]
      exact goes
    · rw [ranNoted, ← List.append_assoc]
      exact goesNoted
  · rw [ran, ranNoted]
    exact ⟨.ok a, middle, before, rfl, rfl, passed s a middle before holds⟩

/-- The last work is done in any case, and an error of the first one is kept. -/
theorem andAlways {last : ExceptT Error (StateM σ) β}
    {lastNoted : ExceptT Error (StateM (σ × List (Exchange σ))) β}
    {R : σ → Except Error β → σ → List (Exchange σ) → Prop} (first : Logs plain noted P)
    (second : Logs last lastNoted fun middle r' s' after =>
      ∀ s r before, P s r middle before → R s (r.bind fun _ => r') s' (before ++ after)) :
    Logs (fun s => ((plain s).1.bind fun _ => (last (plain s).2).1, (last (plain s).2).2))
      (fun s => ((noted s).1.bind fun _ => (lastNoted (noted s).2).1, (lastNoted (noted s).2).2))
      R := by
  intro s log
  obtain ⟨r, middle, before, ran, ranNoted, holds⟩ := first s log
  obtain ⟨r', s', after, goes, goesNoted, follows⟩ := second middle (log ++ before)
  refine ⟨r.bind fun _ => r', s', before ++ after, ?_, ?_, follows s r before holds⟩
  · simp only [ran, goes]
  · simp only [ranNoted, goesNoted, List.append_assoc]

end Logs

theorem send_logs (ch : Channel σ) (c : Command) (wrap : Failure → Error) :
    Logs (ch.send c wrap) (ch.logged.send c wrap) fun s r s' added =>
      ∃ reply, ch.perform c s = (reply, s') ∧ r = reply.mapError wrap ∧
        added = [⟨s, c, reply⟩] :=
  fun s _ => ⟨_, _, _, rfl, rfl, (ch.perform c s).1, rfl, rfl, rfl⟩

theorem abandon_logs (ch : Channel σ) (e : Error) :
    Logs (ch.abandon e : ExceptT Error (StateM σ) α) (ch.logged.abandon e) fun s r s' added =>
      r = .error e ∧ ∃ reply, ch.perform .rollback s = (reply, s') ∧
        added = [⟨s, .rollback, reply⟩] :=
  fun s _ => ⟨_, _, _, rfl, rfl, rfl, (ch.perform .rollback s).1, rfl, rfl⟩

/-- Statements performed in order up to the first that fails. -/
inductive Sent (ch : Channel σ) :
    List Sql.Statement → σ → Except Error Unit → σ → List (Exchange σ) → Prop where
  | done : Sent ch [] s (.ok ()) s []
  | failed (reply : ch.perform (.statement t) s = (.error e, s')) :
      Sent ch (t :: rest) s (.error (.ofStatement t.sql e)) s' [⟨s, .statement t, .error e⟩]
  | next (reply : ch.perform (.statement t) s = (.ok (), middle))
      (later : Sent ch rest middle r s' log) :
      Sent ch (t :: rest) s r s' (⟨s, .statement t, .ok ()⟩ :: log)

/-- The statements, and the check if none of them failed. -/
inductive Worked (ch : Channel σ) (table : String) (statements : List Sql.Statement) :
    σ → Except Error Nat → σ → List (Exchange σ) → Prop where
  | stopped (sent : Sent ch statements s (.error e) s' log) :
      Worked ch table statements s (.error e) s' log
  | unchecked (sent : Sent ch statements s (.ok ()) middle log)
      (reply : ch.perform (.checkForeignKeys table) middle = (.error e, s')) :
      Worked ch table statements s (.error (.ofStatement (foreignKeyQuery table) e)) s'
        (log ++ [⟨middle, .checkForeignKeys table, .error e⟩])
  | checked (sent : Sent ch statements s (.ok ()) middle log)
      (reply : ch.perform (.checkForeignKeys table) middle = (.ok missing, s')) :
      Worked ch table statements s (.ok missing) s'
        (log ++ [⟨middle, .checkForeignKeys table, .ok missing⟩])

/-- The ways in which a transaction can go. -/
inductive Transacted (ch : Channel σ) (table : String) (statements : List Sql.Statement) :
    σ → Except Error Unit → σ → List (Exchange σ) → Prop where
  | unbegun (reply : ch.perform .begin s = (.error e, s')) :
      Transacted ch table statements s (.error (.database e)) s' [⟨s, .begin, .error e⟩]
  | abandoned (reply : ch.perform .begin s = (.ok (), first))
      (work : Worked ch table statements first (.error e) last log)
      (undone : ch.perform .rollback last = (undo, s')) :
      Transacted ch table statements s (.error e) s'
        (⟨s, .begin, .ok ()⟩ :: (log ++ [⟨last, .rollback, undo⟩]))
  | violated (reply : ch.perform .begin s = (.ok (), first))
      (work : Worked ch table statements first (.ok missing) last log) (some : 0 < missing)
      (undone : ch.perform .rollback last = (undo, s')) :
      Transacted ch table statements s (.error e) s'
        (⟨s, .begin, .ok ()⟩ :: (log ++ [⟨last, .rollback, undo⟩]))
  | uncommitted (reply : ch.perform .begin s = (.ok (), first))
      (work : Worked ch table statements first (.ok 0) last log)
      (kept : ch.perform .commit last = (.error e, left))
      (undone : ch.perform .rollback left = (undo, s')) :
      Transacted ch table statements s (.error (.database e)) s'
        (⟨s, .begin, .ok ()⟩ ::
          (log ++ [⟨last, .commit, .error e⟩, ⟨left, .rollback, undo⟩]))
  | committed (reply : ch.perform .begin s = (.ok (), first))
      (work : Worked ch table statements first (.ok 0) last log)
      (kept : ch.perform .commit last = (.ok (), s')) :
      Transacted ch table statements s (.ok ()) s'
        (⟨s, .begin, .ok ()⟩ :: (log ++ [⟨last, .commit, .ok ()⟩]))

theorem sendAll_logs (ch : Channel σ) (statements : List Sql.Statement) :
    Logs (ch.sendAll statements) (ch.logged.sendAll statements) (Sent ch statements) := by
  induction statements with
  | nil =>
    refine Logs.pure.weaken ?_
    rintro s _ _ _ ⟨rfl, rfl, rfl⟩
    exact .done
  | cons t rest ih =>
    refine (ch.send_logs _ _).bind ?_ fun _ => ih.weaken ?_
    · rintro s e s' _ ⟨_ | _, reply, failed, rfl⟩
      · cases failed
        exact .failed reply
      · cases failed
    · rintro middle r s' after later s _ ⟨_ | _, reply, passed, rfl⟩
      · cases passed
      · exact .next reply later

theorem work_logs (ch : Channel σ) (table : String) (statements : List Sql.Statement) :
    Logs (do
        ch.sendAll statements
        ch.send (.checkForeignKeys table) (.ofStatement (foreignKeyQuery table)))
      (do
        ch.logged.sendAll statements
        ch.logged.send (.checkForeignKeys table) (.ofStatement (foreignKeyQuery table)))
      (Worked ch table statements) := by
  refine (ch.sendAll_logs statements).bind ?_ fun _ => (ch.send_logs _ _).weaken ?_
  · intro s e s' log sent
    exact .stopped sent
  · rintro middle _ s' _ ⟨_ | _, reply, rfl, rfl⟩ s before sent
    · exact .unchecked sent reply
    · exact .checked sent reply

/-- Work after which, if it failed, the transaction was given up. -/
inductive Rescued (ch : Channel σ) (P : σ → Except Error α → σ → List (Exchange σ) → Prop) :
    σ → Except Error α → σ → List (Exchange σ) → Prop where
  | passed (work : P s (.ok a) s' log) : Rescued ch P s (.ok a) s' log
  | abandoned (work : P s (.error e) last log)
      (undone : ch.perform .rollback last = (undo, s')) :
      Rescued ch P s (.error e) s' (log ++ [⟨last, .rollback, undo⟩])

theorem Logs.rescue {plain : ExceptT Error (StateM σ) α}
    {noted : ExceptT Error (StateM (σ × List (Exchange σ))) α}
    {P : σ → Except Error α → σ → List (Exchange σ) → Prop} (logs : Logs plain noted P) :
    Logs (MonadExcept.tryCatch plain ch.abandon) (MonadExcept.tryCatch noted ch.logged.abandon)
      (Rescued ch P) := by
  refine logs.tryCatch (fun s a s' log work => .passed work) fun e =>
    (ch.abandon_logs e).weaken ?_
  rintro last _ s' _ ⟨rfl, undo, undone, rfl⟩ s log work
  exact .abandoned work undone

theorem transact_logs (ch : Channel σ) (table : String) (statements : List Sql.Statement) :
    Logs (ch.transact table statements) (ch.logged.transact table statements)
      (Transacted ch table statements) := by
  refine (ch.send_logs _ _).bind ?_ fun _ =>
    (ch.work_logs table statements).rescue.bind ?_ fun missing => ?_
  · rintro s e s' _ ⟨_ | _, reply, failed, rfl⟩
    · cases failed
      exact .unbegun reply
    · cases failed
  · rintro first e s' _ (_ | ⟨work, undone⟩) s _ ⟨_ | _, begun, passed, rfl⟩
    · cases passed
    · exact .abandoned begun work undone
  · by_cases some : 0 < missing
    · simp only [if_pos some]
      refine (ch.send_logs _ _).bind ?_ fun _ => Logs.throw.weaken ?_
      · rintro last e s' _ ⟨undo, undone, -, rfl⟩ first log ⟨work⟩ s _ ⟨_ | _, begun, passed, rfl⟩
        · cases passed
        · exact .violated begun work some undone
      · rintro s' _ _ _ ⟨rfl, rfl, rfl⟩ last _ ⟨undo, undone, -, rfl⟩ first log ⟨work⟩ s _
          ⟨_ | _, begun, passed, rfl⟩
        · cases passed
        · exact .violated begun work some undone
    · simp only [if_neg some]
      obtain rfl : missing = 0 := Nat.eq_zero_of_not_pos some
      refine (ch.send_logs _ _).rescue.weaken ?_
      rintro last r s' _ finish first log ⟨work⟩ s _ ⟨_ | _, begun, passed, rfl⟩
      · cases passed
      · rcases finish with ⟨_ | _, reply, result, rfl⟩ | ⟨⟨_ | _, reply, result, rfl⟩, undone⟩ <;>
          cases result
        · exact .committed begun work reply
        · exact .uncommitted begun work reply undone

end

end Channel

end Conform.Sqlite
