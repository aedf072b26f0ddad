import Conform.Proofs.Sqlite.Exchange
import Conform.Sqlite.Connection

/-! A rebuild is all or nothing, wherever it fails. The proof is about any channel that keeps the
laws of transactions, and the connection keeps them. -/
namespace Conform.Sqlite

/-- The side of a connection that transactions are about. -/
structure Link (δ : Type) where
  database : δ
  /-- The state to which an open transaction rolls back. -/
  saved : Option δ
  enforced : Bool

/-- What is left once an open transaction has been given up. -/
def Link.kept (l : Link δ) : δ := l.saved.getD l.database

theorem Link.kept_of_saved {l : Link δ} (saved : l.saved = some origin) : l.kept = origin := by
  rw [kept, saved, Option.getD_some]

/-- If the command is a statement, it is given while a transaction on `origin` is open and foreign
keys are not enforced. -/
def Exchange.Sheltered {σ δ : Type} (link : σ → Link δ) (origin : δ) (x : Exchange σ) : Prop :=
  ∀ t, x.command = .statement t →
    (link x.start).saved = some origin ∧ (link x.start).enforced = false

/-- Commands other than statements need no shelter. -/
theorem Exchange.Sheltered.other {σ δ : Type} {link : σ → Link δ} {origin : δ} {x : Exchange σ}
    (other : ∀ t, x.command ≠ .statement t) : x.Sheltered link origin := by
  intro t given
  exact absurd given (other t)

namespace Channel

section
variable {σ δ : Type} {ch : Channel σ} {link : σ → Link δ}

/-- The laws of transactions. What fails while one is open may roll it back already. -/
structure Transacts (ch : Channel σ) (link : σ → Link δ) : Prop where
  switched {on s r s'} : ch.perform (.enforceForeignKeys on) s = (r, s') →
    r = .ok () ∧
      link s' = if (link s).saved.isSome then link s else { link s with enforced := on }
  begun {s s'} : ch.perform .begin s = (.ok (), s') →
    (link s).saved = none ∧ link s' = { link s with saved := some (link s).database }
  unbegun {s e s'} : ch.perform .begin s = (.error e, s') → link s' = link s
  executed {s origin t s'} : (link s).saved = some origin →
    ch.perform (.statement t) s = (.ok (), s') →
    (link s').saved = some origin ∧ (link s').enforced = (link s).enforced
  checked {s table missing s'} : ch.perform (.checkForeignKeys table) s = (.ok missing, s') →
    link s' = link s
  committed {s origin s'} : (link s).saved = some origin →
    ch.perform .commit s = (.ok (), s') → link s' = { link s with saved := none }
  failed {s origin c e s'} : (link s).saved = some origin → ch.perform c s = (.error e, s') →
    (link s').kept = origin ∧ (link s').enforced = (link s).enforced
  rolledBack {s r s'} : ch.perform .rollback s = (r, s') →
    link s' = ⟨(link s).kept, none, (link s).enforced⟩

namespace Sent

theorem sheltered (laws : ch.Transacts link) (sent : Sent ch statements s r s' log)
    (opened : (link s).saved = some origin) (unenforced : (link s).enforced = false) :
    ∀ x ∈ log, x.Sheltered link origin := by
  induction sent with
  | done => simp
  | failed =>
    rw [List.forall_mem_singleton]
    exact fun _ _ => ⟨opened, unenforced⟩
  | next reply _ ih =>
    obtain ⟨still, same⟩ := laws.executed opened reply
    rw [List.forall_mem_cons]
    exact ⟨fun _ _ => ⟨opened, unenforced⟩, ih still (same.trans unenforced)⟩

theorem passed (laws : ch.Transacts link) (sent : Sent ch statements s r s' log)
    (opened : (link s).saved = some origin) (ok : r = .ok ()) :
    ch.sendAll statements s = (.ok (), s') ∧ (link s').saved = some origin ∧
      (link s').enforced = (link s).enforced ∧
      log.map (·.said) = statements.map fun t => ⟨.statement t, .ok ()⟩ := by
  induction sent with
  | done => exact ⟨rfl, opened, rfl, rfl⟩
  | failed => cases ok
  | @next t s middle rest r s' log reply _ ih =>
    obtain ⟨still, same⟩ := laws.executed opened reply
    obtain ⟨ran, opened, enforced, said⟩ := ih still ok
    refine ⟨?_, opened, enforced.trans same, ?_⟩
    · rw [sendAll]
      simp only [Bind.bind, ExceptT.bind, ExceptT.mk, StateT.bind, send, reply]
      exact ran
    · rw [List.map_cons, List.map_cons, said]
      rfl

theorem broken (laws : ch.Transacts link) (sent : Sent ch statements s r s' log)
    (opened : (link s).saved = some origin) (failed : r = .error e) :
    (link s').kept = origin ∧ (link s').enforced = (link s).enforced ∧ ∃ x ∈ log, x.Failed := by
  induction sent with
  | done => cases failed
  | failed reply =>
    obtain ⟨kept, enforced⟩ := laws.failed opened reply
    exact ⟨kept, enforced, _, List.mem_cons_self, _, rfl⟩
  | next reply _ ih =>
    obtain ⟨still, same⟩ := laws.executed opened reply
    obtain ⟨kept, enforced, x, member, unable⟩ := ih still failed
    exact ⟨kept, enforced.trans same, x, List.mem_cons_of_mem _ member, unable⟩

end Sent

namespace Worked

theorem sheltered (laws : ch.Transacts link) (work : Worked ch table statements s r s' log)
    (opened : (link s).saved = some origin) (unenforced : (link s).enforced = false) :
    ∀ x ∈ log, x.Sheltered link origin := by
  cases work with
  | stopped sent => exact sent.sheltered laws opened unenforced
  | unchecked sent | checked sent =>
    rw [List.forall_mem_append, List.forall_mem_singleton]
    exact ⟨sent.sheltered laws opened unenforced, .other (by rintro _ ⟨⟩)⟩

theorem passed (laws : ch.Transacts link)
    (work : Worked ch table statements s (.ok missing) s' log)
    (opened : (link s).saved = some origin) :
    (∃ middle, ch.sendAll statements s = (.ok (), middle) ∧ link s' = link middle) ∧
      (link s').saved = some origin ∧ (link s').enforced = (link s).enforced ∧
      log.map (·.said) = (statements.map fun t => ⟨.statement t, .ok ()⟩) ++
        [⟨.checkForeignKeys table, .ok missing⟩] := by
  obtain _ | _ | ⟨sent, reply⟩ := work
  obtain ⟨ran, still, enforced, said⟩ := sent.passed laws opened rfl
  have same := laws.checked reply
  refine ⟨⟨_, ran, same⟩, by rw [same, still], by rw [same, enforced], ?_⟩
  rw [List.map_append, said]
  rfl

theorem broken (laws : ch.Transacts link)
    (work : Worked ch table statements s (.error e) s' log)
    (opened : (link s).saved = some origin) :
    (link s').kept = origin ∧ (link s').enforced = (link s).enforced ∧ ∃ x ∈ log, x.Failed := by
  rcases work with ⟨sent⟩ | ⟨sent, reply⟩ | _
  · exact sent.broken laws opened rfl
  · obtain ⟨-, still, same, -⟩ := sent.passed laws opened rfl
    obtain ⟨kept, enforced⟩ := laws.failed still reply
    exact ⟨kept, enforced.trans same, _, List.mem_append_right _ List.mem_cons_self, _, rfl⟩

end Worked

/-- Nothing is left of a transaction that is rolled back. -/
theorem Transacts.undone (laws : ch.Transacts link) (reply : ch.perform .begin s = (.ok (), first))
    (kept : (link last).kept = (link first).database)
    (enforced : (link last).enforced = (link first).enforced)
    (undone : ch.perform .rollback last = (undo, s')) : link s' = link s := by
  obtain ⟨none, opened⟩ := laws.begun reply
  rw [opened] at kept enforced
  rw [laws.rolledBack undone, kept, enforced, ← none]

namespace Transacted

theorem sheltered (laws : ch.Transacts link) (went : Transacted ch table statements s r s' log)
    (unenforced : (link s).saved = none → (link s).enforced = false) :
    ∀ x ∈ log, x.Sheltered link (link s).database := by
  have unbegun (reply) : (⟨s, .begin, reply⟩ : Exchange σ).Sheltered link (link s).database :=
    .other (by rintro _ ⟨⟩)
  have inside {first r last log} (begun : ch.perform .begin s = (.ok (), first))
      (work : Worked ch table statements first r last log) :
      ∀ x ∈ log, x.Sheltered link (link s).database := by
    obtain ⟨none, opened⟩ := laws.begun begun
    exact work.sheltered laws (by rw [opened]) (by rw [opened]; exact unenforced none)
  cases went with
  | unbegun => exact List.forall_mem_singleton.mpr (unbegun _)
  | abandoned begun work | violated begun work | uncommitted begun work | committed begun work =>
    simp only [List.forall_mem_cons, List.forall_mem_append, List.not_mem_nil]
    refine ⟨unbegun _, inside begun work, ?_⟩
    simp [Exchange.Sheltered]

theorem restored (laws : ch.Transacts link)
    (went : Transacted ch table statements s (.error e) s' log) :
    link s' = link s ∧ ∃ x ∈ log, x.Failed ∨
      ∃ missing, 0 < missing ∧ x.said = ⟨.checkForeignKeys table, .ok missing⟩ := by
  have opened {first} (begun : ch.perform .begin s = (.ok (), first)) :
      (link first).saved = some (link first).database := by rw [(laws.begun begun).2]
  rcases went with reply | ⟨begun, work, undone⟩ | ⟨begun, work, some, undone⟩ |
    ⟨begun, work, refused, undone⟩ | _
  · exact ⟨laws.unbegun reply, _, List.mem_cons_self, .inl ⟨_, rfl⟩⟩
  · obtain ⟨kept, enforced, x, member, failed⟩ := work.broken laws (opened begun)
    refine ⟨laws.undone begun kept enforced undone, x, ?_, .inl failed⟩
    exact List.mem_cons_of_mem _ (List.mem_append_left _ member)
  · obtain ⟨-, still, enforced, said⟩ := work.passed laws (opened begun)
    obtain ⟨x, member, found⟩ := List.mem_map.mp
      (said ▸ List.mem_append_right _ List.mem_cons_self)
    have kept := Link.kept_of_saved still
    refine ⟨laws.undone begun kept enforced undone, x, ?_, .inr ⟨_, some, found⟩⟩
    exact List.mem_cons_of_mem _ (List.mem_append_left _ member)
  · obtain ⟨-, still, same, -⟩ := work.passed laws (opened begun)
    obtain ⟨kept, enforced⟩ := laws.failed still refused
    exact ⟨laws.undone begun kept (enforced.trans same) undone, _,
      List.mem_cons_of_mem _ (List.mem_append_right _ List.mem_cons_self), .inl ⟨_, rfl⟩⟩

theorem passed (laws : ch.Transacts link)
    (went : Transacted ch table statements s (.ok ()) s' log) :
    (∃ first last, link first = { link s with saved := some (link s).database } ∧
      ch.sendAll statements first = (.ok (), last) ∧
      link s' = { link last with saved := none }) ∧
      (link s).saved = none ∧ (link s').enforced = (link s).enforced ∧
      log.map (·.said) = ⟨.begin, .ok ()⟩ :: (statements.map (fun t => ⟨.statement t, .ok ()⟩) ++
        [⟨.checkForeignKeys table, .ok 0⟩, ⟨.commit, .ok ()⟩]) := by
  cases went with
  | @committed first last log _ begun work reply =>
    obtain ⟨none, opened⟩ := laws.begun begun
    have saved : (link first).saved = some (link s).database := by rw [opened]
    obtain ⟨⟨middle, ran, same⟩, still, enforced, said⟩ := work.passed laws saved
    have committed := laws.committed still reply
    refine ⟨⟨first, middle, opened, ran, by rw [committed, same]⟩, none, ?_, ?_⟩
    · rw [committed, enforced, opened]
    · rw [List.map_cons, List.map_append, said, List.append_assoc]
      rfl

end Transacted

/-- A switch of enforcement is lost in an open transaction, and does nothing else. -/
theorem Transacts.switch (laws : ch.Transacts link)
    (reply : ch.perform (.enforceForeignKeys on) s = (r, s')) :
    (link s').database = (link s).database ∧ (link s').saved = (link s).saved ∧
      (link s').enforced = if (link s).saved.isSome then (link s).enforced else on := by
  obtain ⟨-, switched⟩ := laws.switched reply
  rw [switched]
  split
  · exact ⟨rfl, rfl, rfl⟩
  · exact ⟨rfl, rfl, rfl⟩

/-- A transaction leaves no transaction of its own open, and does not touch enforcement. -/
theorem Transacted.settled (laws : ch.Transacts link)
    (went : Transacted ch table statements s r s' log) :
    (link s').saved = (link s).saved ∧ (link s').enforced = (link s).enforced := by
  cases r with
  | error e =>
    obtain ⟨same, -⟩ := went.restored laws
    rw [same]
    exact ⟨rfl, rfl⟩
  | ok =>
    obtain ⟨⟨_, _, -, -, ended⟩, none, enforced, -⟩ := went.passed laws
    refine ⟨?_, enforced⟩
    rw [ended, none]

/-- A rebuild is a transaction between two switches of enforcement. -/
theorem Transacts.rebuild_logs (laws : ch.Transacts link) (table : String)
    (statements : List Sql.Statement) :
    Logs (ch.rebuild table statements) (ch.logged.rebuild table statements) fun s r s' log =>
      ∃ first last inner, ch.perform (.enforceForeignKeys false) s = (.ok (), first) ∧
        Transacted ch table statements first r last inner ∧
        ch.perform (.enforceForeignKeys true) last = (.ok (), s') ∧
        log = ⟨s, .enforceForeignKeys false, .ok ()⟩ ::
          (inner ++ [⟨last, .enforceForeignKeys true, .ok ()⟩]) := by
  refine (ch.send_logs _ _).bind ?_ fun _ =>
    (ch.transact_logs table statements).andAlways ((ch.send_logs _ _).weaken ?_)
  · rintro s e s' _ ⟨reply, off, failed, -⟩
    obtain ⟨rfl, -⟩ := laws.switched off
    cases failed
  · rintro last _ s' _ ⟨restored, on, rfl, rfl⟩ first r inner went s _ ⟨reply, off, -, rfl⟩
    obtain ⟨rfl, -⟩ := laws.switched on
    obtain ⟨rfl, -⟩ := laws.switched off
    refine ⟨first, last, inner, off, ?_, on, rfl⟩
    cases r <;> exact went

/-- The channel, with commands that fail instead of being performed. -/
def failing (ch : Channel σ) (fault : Command → Option Failure) : Channel σ where
  perform c s := match fault c with
    | some e => (.error e, s)
    | none => ch.perform c s

/-- The laws hold wherever commands fail, if enforcement can be switched and what is not committed
is rolled back. -/
theorem Transacts.failing (laws : ch.Transacts link) {fault : Command → Option Failure}
    (switches : ∀ on, fault (.enforceForeignKeys on) = none) (undoes : fault .rollback = none) :
    (ch.failing fault).Transacts link := by
  have passed {c s a s'} (reply : (ch.failing fault).perform c s = (.ok a, s')) :
      ch.perform c s = (.ok a, s') := by
    simp only [Channel.failing] at reply
    split at reply
    · cases reply
    · exact reply
  have failed {c s e s'} (reply : (ch.failing fault).perform c s = (.error e, s')) :
      s' = s ∨ ch.perform c s = (.error e, s') := by
    simp only [Channel.failing] at reply
    split at reply
    · cases reply
      exact .inl rfl
    · exact .inr reply
  exact {
    switched := fun reply => laws.switched (by simpa [Channel.failing, switches] using reply)
    begun := fun reply => laws.begun (passed reply)
    unbegun := by
      intro s e s' reply
      rcases failed reply with rfl | reply
      · rfl
      · exact laws.unbegun reply
    executed := fun saved reply => laws.executed saved (passed reply)
    checked := fun reply => laws.checked (passed reply)
    committed := fun saved reply => laws.committed saved (passed reply)
    failed := by
      intro s origin c e s' saved reply
      rcases failed reply with rfl | reply
      · exact ⟨Link.kept_of_saved saved, rfl⟩
      · exact laws.failed saved reply
    rolledBack := fun reply => laws.rolledBack (by simpa [Channel.failing, undoes] using reply) }

end

end Channel

namespace Connection

def link (s : Connection) : Link Database := ⟨s.database, s.saved, s.enforced⟩

/-- Statements change nothing but the database. -/
theorem executeOne_link (s : Connection) (t : Sql.Statement) :
    (s.executeOne t).2.saved = s.saved ∧ (s.executeOne t).2.enforced = s.enforced := by
  rw [executeOne]
  split
  · exact ⟨rfl, rfl⟩
  · split
    · exact ⟨rfl, rfl⟩
    · exact ⟨rfl, rfl⟩

theorem executeAll_link (s : Connection) (statements : List Sql.Statement) :
    (s.executeAll statements).2.saved = s.saved ∧
      (s.executeAll statements).2.enforced = s.enforced := by
  induction statements generalizing s with
  | nil => exact ⟨rfl, rfl⟩
  | cons t rest ih =>
    obtain ⟨saved, enforced⟩ := s.executeOne_link t
    rw [executeAll]
    rcases ran : s.executeOne t with ⟨_ | _, later⟩ <;> rw [ran] at saved enforced
    · exact ⟨saved, enforced⟩
    · obtain ⟨still, same⟩ := ih later
      exact ⟨still.trans saved, same.trans enforced⟩

theorem execute_link (s : Connection) (t : Sql.Statement) :
    (s.execute t).2.saved = s.saved ∧ (s.execute t).2.enforced = s.enforced := by
  rw [execute.eq_def]
  split
  · exact s.executeAll_link _
  · exact s.executeOne_link _

/-- A connection keeps the laws of transactions. -/
theorem transacts : channel.Transacts link where
  switched := by
    intro on s r s' reply
    cases reply
    refine ⟨rfl, ?_⟩
    split <;> simp_all [link]
  begun := by
    intro s s' reply
    simp only [channel] at reply
    split at reply <;> cases reply
    exact ⟨‹_›, rfl⟩
  unbegun := by
    intro s e s' reply
    simp only [channel] at reply
    split at reply <;> cases reply
    rfl
  executed := by
    intro s origin t s' saved reply
    obtain ⟨still, same⟩ := s.execute_link t
    rw [show s.execute t = _ from reply] at still same
    exact ⟨still.trans saved, same⟩
  checked := by
    intro s table missing s' reply
    obtain rfl : s = s' := congrArg Prod.snd reply
    rfl
  committed := by
    intro s origin s' saved reply
    simp only [channel] at reply
    split at reply <;> cases reply
    rfl
  failed := by
    intro s origin c e s' saved reply
    cases c with
    | enforceForeignKeys => cases reply
    | statement t =>
      obtain ⟨still, same⟩ := s.execute_link t
      rw [show s.execute t = _ from reply] at still same
      exact ⟨Link.kept_of_saved (still.trans saved), same⟩
    | checkForeignKeys =>
      obtain rfl : s = s' := congrArg Prod.snd reply
      exact ⟨Link.kept_of_saved saved, rfl⟩
    | begin =>
      simp only [channel] at reply
      split at reply <;> cases reply
      exact ⟨Link.kept_of_saved saved, rfl⟩
    | commit | rollback =>
      simp only [channel] at reply
      split at reply <;> cases reply
      exact ⟨Link.kept_of_saved saved, rfl⟩
  rolledBack := by
    intro s r s' reply
    simp only [channel] at reply
    split at reply <;> cases reply
    · simp [link, Link.kept, *]
    · simp [link, Link.kept, *]

end Connection

namespace Channel

variable {σ δ : Type} {ch : Channel σ} {link : σ → Link δ}

/-- A rebuild is all or nothing. It succeeds only if every statement was performed, in order, in one
transaction that was then found to miss no parent and committed. It fails only if a command failed
or a parent was missing, and the database is then as before. Either way foreign keys are enforced
again, and no statement was given outside the transaction or while they were. -/
theorem rebuild_all_or_nothing (laws : ch.Transacts link) (enforced : (link s).enforced = true)
    (table : String) (statements : List Sql.Statement) :
    ∃ r s' log, ch.rebuild table statements s = (r, s') ∧
      ch.logged.rebuild table statements (s, []) = (r, s', log) ∧
      (r = .ok () →
        log.map (·.said) =
          [⟨.enforceForeignKeys false, .ok ()⟩, ⟨.begin, .ok ()⟩] ++
            statements.map (fun t => ⟨.statement t, .ok ()⟩) ++
            [⟨.checkForeignKeys table, .ok 0⟩, ⟨.commit, .ok ()⟩,
              ⟨.enforceForeignKeys true, .ok ()⟩] ∧
        ∃ first last, (link first).database = (link s).database ∧
          ch.sendAll statements first = (.ok (), last) ∧
          (link s').database = (link last).database) ∧
      (∀ e, r = .error e → (link s').database = (link s).database ∧
        ∃ x ∈ log, x.Failed ∨
          ∃ missing, 0 < missing ∧ x.said = ⟨.checkForeignKeys table, .ok missing⟩) ∧
      (link s').enforced = true ∧ (link s').saved = (link s).saved ∧
      ∀ x ∈ log, x.Sheltered link (link s).database := by
  obtain ⟨r, s', _, ran, noted, first, last, log, off, went, on, rfl⟩ :=
    laws.rebuild_logs table statements s []
  obtain ⟨sameFirst, savedFirst, enforcedFirst⟩ := laws.switch off
  obtain ⟨sameLast, savedLast, enforcedLast⟩ := laws.switch on
  obtain ⟨settled, untouched⟩ := went.settled laws
  refine ⟨r, s', _, ran, noted, ?_, ?_, ?_, by rw [savedLast, settled, savedFirst], ?_⟩
  · rintro rfl
    obtain ⟨⟨begun, ended, opened, sent, committed⟩, -, -, said⟩ := went.passed laws
    refine ⟨?_, begun, ended, by rw [opened, sameFirst], sent, by rw [sameLast, committed]⟩
    simp only [List.nil_append, List.map_cons, List.map_append, List.cons_append, said,
      List.append_assoc]
    rfl
  · rintro e rfl
    obtain ⟨same, x, member, why⟩ := went.restored laws
    refine ⟨by rw [sameLast, same, sameFirst], x, ?_, why⟩
    exact List.mem_cons_of_mem _ (List.mem_append_left _ member)
  · rw [enforcedLast, untouched, enforcedFirst, settled, savedFirst]
    split
    · exact enforced
    · rfl
  · have unenforced (none : (link first).saved = none) : (link first).enforced = false := by
      rw [enforcedFirst, ← savedFirst, none]
      rfl
    have inside := went.sheltered laws unenforced
    rw [sameFirst] at inside
    rw [List.nil_append, List.forall_mem_cons, List.forall_mem_append, List.forall_mem_singleton]
    exact ⟨.other (by rintro _ ⟨⟩), inside, .other (by rintro _ ⟨⟩)⟩

end Channel

namespace Connection

/-- A table without rows. -/
private def emptyTable (name : String) : Table where
  definition.name := name
  definition.columns := [{ name := "note" }]
  definition.opening := name ++ "(note"
  definition.ending := ")"

private def stocked : Connection where
  database.tables := [emptyTable "T", emptyTable "U"]

private def commitFails : Command → Option Failure
  | .commit => some (.reported "disk I/O error")
  | _ => none

/-- A table that was dropped in a rebuild is there again after the commit fails. -/
theorem uncommitted_rebuild_undone :
    let rebuild ch := Channel.rebuild ch "T" [.dropTable "U" false false] stocked
    ((rebuild channel).1.isOk ∧ ((rebuild channel).2.database.table? "U").isNone) ∧
      (rebuild (channel.failing commitFails)).1.isOk = false ∧
      (rebuild (channel.failing commitFails)).2.database = stocked.database ∧
      (rebuild (channel.failing commitFails)).2.enforced = true := by
  intro rebuild
  have laws : (channel.failing commitFails).Transacts link :=
    transacts.failing (fun _ => rfl) rfl
  have begun : (link stocked).enforced = true := by decide +kernel
  obtain ⟨r, s', log, ran, -, -, undone, enforced, -⟩ :=
    Channel.rebuild_all_or_nothing laws begun "T" [.dropTable "U" false false]
  have failed : (rebuild (channel.failing commitFails)).1.isOk = false := by decide +kernel
  refine ⟨by decide +kernel, failed, ?_⟩
  simp only [rebuild, ran] at failed ⊢
  cases r with
  | ok => cases failed
  | error e => exact ⟨(undone e rfl).1, enforced⟩

end Connection

end Conform.Sqlite
