import Conform.Proofs.Session
import Conform.Reconcile

/-! The traces that work on one table can leave. A derivation lists everything that a drop or a
reconciliation may do, with the outcome that goes with it and the guards on the way; the functions
themselves leave no other traces. -/
namespace Conform

section
variable {σ : Type} (b : Backend σ)

/-- Statements executed one after another, up to the first that fails. -/
inductive Executed : List Sql.Statement → Except Error Unit → List Event → Prop where
  | done : Executed [] (.ok ()) []
  | failed (fails : b.FailsWith (.execute statement) e) :
      Executed (statement :: rest) (.error e) [.called (.execute statement) (.error e)]
  | next (later : Executed rest r events) :
      Executed (statement :: rest) r (.called (.execute statement) (.ok ()) :: events)

/-- Statements that are executed or, in a dry run, only listed. -/
inductive Applied (statements : List Sql.Statement) :
    (dryRun : Bool) → Except Error (List Sql.Statement) → List Event → Prop where
  | planned : Applied statements true (.ok statements) []
  | executed (run : Executed b statements r events) :
      Applied statements false (r.map fun _ => statements) events

/-- The rows of a table are counted and the gate rules on them. -/
inductive Checked (g : Gate) (table : String) (peril : Peril) :
    Except Error Decision → List Event → Prop where
  | uncounted (fails : b.FailsWith (.rowCount table) e) :
      Checked g table peril (.error e) [.called (.rowCount table) (.error e)]
  | tooLarge (large : rowLimit ≤ rows) :
      Checked g table peril (.error (.tableTooLarge table rows))
        [.called (.rowCount table) (.ok rows), .ruled ⟨table, rows, peril⟩ .tooLarge]
  | authorized (small : rows < rowLimit) (latched : g.latched = true) :
      Checked g table peril (.ok .proceed)
        [.called (.rowCount table) (.ok rows), .ruled ⟨table, rows, peril⟩ .authorized]
  | allowed (small : rows < rowLimit) (unlatched : g.latched = false)
      (given : g.answers.head? = some answer) (yes : answer ≠ .no) :
      Checked g table peril (.ok .proceed)
        [.called (.rowCount table) (.ok rows), .ruled ⟨table, rows, peril⟩ (.answered answer)]
  | declined (small : rows < rowLimit) (unlatched : g.latched = false)
      (given : g.answers.head?.getD .no = .no) :
      Checked g table peril (.ok .declined)
        [.called (.rowCount table) (.ok rows), .ruled ⟨table, rows, peril⟩ (.answered .no)]

/-- The drop of a table for a forced reset. -/
inductive DropTrace (table : String) (g : Gate) :
    (dryRun : Bool) → Except Error Outcome → List Event → Prop where
  | planned : DropTrace table g true (.ok (.dropped (b.dialect.render (.dropTable table true)))) []
  | stopped (check : Checked b g table .drop (.error e) events) :
      DropTrace table g false (.error e) events
  | declined (check : Checked b g table .drop (.ok .declined) events) :
      DropTrace table g false (.ok .dropDeclined) events
  | dropped (check : Checked b g table .drop (.ok .proceed) before)
      (run : Executed b (b.dialect.render (.dropTable table true)) r after) :
      DropTrace table g false (r.map fun _ => .dropped (b.dialect.render (.dropTable table true)))
        (before ++ after)

/-- The statements of a rebuild are made from the current definition of the table. -/
inductive Prepared (table : String) (steps : Rebuild) :
    Except Error (List Sql.Statement) → List Event → Prop where
  | undefined (fails : b.FailsWith (.previousDefinition table (asideName table)) e) :
      Prepared table steps (.error e)
        [.called (.previousDefinition table (asideName table)) (.error e)]
  | defined : Prepared table steps
      (.ok (b.rebuildSteps table (.createLike table (asideName table) text) steps))
      [.called (.previousDefinition table (asideName table)) (.ok text)]

/-- The rebuild of a table. -/
inductive RebuildTrace (table : String) (reasons : List Reason) (steps : Rebuild) (g : Gate) :
    Except Error Outcome → List Event → Prop where
  | stopped (check : Checked b g table .rebuild (.error e) events) :
      RebuildTrace table reasons steps g (.error e) events
  | declined (check : Checked b g table .rebuild (.ok .declined) events) :
      RebuildTrace table reasons steps g (.ok (.rebuildDeclined reasons)) events
  | undefined (check : Checked b g table .rebuild (.ok .proceed) before)
      (prepared : Prepared b table steps (.error e) after) :
      RebuildTrace table reasons steps g (.error e) (before ++ after)
  | failed (check : Checked b g table .rebuild (.ok .proceed) before)
      (prepared : Prepared b table steps (.ok statements) after)
      (fails : b.FailsWith (.executeRebuild table statements) e) :
      RebuildTrace table reasons steps g (.error e)
        (before ++ (after ++ [.called (.executeRebuild table statements) (.error e)]))
  | rebuilt (check : Checked b g table .rebuild (.ok .proceed) before)
      (prepared : Prepared b table steps (.ok statements) after) :
      RebuildTrace table reasons steps g (.ok (.rebuilt reasons statements))
        (before ++ (after ++ [.called (.executeRebuild table statements) (.ok ())]))

/-- The reconciliation of a table with the live state that was read before. -/
inductive ReconcileTrace (t : Schema.Table) (live : Option Live.Table) (g : Gate) :
    (dryRun : Bool) → Except Error Outcome → List Event → Prop where
  | unplanned (plan : b.dialect.plan t live = .error e) :
      ReconcileTrace t live g dryRun (.error e) []
  | created (plan : b.dialect.plan t live = .ok (.create operations))
      (run : Applied b (b.applicable operations) dryRun r events) :
      ReconcileTrace t live g dryRun (r.map .created) events
  | unchanged (plan : b.dialect.plan t live = .ok (.alter [])) :
      ReconcileTrace t live g dryRun (.ok .unchanged) []
  | altered (plan : b.dialect.plan t live = .ok (.alter operations)) (some : operations ≠ [])
      (run : Applied b (b.applicable operations) dryRun r events) :
      ReconcileTrace t live g dryRun (r.map .altered) events
  | planned (plan : b.dialect.plan t live = .ok (.rebuild reasons steps))
      (prepared : Prepared b t.name steps r events) :
      ReconcileTrace t live g true (r.map (.rebuilt reasons)) events
  | rebuilt (plan : b.dialect.plan t live = .ok (.rebuild reasons steps))
      (run : RebuildTrace b t.name reasons steps g r events) :
      ReconcileTrace t live g false r events

end

/-- Where a list is cut at an element that its first part does not have, the cut is further on. -/
theorem cut_after {before after first second : List α}
    (cut : first ++ second = before ++ a :: after) (absent : a ∉ first) :
    ∃ rest, before = first ++ rest ∧ second = rest ++ a :: after := by
  rcases List.append_eq_append_iff.mp cut with ⟨rest, same, later⟩ | ⟨rest, same, later⟩
  · exact ⟨rest, same, later⟩
  · cases rest with
    | nil => exact ⟨[], by simpa using same.symm, by simpa using later.symm⟩
    | cons head rest =>
      obtain ⟨rfl, _⟩ := List.cons.inj later
      exact absurd (same ▸ List.mem_append_right _ List.mem_cons_self) absent

/-- The event belongs to the check of a table. -/
def Event.isCheck : Event → Bool
  | called (.rowCount _) _ | ruled _ _ => true
  | called _ _ => false

section
variable {σ : Type} {b : Backend σ}

theorem Executed.mem (run : Executed b statements r events) (member : event ∈ events) :
    ∃ statement ∈ statements, ∃ result, event = .called (.execute statement) result := by
  induction run with
  | done => simp at member
  | failed =>
    rw [List.mem_singleton] at member
    exact ⟨_, List.mem_cons_self, _, member⟩
  | next _ ih =>
    rcases List.mem_cons.mp member with same | member
    · exact ⟨_, List.mem_cons_self, _, same⟩
    · obtain ⟨statement, listed, result, same⟩ := ih member
      exact ⟨statement, List.mem_cons_of_mem _ listed, result, same⟩

theorem Applied.mem (run : Applied b statements dryRun r events) (member : event ∈ events) :
    ∃ statement ∈ statements, ∃ result, event = .called (.execute statement) result := by
  cases run with
  | planned => simp at member
  | executed run => exact run.mem member

theorem Checked.isCheck (check : Checked b g table peril r events) (member : event ∈ events) :
    event.isCheck = true := by
  cases check <;> simp only [List.mem_cons, List.not_mem_nil, or_false] at member <;>
    rcases member with rfl | rfl <;> rfl

theorem Prepared.mem (prepared : Prepared b table steps r events) (member : event ∈ events) :
    ∃ result, event = .called (.previousDefinition table (asideName table)) result := by
  cases prepared <;> exact ⟨_, List.mem_singleton.mp member⟩

end

namespace Backend

variable {σ : Type} (b : Backend σ)

theorem executeAll_does (statements : List Sql.Statement) (g : Gate) :
    (b.executeAll statements).Does g (Executed b statements) := by
  induction statements generalizing g with
  | nil => exact .pure .done
  | cons statement rest ih =>
    refine .bind (b.call_does _ g) ?failed ?passed
    case failed => rintro e _ ⟨rfl, fails⟩; exact .failed (fails e rfl)
    case passed => rintro _ _ ⟨rfl, _⟩; exact (ih g).weaken fun _ _ later => .next later

theorem apply_does (operations : List Operation) (dryRun : Bool) (g : Gate) :
    (b.apply operations dryRun).Does g (Applied b (b.applicable operations) dryRun) := by
  cases dryRun with
  | true => exact .pure .planned
  | false =>
    refine .bind (b.executeAll_does _ g) ?failed ?passed
    case failed => intro e events run; exact .executed run
    case passed => intro _ events run; exact .pure (by simpa using .executed run)

/-- Once the rows are counted, the gate settles the rest. -/
private theorem checked_of_rule (g : Gate) (table : String) (peril : Peril) (rows : Nat) :
    Checked b g table peril ((g.rule ⟨table, rows, peril⟩).decision ⟨table, rows, peril⟩)
      [.called (.rowCount table) (.ok rows),
        .ruled ⟨table, rows, peril⟩ (g.rule ⟨table, rows, peril⟩)] := by
  simp only [Gate.rule]
  by_cases large : rowLimit ≤ rows
  · simpa only [large, ↓reduceIte] using .tooLarge large
  · have small : rows < rowLimit := Nat.lt_of_not_le large
    cases latched : g.latched with
    | true => simpa only [large, ↓reduceIte] using .authorized small latched
    | false =>
      simp only [large, ↓reduceIte, Bool.false_eq_true]
      cases given : g.answers.head? with
      | none => exact .declined small latched (by simp [given])
      | some answer =>
        cases answer with
        | no => exact .declined small latched (by simp [given])
        | yes => exact .allowed small latched given (by decide)
        | yesToAll => exact .allowed small latched given (by decide)

/-- Counting the rows and asking the gate come before all that depends on the decision. -/
theorem checked_does {P : Except Error α → List Event → Prop} {next : Decision → Run σ α}
    {table : String} {peril : Peril}
    (stopped : ∀ e events, Checked b g table peril (.error e) events → P (.error e) events)
    (passed : ∀ decision before, Checked b g table peril (.ok decision) before →
      (next decision).Does (g.after before) fun r after => P r (before ++ after)) :
    Run.Does (do
      let rows ← b.call (.rowCount table)
      next (← consult ⟨table, rows, peril⟩)) g P := by
  refine .bind (b.call_does _ g) ?uncounted ?counted
  case uncounted => rintro e _ ⟨rfl, fails⟩; exact stopped _ _ (.uncounted (fails e rfl))
  case counted =>
    rintro rows _ ⟨rfl, _⟩
    have settled := checked_of_rule b g table peril rows
    refine .bind (consult_does _ g) ?refused ?decided
    case refused =>
      rintro e _ ⟨ruled, rfl⟩
      rw [← ruled] at settled
      exact stopped _ _ settled
    case decided =>
      rintro decision _ ⟨ruled, rfl⟩
      rw [← ruled] at settled
      exact passed _ _ settled

theorem dropTable_does (table : String) (dryRun : Bool) (g : Gate) :
    (b.dropTable table dryRun).Does g (DropTrace b table g dryRun) := by
  cases dryRun with
  | true => exact .pure .planned
  | false =>
    refine b.checked_does (fun _ _ check => .stopped check) ?_
    intro decision before check
    cases decision with
    | declined => exact .pure (by simpa using .declined check)
    | proceed =>
      refine .bind (b.executeAll_does _ _) ?failed ?passed
      case failed => intro e after run; exact .dropped check run
      case passed =>
        intro _ after run
        exact .pure (by simpa using .dropped check run)

theorem rebuildStatements_does (table : String) (steps : Rebuild) (g : Gate) :
    (b.rebuildStatements table steps).Does g (Prepared b table steps) := by
  refine .bind (b.call_does _ g) ?undefined ?defined
  case undefined => rintro e _ ⟨rfl, fails⟩; exact .undefined (fails e rfl)
  case defined => rintro text _ ⟨rfl, _⟩; exact .pure .defined

theorem rebuildTable_does (table : String) (reasons : List Reason) (steps : Rebuild) (g : Gate) :
    (b.rebuildTable table reasons steps).Does g (RebuildTrace b table reasons steps g) := by
  refine b.checked_does (fun _ _ check => .stopped check) ?_
  intro decision before check
  cases decision with
  | declined => exact .pure (by simpa using .declined check)
  | proceed =>
    refine .bind (b.rebuildStatements_does table steps _) ?undefined ?defined
    case undefined => intro e after prepared; exact .undefined check prepared
    case defined =>
      intro statements after prepared
      refine .bind (b.call_does _ _) ?failed ?passed
      case failed => rintro e _ ⟨rfl, fails⟩; exact .failed check prepared (fails e rfl)
      case passed => rintro _ _ ⟨rfl, _⟩; exact .pure (by simpa using .rebuilt check prepared)

theorem reconcileTable_does (t : Schema.Table) (live : Option Live.Table) (dryRun : Bool)
    (g : Gate) : (b.reconcileTable t live dryRun).Does g (ReconcileTrace b t live g dryRun) := by
  refine .bind (.ofResult (P := fun r events => r = b.dialect.plan t live ∧ events = [])
    ⟨rfl, rfl⟩) ?unplanned ?planned
  case unplanned => rintro e _ ⟨plan, rfl⟩; exact .unplanned plan.symm
  case planned =>
    rintro plan _ ⟨planned, rfl⟩
    simp only [List.nil_append, Gate.after_nil]
    match plan with
    | .create operations =>
      refine .bind (b.apply_does operations dryRun g) ?_ ?_
      · intro e events run; exact .created planned.symm run
      · intro statements events run
        exact .pure (by simpa using .created planned.symm run)
    | .alter [] => exact .pure (.unchanged planned.symm)
    | .alter (operation :: rest) =>
      refine .bind (b.apply_does (operation :: rest) dryRun g) ?_ ?_
      · intro e events run; exact .altered planned.symm (by simp) run
      · intro statements events run
        exact .pure (by simpa using .altered planned.symm (by simp) run)
    | .rebuild reasons steps =>
      cases dryRun with
      | true =>
        refine .bind (b.rebuildStatements_does t.name steps g) ?_ ?_
        · intro e events prepared; exact .planned planned.symm prepared
        · intro statements events prepared
          exact .pure (by simpa using .planned planned.symm prepared)
      | false =>
        exact (b.rebuildTable_does t.name reasons steps g).weaken
          fun _ _ run => .rebuilt planned.symm run

end Backend

end Conform
