import Conform.Proofs.Run.Step

/-! The gate stands before every loss of rows. In each step of a run, a statement that drops a table
for a reset and a rebuild come only after the rows of that very table were counted and the gate let
that count through. -/
namespace Conform

/-- The rows of a table are at stake when a reset executes a statement, and in any rebuild. -/
inductive Endangers : Task → Event → Prop where
  | drop : Endangers (.reset table) (.called (.execute statement) result)
  | rebuild : Endangers task (.called (.executeRebuild table statements) result)

/-- The gate lets a check through: it was latched before, or it asks and is told yes. -/
inductive Gate.Allows (g : Gate) : Ruling → Prop where
  | authorized (latched : g.latched = true) : Allows g .authorized
  | yes (unlatched : g.latched = false) (given : g.answers.head? = some .yes) :
      Allows g (.answered .yes)
  | yesToAll (unlatched : g.latched = false) (given : g.answers.head? = some .yesToAll) :
      Allows g (.answered .yesToAll)

/-- What keeps a step from its work: no count, a count that is too large, or a no. -/
inductive Event.Forbids : Event → Prop where
  | uncounted : Forbids (.called (.rowCount table) (.error e))
  | tooLarge (large : 10000 ≤ rows) : Forbids (.called (.rowCount table) (.ok rows))
  | declined : Forbids (.ruled check (.answered .no))

/-- Events that open with a successful count of few rows and with a ruling that lets them through.
A question is put only by a gate that is not latched, and only the one about this count. -/
def Cleared (g : Gate) (task : Task) (events : List Event) : Prop :=
  ∃ rows ruling rest,
    events = .called (.rowCount task.table) (.ok rows) ::
      .ruled ⟨task.table, rows, task.peril⟩ ruling :: rest ∧
    rows < 10000 ∧ g.Allows ruling ∧
    events.filterMap (·.question?) =
      if g.latched then [] else [s!"{task.peril.word} table {task.table} ({rows} rows)?"]

/-- A step of a run as the gate guards it. -/
structure Guarded {σ : Type} (b : Backend σ) (step : Step σ) : Prop where
  /-- Whatever endangers the rows comes after a check that let it through. -/
  cleared : ∀ before event after, step.events = before ++ event :: after →
    Endangers step.task event → Cleared step.start.gate step.task before
  /-- After a check that did not, nothing does. -/
  kept : (∃ event ∈ step.events, event.Forbids) →
    ∀ event ∈ step.events, ¬ Endangers step.task event
  /-- A reset executes the drop of its own table and nothing else. -/
  drops : step.task.isReset = true → ∀ statement result,
    .called (.execute statement) result ∈ step.events →
    statement ∈ b.dialect.render (.dropTable step.task.table true)
  /-- A rebuild is one of the table of the step, and no reset rebuilds. -/
  rebuilds : ∀ table statements result,
    .called (.executeRebuild table statements) result ∈ step.events →
    table = step.task.table ∧ step.task.isReset = false

section
variable {σ : Type} {b : Backend σ}

/-- What endangers rows is no part of a check. -/
theorem Endangers.isCheck (danger : Endangers task event) : event.isCheck = false := by
  cases danger <;> rfl

/-- What forbids the work is part of a check. -/
theorem Event.Forbids.isCheck {event : Event} (forbids : event.Forbids) : event.isCheck = true := by
  cases forbids <;> rfl

theorem Checked.harmless (check : Checked b g table peril r events) (member : event ∈ events) :
    ¬ Endangers task event := by
  intro danger
  have checked := check.isCheck member
  rw [danger.isCheck] at checked
  cases checked

/-- A rebuild of a table begins with a check, and works on once the check lets it. -/
theorem RebuildTrace.checked (run : RebuildTrace b table reasons steps g r events) :
    (∃ e, Checked b g table .rebuild e events) ∨
      ∃ check work, events = check ++ work ∧ Checked b g table .rebuild (.ok .proceed) check ∧
        ∀ event ∈ work,
          (∃ result, event = .called (.previousDefinition table (asideName table)) result) ∨
            ∃ statements result, event = .called (.executeRebuild table statements) result := by
  cases run with
  | stopped check => exact .inl ⟨_, check⟩
  | declined check => exact .inl ⟨_, check⟩
  | undefined check prepared =>
    exact .inr ⟨_, _, rfl, check, fun event member => .inl (prepared.mem member)⟩
  | failed check prepared | rebuilt check prepared =>
    refine .inr ⟨_, _, rfl, check, fun event member => ?_⟩
    rcases List.mem_append.mp member with member | member
    · exact .inl (prepared.mem member)
    · exact .inr ⟨_, _, List.mem_singleton.mp member⟩

/-- A step endangers nothing, or it begins with a check that lets it through. -/
theorem StepTrace.checked (trace : StepTrace b false task g r events) :
    (∀ event ∈ events, ¬ Endangers task event) ∨
      ∃ check work, events = check ++ work ∧
        Checked b g task.table task.peril (.ok .proceed) check ∧
        ∀ event ∈ work, event.isCheck = false := by
  cases task with
  | reset table =>
    cases trace with
    | stopped check => exact .inl fun _ member => check.harmless member
    | declined check => exact .inl fun _ member => check.harmless member
    | dropped check run =>
      refine .inr ⟨_, _, rfl, check, fun event member => ?_⟩
      obtain ⟨_, _, _, rfl⟩ := run.mem member
      rfl
  | reconcile t live =>
    cases trace with
    | unplanned | unchanged => exact .inl (by simp)
    | created _ run | altered _ _ run =>
      refine .inl fun event member => ?_
      obtain ⟨_, _, _, rfl⟩ := run.mem member
      rintro ⟨⟩
    | rebuilt _ run =>
      rcases run.checked with ⟨_, check⟩ | ⟨check, work, rfl, checked, working⟩
      · exact .inl fun _ member => check.harmless member
      · refine .inr ⟨check, work, rfl, checked, fun event member => ?_⟩
        rcases working event member with ⟨_, rfl⟩ | ⟨_, _, rfl⟩ <;> rfl

private theorem question_of_not_check {event : Event} (work : event.isCheck = false) :
    event.question? = none := by
  cases event with
  | called => rfl
  | ruled => cases work

/-- A check that lets the work through clears whatever part of it was done. -/
theorem Checked.cleared (check : Checked b g task.table task.peril (.ok .proceed) before)
    (working : ∀ event ∈ rest, event.isCheck = false) : Cleared g task (before ++ rest) := by
  have silent : rest.filterMap (·.question?) = [] :=
    List.filterMap_eq_nil_iff.mpr fun event member => question_of_not_check (working event member)
  have questions (rows : Nat) (ruling : Ruling) : (.called (.rowCount task.table) (.ok rows) ::
      .ruled ⟨task.table, rows, task.peril⟩ ruling :: rest).filterMap (·.question?) =
      if ruling.asked then [Check.question ⟨task.table, rows, task.peril⟩] else [] := by
    rw [List.filterMap_cons_none rfl, List.filterMap_cons, silent, Event.question?_ruled]
    cases ruling.asked <;> rfl
  cases check with
  | authorized small latched =>
    exact ⟨_, _, rest, rfl, small, .authorized latched, by rw [latched]; exact questions _ _⟩
  | @allowed rows answer small unlatched given yes =>
    have allowed : g.Allows (.answered answer) := by
      cases answer with
      | yes => exact .yes unlatched given
      | yesToAll => exact .yesToAll unlatched given
      | no => exact absurd rfl yes
    exact ⟨_, _, rest, rfl, small, allowed, by rw [unlatched]; exact questions _ _⟩

theorem Checked.not_forbids (check : Checked b g table peril (.ok .proceed) events)
    (member : event ∈ events) : ¬ event.Forbids := by
  cases check with
  | authorized small =>
    simp only [List.mem_cons, List.not_mem_nil, or_false] at member
    rcases member with rfl | rfl
    · rintro ⟨⟩
      exact absurd small (Nat.not_lt.mpr ‹_›)
    · rintro ⟨⟩
  | allowed small _ _ yes =>
    simp only [List.mem_cons, List.not_mem_nil, or_false] at member
    rcases member with rfl | rfl
    · rintro ⟨⟩
      exact absurd small (Nat.not_lt.mpr ‹_›)
    · rintro ⟨⟩
      exact yes rfl

theorem StepTrace.guarded (trace : StepTrace b false task s.gate r events) :
    Guarded b ⟨task, s, r, events⟩ where
  cleared := by
    intro before event after cut danger
    rcases trace.checked with harmless | ⟨check, work, rfl, checked, working⟩
    -- a step that endangers nothing has no such event
    · have member : event ∈ events := by simp [show events = _ from cut]
      exact absurd danger (harmless event member)
    · have absent : event ∉ check := fun member => checked.harmless member danger
      obtain ⟨rest, rfl, rfl⟩ := cut_after cut absent
      exact checked.cleared fun event member => working event (List.mem_append_left _ member)
  kept := by
    rintro ⟨event, member, forbids⟩
    rcases trace.checked with harmless | ⟨check, work, rfl, checked, working⟩
    · exact harmless
    · rcases List.mem_append.mp member with member | member
      · exact absurd forbids (checked.not_forbids member)
      · have working := working event member
        rw [forbids.isCheck] at working
        cases working
  drops := by
    rintro reset statement result member
    cases task with
    | reconcile => cases reset
    | reset table =>
      cases trace with
      | stopped check | declined check => cases check.isCheck member
      | dropped check run =>
        rcases List.mem_append.mp member with member | member
        · cases check.isCheck member
        · obtain ⟨_, listed, _, ⟨⟩⟩ := run.mem member
          exact listed
  rebuilds := by
    rintro table statements result member
    cases task with
    | reset =>
      cases trace with
      | stopped check | declined check => cases check.isCheck member
      | dropped check run =>
        rcases List.mem_append.mp member with member | member
        · cases check.isCheck member
        · obtain ⟨_, _, _, ⟨⟩⟩ := run.mem member
    | reconcile t live =>
      cases trace with
      | unplanned | unchanged => cases member
      | created _ run | altered _ _ run => obtain ⟨_, _, _, ⟨⟩⟩ := run.mem member
      | rebuilt _ run =>
        rcases run.checked with ⟨_, check⟩ | ⟨check, work, rfl, checked, working⟩
        · cases check.isCheck member
        · rcases List.mem_append.mp member with member | member
          · cases checked.isCheck member
          · rcases working _ member with ⟨_, ⟨⟩⟩ | ⟨_, _, ⟨⟩⟩
            exact ⟨rfl, rfl⟩

theorem Performed.guarded (performed : Performed b false s steps s') (member : step ∈ steps) :
    Guarded b step :=
  (performed.traced member).guarded

/-- One call and then nothing but guarded steps lead from one session to the other. -/
def GuardedAfter (b : Backend σ) (c : Call) (s s' : Session σ) : Prop :=
  ∃ read later steps, (b.call c).from s = (read, later) ∧ Performed b false later steps s' ∧
    s'.trace = s.trace ++ .called c read :: steps.flatMap (·.events) ∧
    ∀ step ∈ steps, Guarded b step

theorem Performed.guardedAfter (read : (b.call c).from s = (result, later))
    (performed : Performed b false later steps s') : GuardedAfter b c s s' := by
  exact ⟨result, later, steps, read, performed, performed.trace_after read,
    fun _ member => performed.guarded member⟩

/-- Whatever the backend answers and the gate is told, a run that is not dry guards every step. -/
theorem runs_guarded (b : Backend σ) (s : Session σ) :
    (∀ model forceReset, GuardedAfter b .existingSchema s
      ((b.reconcile model ⟨forceReset, false⟩).from s).2) ∧
    ∀ t, GuardedAfter b (.existingTable t.name) s ((b.createOrUpdateTable t).from s).2 := by
  constructor
  · intro model forceReset
    rcases read : (b.call .existingSchema).from s with ⟨e | live, later⟩
    · rw [Backend.reconcile_unread read]
      exact Performed.guardedAfter read .done
    · obtain ⟨resets, rest, course⟩ := Backend.reconcile_course model ⟨forceReset, false⟩ read
      exact course.performed.guardedAfter read
  · intro t
    rcases read : (b.call (.existingTable t.name)).from s with ⟨e | live, later⟩
    · rw [show (b.createOrUpdateTable t).from s = _ from Run.from_bind_of_error read]
      exact Performed.guardedAfter read .done
    · rw [show (b.createOrUpdateTable t).from s = _ from Run.from_bind_of_ok read]
      obtain ⟨step, _, _, performed⟩ := performed_single b false (.reconcile t live) later
      exact performed.guardedAfter read

end

end Conform
