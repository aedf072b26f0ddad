import Conform.Proofs.Dialect.Quotes
import Conform.Proofs.Plan.Ability
import Conform.Proofs.Plan.References
import Conform.Proofs.Run.Dry

/-! What becomes of the operations of a plan. A dialect plans only what it can do, each operation
comes to at least one statement, and no statement is passed over as a remark. -/
namespace Conform

namespace Sql

/-- The text of the statement begins as that of a remark does. -/
def Statement.IsRemark (s : Statement) : Prop := "--".toList <+: s.sql.toList

theorem head?_plainText (word : String) (ls : List Lexeme) :
    (plainText word ++ ls).head? = (word.toList.head?.map .plain).or ls.head? := by
  rw [plainText, List.head?_append, List.head?_map]

/-- Composed statements begin with a key word. -/
theorem Statement.head?_lexemes {s : Statement} (composed : s.isComposed = true) :
    ∃ c ∈ ['A', 'C', 'D', 'I'], s.lexemes.head? = some (.plain c) := by
  cases s with
  | createLike | comment | given => cases composed
  | createTable table ifNotExists =>
    simp only [lexemes, Table.lexemes, plainText_append, List.append_assoc, head?_plainText]
    exact ⟨'C', by simp, rfl⟩
  | createIndex index =>
    simp only [lexemes, Index.lexemes, plainText_append, List.append_assoc, head?_plainText]
    exact ⟨'C', by simp, rfl⟩
  | dropTable | dropIndex =>
    simp only [lexemes, plainText_append, List.append_assoc, head?_plainText]
    exact ⟨'D', by simp, rfl⟩
  | addColumn | alterColumnType | dropConstraint | addPrimaryKey | addForeignKey =>
    simp only [lexemes, List.append_assoc, head?_plainText]
    exact ⟨'A', by simp, rfl⟩
  | copyRows | copyColumns =>
    simp only [lexemes, List.append_assoc, head?_plainText]
    exact ⟨'I', by simp, rfl⟩

theorem Statement.not_isRemark {s : Statement} (composed : s.isComposed = true) :
    ¬ s.IsRemark := by
  obtain ⟨c, letter, begins⟩ := head?_lexemes composed
  intro ⟨rest, remark⟩
  cases listed : s.lexemes with
  | nil =>
    rw [listed] at begins
    cases begins
  | cons l ls =>
    rw [listed] at begins
    obtain rfl := Option.some.inj begins
    rw [← s.spell_lexemes, listed, spell_cons] at remark
    obtain ⟨rfl, -⟩ := List.cons.inj remark
    exact absurd letter (by decide)

theorem Statement.not_isComment {s : Statement} (composed : s.isComposed = true) :
    s.isComment = false := by
  cases s <;> first | rfl | cases composed

end Sql

/-- The key of a live table has a name, unless there is no key or the backend names none. -/
def Live.Table.KeyIsNamed (live : Live.Table) (d : Dialect) : Prop :=
  live.primaryKeyName = none ↔ live.primaryKey = [] ∨ d = .sqlite

namespace Dialect

section planned
variable {d : Dialect} {t : Schema.Table} {live : Option Live.Table} {columns : List Sql.Column}

/-- What a dialect can do it renders without remarks. -/
theorem render_of_can (known : d = .sqlite ∨ d = .postgres) (able : d.can o = true) :
    ∃ cascade, d.render o = o.statements cascade := by
  rcases known with rfl | rfl
  · refine ⟨false, ?_⟩
    cases o with
    | alterColumnType | setPrimaryKey | addForeignKey => cases able
    | _ => rfl
  · exact ⟨true, by cases o <;> rfl⟩

/-- Every dialect can create a table and its indexes. -/
theorem can_of_created (among : o ∈ .createTable (t.definition columns) true :: t.createIndexes) :
    d.can o = true := by
  rcases List.mem_cons.mp among with rfl | index
  · rfl
  · obtain ⟨i, _, rfl⟩ := List.mem_map.mp index
    rfl

/-- Only what can be done is done in place. -/
theorem can_of_changes {changes : List Change} {table : Live.Table}
    (changed : d.changes t table columns = .ok changes) (among : .inPlace o ∈ changes) :
    d.can o = true := by
  rcases (mem_changes_iff changed).mp among with
    ⟨c, _, found⟩ | ⟨i, _, found⟩ | found | ⟨r, _, found⟩
  · cases columnChanged found with
    | missing => rfl
    | altered _ _ able => exact able
  · rcases mem_indexChanges found with same | same <;> cases same <;> rfl
  · have same := primaryKeyChanged found
    split at same <;> cases same
    assumption
  · have same := foreignKeyChanged found
    split at same <;> cases same
    assumption

theorem can_of_planned (planned : Planned d t columns live p) (among : o ∈ p.operations) :
    d.can o = true := by
  cases planned with
  | create | rebuild => exact can_of_created among
  | alter changed => exact can_of_changes changed (mem_operations_iff.mp among)

/-- The key is set only on a live table with another one. -/
theorem key_of_planned (planned : Planned d t columns live p)
    (among : .setPrimaryKey table key replaces ∈ p.operations) :
    ∃ found, live = some found ∧ key = t.idFields ∧ replaces = found.primaryKeyName ∧
      found.primaryKey ≠ t.idFields := by
  have created : .setPrimaryKey table key replaces ∉
      .createTable (t.definition columns) true :: t.createIndexes := by
    simp [Schema.Table.createIndexes]
  cases planned with
  | create | rebuild => exact absurd among created
  | @alter found changes changed =>
    rcases (mem_changes_iff changed).mp (mem_operations_iff.mp among) with
      ⟨c, _, column⟩ | ⟨i, _, index⟩ | own | ⟨r, _, foreign⟩
    · cases columnChanged column
    · rcases mem_indexChanges index with same | same <;> cases same
    · unfold primaryKeyChange at own
      split at own
      case isTrue => cases own
      case isFalse differs =>
        split at own <;> cases own
        exact ⟨found, rfl, rfl, rfl, by simpa using differs⟩
    · have same := foreignKeyChanged foreign
      split at same <;> cases same

/-- A planned operation has statements. A key that goes has a name, so that it can be dropped. -/
theorem statements_of_planned (known : d = .sqlite ∨ d = .postgres)
    (named : ∀ found ∈ live, found.KeyIsNamed d) (planned : Planned d t columns live p)
    (among : o ∈ p.operations) (cascade : Bool) : o.statements cascade ≠ [] := by
  cases o with
  | setPrimaryKey table key replaces =>
    have able := can_of_planned planned among
    obtain ⟨found, rfl, rfl, rfl, differs⟩ := key_of_planned planned among
    intro none
    simp only [Operation.statements, List.append_eq_nil_iff, Option.toList_eq_nil_iff,
      Option.map_eq_none_iff, ite_eq_left_iff, List.isEmpty_iff] at none
    obtain ⟨nameless, keyless⟩ := none
    rcases (named found rfl).mp nameless with empty | rfl
    · rw [empty] at differs
      cases keyless differs.symm
    · cases able
  | _ => exact List.cons_ne_nil _ _

/-- A planned operation is rendered to statements, and none of them is a remark. -/
theorem render_of_planned (known : d = .sqlite ∨ d = .postgres)
    (named : ∀ found ∈ live, found.KeyIsNamed d) (planned : Planned d t columns live p)
    (among : o ∈ p.operations) :
    d.render o ≠ [] ∧ ∀ statement ∈ d.render o, statement.isComposed = true := by
  obtain ⟨cascade, render⟩ := render_of_can known (can_of_planned planned among)
  rw [render]
  exact ⟨statements_of_planned known named planned among cascade,
    fun _ rendered => (Operation.types_of_statements rendered).1⟩

end planned

end Dialect

section
variable {σ : Type} {b : Backend σ}

/-- Without remarks, all that is rendered is to be executed. -/
theorem Backend.applicable_eq {operations : List Operation}
    (composed : ∀ o ∈ operations, ∀ statement ∈ b.dialect.render o, statement.isComposed = true) :
    b.applicable operations = operations.flatMap b.dialect.render := by
  rw [Backend.applicable, List.filter_eq_self]
  intro statement rendered
  obtain ⟨o, among, rendered⟩ := List.mem_flatMap.mp rendered
  rw [Sql.Statement.not_isComment (composed o among statement rendered)]
  rfl

theorem Applied.eq_of_ok (applied : Applied b statements dryRun r events)
    (ended : r = .ok listed) : listed = statements := by
  cases applied with
  | planned =>
    cases ended
    rfl
  | executed =>
    obtain ⟨_, _, rfl⟩ := ok_of_map ended
    rfl

/-- A table is altered by the statements of changes in place, of which there are some. -/
theorem ReconcileTrace.altered_eq (trace : ReconcileTrace b t live g dryRun r events)
    (ended : r = .ok (.altered statements)) : ∃ operations,
    b.dialect.plan t live = .ok (.alter operations) ∧ operations ≠ [] ∧
      statements = b.applicable operations := by
  cases trace with
  | unplanned | unchanged => cases ended
  | created =>
    obtain ⟨_, _, same⟩ := ok_of_map ended
    cases same
  | altered plan some applied =>
    obtain ⟨_, listed, same⟩ := ok_of_map ended
    cases same
    exact ⟨_, plan, some, applied.eq_of_ok listed⟩
  | planned =>
    obtain ⟨_, _, same⟩ := ok_of_map ended
    cases same
  | rebuilt _ run => cases run <;> cases ended

/-- Nothing of the plan is passed over. -/
structure Backend.Issues (b : Backend σ) (t : Schema.Table) (live : Option Live.Table)
    (p : Plan) : Prop where
  rendered : ∀ o ∈ p.operations, b.dialect.render o ≠ []
  plain : ∀ o ∈ p.operations, ∀ statement ∈ b.dialect.render o, ¬ statement.IsRemark
  /-- As long as no call fails, every statement is executed. -/
  executed : ∀ s : Session σ,
    (∀ c e, .called c (.error e) ∉ (b.apply p.operations false).events s) →
      ((b.apply p.operations false).from s).1 = .ok (b.dialect.statements p) ∧
        ((b.apply p.operations false).events s).flatMap (·.executed) = b.dialect.statements p
  /-- A table that is said to be altered has been altered by something. -/
  altered : ∀ dryRun (s : Session σ) statements,
    ((b.reconcileTable t live dryRun).from s).1 = .ok (.altered statements) →
      statements = b.dialect.statements p ∧ statements ≠ []

/-- Whatever a dialect plans, its backend issues. -/
theorem plans_issue {live : Option Live.Table}
    (known : b.dialect = .sqlite ∨ b.dialect = .postgres)
    (named : ∀ found ∈ live, found.KeyIsNamed b.dialect)
    (plan : b.dialect.plan t live = .ok p) : b.Issues t live p := by
  obtain ⟨columns, _, planned⟩ := Dialect.planned plan
  have rendered (o : Operation) (among : o ∈ p.operations) :=
    Dialect.render_of_planned known named planned among
  have applicable : b.applicable p.operations = b.dialect.statements p :=
    Backend.applicable_eq fun o among => (rendered o among).2
  constructor
  case rendered => exact fun o among => (rendered o among).1
  case plain =>
    exact fun o among statement member =>
      Sql.Statement.not_isRemark ((rendered o among).2 statement member)
  case executed =>
    intro s unfailing
    obtain ⟨events, trace, _, applied⟩ := b.apply_does p.operations false s.gate s rfl
    rw [Run.events_eq trace] at unfailing ⊢
    rw [applicable] at applied
    generalize ((b.apply p.operations false).from s).1 = r at applied
    cases applied with
    | executed run =>
      rcases run.cut with ⟨rfl, all⟩ | ⟨_, _, _, _, _, _, _, failed⟩
      · exact ⟨rfl, all⟩
      · exact absurd failed (unfailing _ _)
  case altered =>
    intro dryRun s statements ended
    obtain ⟨events, _, _, trace⟩ := b.reconcileTable_does t live dryRun s.gate s rfl
    obtain ⟨operations, altered, some, rfl⟩ := trace.altered_eq ended
    obtain rfl : p = .alter operations := Except.ok.inj (plan.symm.trans altered)
    refine ⟨applicable, fun none => ?_⟩
    obtain ⟨o, among⟩ := List.exists_mem_of_ne_nil operations some
    have silent := List.flatMap_eq_nil_iff.mp (applicable.symm.trans none)
    exact (rendered o among).1 (silent o among)

end

/-- A table that is to have no key any more. -/
private def keyless : Schema.Table where
  name := "T"
  fields := [{ name := "id", type := "Int" }]

private def keyedLive : Live.Table where
  name := "T"
  columns := [{ name := "id", type := "integer", primaryKey := true }]
  primaryKey := ["id"]
  primaryKeyName := some "T_pkey"

/-- The key of the table is dropped, and nothing else is done. -/
theorem unkeyed_plan_issues :
    keyedLive.KeyIsNamed .postgres ∧
      Dialect.postgres.plan keyless (some keyedLive) =
        .ok (.alter [.setPrimaryKey "T" [] (some "T_pkey")]) ∧
      (Rehearsal.backend .postgres).Issues keyless (some keyedLive)
        (.alter [.setPrimaryKey "T" [] (some "T_pkey")]) := by
  have named : keyedLive.KeyIsNamed .postgres := by
    have other : Dialect.postgres ≠ .sqlite := fun same => by
      cases congrArg Dialect.altersColumns same
    exact ⟨nofun, fun none => none.elim nofun fun same => absurd same other⟩
  have planned : Dialect.postgres.plan keyless (some keyedLive) =
      .ok (.alter [.setPrimaryKey "T" [] (some "T_pkey")]) := by decide +kernel
  refine ⟨named, planned, plans_issue (.inr rfl) ?_ planned⟩
  rintro _ ⟨⟩
  exact named

end Conform
