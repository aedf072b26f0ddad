import Conform.Dialect.Postgres
import Conform.Dialect.Sqlite
import Conform.Proofs.Plan.Ability
import Conform.Proofs.Plan.Unchanged

/-! Changes of type. A column comes to another type only along a safe conversion, also where its
table is rebuilt for another reason and the column goes along in the copy. -/
namespace Conform

/-- The declared column is there with another type. -/
structure Dialect.Differs (d : Dialect) (live : Option Live.Table) (column : Sql.Column)
    (oldType : String) : Prop where
  present : (live.bind (·.typeOf? column.name)).map d.canonicalType = some oldType
  differs : Text.sameLetters oldType column.type = false

/-- The type that is there has no safe conversion to the one that is declared. -/
def Dialect.BeyondRepair (d : Dialect) (live : Option Live.Table) (column : Sql.Column) : Prop :=
  ∃ oldType, d.Differs live column oldType ∧ Dialect.canConvert oldType column.type = false

/-- The change is to give a column the type of this one. -/
inductive Change.Converts (table : String) (column : Sql.Column) (oldType : String) :
    Change → Prop where
  | inPlace : Converts table column oldType
      (.inPlace (.alterColumnType table column.name oldType column.type))
  | byRebuild : Converts table column oldType
      (.byRebuild (.columnType column.name oldType column.type))

namespace Plan

/-- The plan says that the type of the column changes. -/
def Lists (table : String) (column : Sql.Column) (oldType : String) : Plan → Prop
  | create operations | alter operations =>
    .alterColumnType table column.name oldType column.type ∈ operations
  | rebuild reasons _ => .columnType column.name oldType column.type ∈ reasons

/-- What is stored in a column has the type of this one when the plan is done: it is altered, or
copied into a table that is created with this column. -/
def Retypes (table : String) (column : Sql.Column) : Plan → Prop
  | create operations | alter operations =>
    ∃ oldType, .alterColumnType table column.name oldType column.type ∈ operations
  | rebuild _ steps => column.name ∈ steps.copyColumns ∧ ∃ definition ifNotExists,
    steps.create = .createTable definition ifNotExists ∧ column ∈ definition.columns

end Plan

/-- How planning goes about the columns whose types differ. -/
structure Dialect.ChangesTypesSafely (d : Dialect) (t : Schema.Table) (live : Option Live.Table)
    (columns : List Sql.Column) : Prop where
  refused_iff : (∃ table column oldType newType,
      d.plan t live = .error (.lossyConversion table column oldType newType)) ↔
    ∃ c ∈ columns, d.BeyondRepair live c
  /-- The error is about the first column that is beyond repair. -/
  first : ∀ e, d.plan t live = .error e → ∃ before c after oldType,
    columns = before ++ c :: after ∧ (∀ b ∈ before, ¬ d.BeyondRepair live b) ∧
      d.Differs live c oldType ∧ canConvert oldType c.type = false ∧
        e = .lossyConversion t.name c.name oldType c.type
  /-- No column keeps a type that differs. -/
  retyped : ∀ p, d.plan t live = .ok p → ∀ c ∈ columns, ∀ oldType,
    d.Differs live c oldType → p.Retypes t.name c
  /-- No column comes to another type unsaid. -/
  listed : ∀ p, d.plan t live = .ok p → ∀ c oldType,
    p.Retypes t.name c → d.Differs live c oldType → p.Lists t.name c oldType
  /-- What a plan says of types is so, and safe. -/
  safe : ∀ p, d.plan t live = .ok p → ∀ c oldType, p.Lists t.name c oldType →
    c ∈ columns ∧ d.Differs live c oldType ∧ canConvert oldType c.type = true

namespace Dialect

variable {d : Dialect} {t : Schema.Table} {live : Live.Table} {columns : List Sql.Column}

theorem Differs.column? (differs : d.Differs (some live) c oldType) :
    ∃ current, live.column? c.name = some current ∧ d.canonicalType current.type = oldType := by
  obtain ⟨type, typed, canonical⟩ := Option.map_eq_some_iff.mp differs.present
  obtain ⟨current, found, rfl⟩ := Option.map_eq_some_iff.mp typed
  exact ⟨current, found, canonical⟩

/-- A column whose type differs is altered, rebuilt or refused. -/
theorem columnChange_of_differs (differs : d.Differs (some live) c oldType) :
    d.columnChange table live c = if canConvert oldType c.type then
      .ok (some (d.settle live (.alterColumnType table c.name oldType c.type)))
    else .error (.lossyConversion table c.name oldType c.type) := by
  obtain ⟨current, found, rfl⟩ := differs.column?
  have different := differs.differs
  by_cases safe : canConvert (d.canonicalType current.type) c.type = true
  · by_cases alters : d.altersColumns = true <;>
      simp [columnChange, settle, found, different, safe, alters]
  · simp [columnChange, found, different, safe]

section
variable (d live)

/-- A column that is as declared stays, one that is not there is added, and else its type
differs. -/
theorem columnChange_cases (table : String) (c : Sql.Column) :
    d.columnChange table live c = .ok none ∨
      d.columnChange table live c = .ok (some (.inPlace (.addColumn table c))) ∨
        ∃ oldType, d.Differs (some live) c oldType := by
  cases found : live.column? c.name with
  | none => exact .inr (.inl (by simp [columnChange, found]))
  | some current =>
    cases agrees : Text.sameLetters (d.canonicalType current.type) c.type with
    | true => exact .inl (columnChange_eq_none_iff.mpr ⟨current, found, agrees⟩)
    | false =>
      refine .inr (.inr ⟨_, ?_, agrees⟩)
      rw [Option.bind_some, Live.Table.typeOf?, found]
      rfl

end

theorem columnChange_error_iff : d.columnChange table live c = .error e ↔
    ∃ oldType, d.Differs (some live) c oldType ∧ canConvert oldType c.type = false ∧
      e = .lossyConversion table c.name oldType c.type := by
  constructor
  · intro failed
    rcases d.columnChange_cases live table c with kept | added | ⟨oldType, differs⟩
    · cases kept.symm.trans failed
    · cases added.symm.trans failed
    · rw [columnChange_of_differs differs] at failed
      by_cases safe : canConvert oldType c.type = true
      · rw [if_pos safe] at failed
        cases failed
      · rw [if_neg safe] at failed
        exact ⟨oldType, differs, by simpa using safe, (Except.error.inj failed).symm⟩
  · rintro ⟨oldType, differs, lossy, rfl⟩
    rw [columnChange_of_differs differs, lossy]
    rfl

theorem beyondRepair_iff (table : String) : d.BeyondRepair (some live) c ↔
    ∃ e, d.columnChange table live c = .error e := by
  simp [BeyondRepair, columnChange_error_iff]

/-- A change of type is found for a column whose type differs. -/
theorem differs_of_columnChange (found : d.columnChange table live own = .ok (some change))
    (converts : change.Converts table c oldType) :
    own = c ∧ d.Differs (some live) c oldType ∧ canConvert oldType c.type = true := by
  rcases d.columnChange_cases live table own with kept | added | ⟨ownType, differs⟩
  · cases kept.symm.trans found
  · cases added.symm.trans found
    cases converts
  · rw [columnChange_of_differs differs] at found
    by_cases safe : canConvert ownType own.type = true
    · rw [if_pos safe] at found
      obtain rfl := Option.some.inj (Except.ok.inj found)
      have same : own = c ∧ ownType = oldType := by
        rcases own with ⟨name, type⟩
        rcases c with ⟨name', type'⟩
        by_cases alters : d.altersColumns = true
        · rw [settle, if_pos alters] at converts
          cases converts
          exact ⟨rfl, rfl⟩
        · rw [settle, if_neg alters] at converts
          cases converts
          exact ⟨rfl, rfl⟩
      obtain ⟨rfl, rfl⟩ := same
      exact ⟨rfl, differs, safe⟩
    · rw [if_neg safe] at found
      cases found

/-- Only a column is found to change its type. -/
theorem differs_of_mem_changes {changes : List Change}
    (changed : d.changes t live columns = .ok changes) (member : change ∈ changes)
    (converts : change.Converts t.name c oldType) :
    c ∈ columns ∧ d.Differs (some live) c oldType ∧ canConvert oldType c.type = true := by
  rcases (mem_changes_iff changed).mp member with
    ⟨own, declared, found⟩ | ⟨i, _, among⟩ | found | ⟨r, _, found⟩
  · obtain ⟨rfl, differs⟩ := differs_of_columnChange found converts
    exact ⟨declared, differs⟩
  · rcases mem_indexChanges among with rfl | rfl <;> cases converts
  · rw [primaryKeyChanged found] at converts
    split at converts <;> cases converts
  · rw [foreignKeyChanged found] at converts
    split at converts <;> cases converts

/-- Where no column is beyond repair, each whose type differs has its change. -/
theorem mem_changes_of_differs {changes : List Change}
    (changed : d.changes t live columns = .ok changes) (declared : c ∈ columns)
    (differs : d.Differs (some live) c oldType) :
    d.settle live (.alterColumnType t.name c.name oldType c.type) ∈ changes := by
  obtain ⟨_, traversed, _⟩ := changes_ok_iff.mp changed
  obtain ⟨_, _, found⟩ := result_of_mapM_ok traversed declared
  refine (mem_changes_iff changed).mpr (.inl ⟨c, declared, ?_⟩)
  rw [columnChange_of_differs differs] at found ⊢
  by_cases safe : canConvert oldType c.type = true
  · exact if_pos safe
  · rw [if_neg safe] at found
    cases found

/-- The error of a table is about its first column that is beyond repair. -/
theorem first_of_plan_error {live : Option Live.Table} (desired : d.desiredColumns t = .ok columns)
    (failed : d.plan t live = .error e) : ∃ before c after oldType,
      columns = before ++ c :: after ∧ (∀ b ∈ before, ¬ d.BeyondRepair live b) ∧
        d.Differs live c oldType ∧ canConvert oldType c.type = false ∧
          e = .lossyConversion t.name c.name oldType c.type := by
  rcases plan_error_iff.mp failed with untyped | ⟨own, table, same, rfl, unconverted⟩
  · cases desired.symm.trans untyped
  · obtain rfl := Except.ok.inj (desired.symm.trans same)
    obtain ⟨before, c, after, listed, passed, found⟩ := first_of_mapM_error unconverted
    obtain ⟨oldType, differs, lossy, rfl⟩ := columnChange_error_iff.mp found
    refine ⟨before, c, after, oldType, listed, ?_, differs, lossy, rfl⟩
    intro b member beyond
    obtain ⟨_, kept⟩ := passed b member
    obtain ⟨_, refused⟩ := (beyondRepair_iff t.name).mp beyond
    cases kept.symm.trans refused

/-- One column beyond repair is enough to refuse the table. -/
theorem plan_of_beyondRepair {live : Option Live.Table}
    (desired : d.desiredColumns t = .ok columns) (declared : c ∈ columns)
    (beyond : d.BeyondRepair live c) : ∃ e, d.plan t live = .error e := by
  cases live with
  | none =>
    obtain ⟨oldType, differs, _⟩ := beyond
    cases differs.present
  | some live =>
    cases changed : d.changes t live columns with
    | error e => exact ⟨e, plan_unconverted desired changed⟩
    | ok changes =>
      obtain ⟨_, traversed, _⟩ := changes_ok_iff.mp changed
      obtain ⟨_, _, found⟩ := result_of_mapM_ok traversed declared
      obtain ⟨_, refused⟩ := (beyondRepair_iff t.name).mp beyond
      cases found.symm.trans refused

end Dialect

namespace Planned

variable {d : Dialect} {t : Schema.Table} {columns : List Sql.Column} {live : Option Live.Table}

/-- What a plan says of types is so. -/
theorem differs_of_lists (planned : Planned d t columns live p) (lists : p.Lists t.name c oldType) :
    c ∈ columns ∧ d.Differs live c oldType ∧ Dialect.canConvert oldType c.type = true := by
  cases planned with
  | create => simp [Plan.Lists, Schema.Table.createIndexes] at lists
  | alter changed =>
    exact Dialect.differs_of_mem_changes changed (mem_operations_iff.mp lists) .inPlace
  | rebuild changed =>
    exact Dialect.differs_of_mem_changes changed (mem_reasons_iff.mp lists) .byRebuild

theorem lists_of_differs (planned : Planned d t columns live p)
    (able : d.altersColumns = true → d.addsConstraints = true) (declared : c ∈ columns)
    (differs : d.Differs live c oldType) : p.Lists t.name c oldType := by
  cases planned with
  | create => cases differs.present
  | alter changed inPlace =>
    have member := Dialect.mem_changes_of_differs changed declared differs
    by_cases alters : d.altersColumns = true
    · rw [Dialect.settle, if_pos alters] at member
      exact mem_operations_iff.mpr member
    · rw [Dialect.settle, if_neg alters, ← mem_reasons_iff, inPlace] at member
      cases member
  | rebuild changed needed =>
    have member := Dialect.mem_changes_of_differs changed declared differs
    -- a dialect that alters columns never rebuilds, so no change of a type is given up
    have unable : ¬ d.altersColumns = true :=
      fun alters => needed (Dialect.reasons_of_able alters (able alters) changed)
    rw [Dialect.settle, if_neg unable] at member
    exact mem_reasons_iff.mpr member

theorem retypes_of_differs (planned : Planned d t columns live p)
    (able : d.altersColumns = true → d.addsConstraints = true) (declared : c ∈ columns)
    (differs : d.Differs live c oldType) : p.Retypes t.name c := by
  have lists := planned.lists_of_differs able declared differs
  cases planned with
  | create | alter => exact ⟨oldType, lists⟩
  | rebuild changed needed =>
    obtain ⟨current, found, _⟩ := differs.column?
    refine ⟨?_, _, _, rfl, declared⟩
    exact (Planned.rebuild changed needed).mem_copyColumns.mpr
      ⟨List.mem_map_of_mem declared, by rw [found]; rfl⟩

/-- A table that is created anew has the declared columns only. -/
theorem mem_of_retypes (planned : Planned d t columns live p) (retypes : p.Retypes t.name c) :
    c ∈ columns := by
  cases planned with
  | create => simp [Plan.Retypes, Schema.Table.createIndexes] at retypes
  | alter changed =>
    obtain ⟨oldType, lists⟩ := retypes
    exact ((Planned.alter changed ‹_›).differs_of_lists lists).1
  | rebuild =>
    obtain ⟨_, definition, _, same, among⟩ := retypes
    cases same
    exact among

end Planned

/-- Both dialects refuse exactly the tables of which a column would change its type and not keep all
its values. Every other change of a type is said in the plan. -/
theorem types_change_safely {d : Dialect} {t : Schema.Table} {live : Option Live.Table}
    {columns : List Sql.Column} (known : d = .sqlite ∨ d = .postgres)
    (desired : d.desiredColumns t = .ok columns) : d.ChangesTypesSafely t live columns := by
  have able : d.altersColumns = true → d.addsConstraints = true := by
    rcases known with rfl | rfl <;> exact id
  have planned (p : Plan) (plan : d.plan t live = .ok p) : Planned d t columns live p := by
    obtain ⟨own, same, planned⟩ := Dialect.planned plan
    obtain rfl := Except.ok.inj (desired.symm.trans same)
    exact planned
  constructor
  case refused_iff =>
    constructor
    · rintro ⟨_, _, _, _, failed⟩
      obtain ⟨before, c, after, oldType, rfl, _, differs, lossy, _⟩ :=
        Dialect.first_of_plan_error desired failed
      exact ⟨c, List.mem_append_right _ List.mem_cons_self, oldType, differs, lossy⟩
    · rintro ⟨c, declared, beyond⟩
      obtain ⟨e, failed⟩ := Dialect.plan_of_beyondRepair desired declared beyond
      obtain ⟨_, _, _, _, _, _, _, _, rfl⟩ := Dialect.first_of_plan_error desired failed
      exact ⟨_, _, _, _, failed⟩
  case first => exact fun e failed => Dialect.first_of_plan_error desired failed
  case retyped =>
    intro p plan c declared oldType differs
    exact (planned p plan).retypes_of_differs able declared differs
  case listed =>
    intro p plan c oldType retypes differs
    have declared := (planned p plan).mem_of_retypes retypes
    exact (planned p plan).lists_of_differs able declared differs
  case safe =>
    intro p plan c oldType lists
    exact (planned p plan).differs_of_lists lists

/-- A table with narrow types and no key, and what it is to be. -/
private def narrow : Live.Table where
  name := "T"
  columns := [{ name := "id", type := "smallint" }, { name := "note", type := "VARCHAR" }]

private def widened : Schema.Table where
  name := "T"
  fields := [{ name := "id", type := "Int" }, { name := "note", type := "String" }]
  idFields := ["id"]

theorem widened_types_change_safely :
    Dialect.sqlite.desiredColumns widened = .ok [⟨"id", "INTEGER"⟩, ⟨"note", "TEXT"⟩] ∧
      Dialect.sqlite.plan widened (some narrow) = .ok (.rebuild [
          .columnType "id" "SMALLINT" "INTEGER",
          .columnType "note" "VARCHAR" "TEXT",
          .primaryKey [] ["id"]] {
        create := .createTable {
          name := "T"
          columns := [⟨"id", "INTEGER"⟩, ⟨"note", "TEXT"⟩]
          primaryKey := ["id"] } true
        copyColumns := ["id", "note"] }) ∧
      Dialect.sqlite.ChangesTypesSafely widened (some narrow)
        [⟨"id", "INTEGER"⟩, ⟨"note", "TEXT"⟩] := by
  have desired : Dialect.sqlite.desiredColumns widened =
      .ok [⟨"id", "INTEGER"⟩, ⟨"note", "TEXT"⟩] := by decide +kernel
  exact ⟨desired, by decide +kernel, types_change_safely (.inl rfl) desired⟩

end Conform
