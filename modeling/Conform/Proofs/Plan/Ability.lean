import Conform.Proofs.Plan.InPlace

/-! What the abilities of a dialect decide. A divergence is found in the same places whatever a
dialect can do, and it is met by an operation where the dialect can and by a reason where it
cannot. -/
namespace Conform

namespace Dialect

/-- The dialect with these abilities, and the same in all else. -/
def withAbilities (d : Dialect) (altersColumns addsConstraints : Bool) : Dialect :=
  { d with altersColumns, addsConstraints }

/-- The dialect can do the operation on a table that is there. -/
def can (d : Dialect) : Operation → Bool
  | .alterColumnType .. => d.altersColumns
  | .setPrimaryKey .. | .addForeignKey .. => d.addsConstraints
  | _ => true

end Dialect

/-- The reason to rebuild a live table says what the operation would change in it. -/
inductive Reason.StandsFor (live : Live.Table) : Reason → Operation → Prop where
  | columnType : StandsFor live (.columnType column oldType newType)
      (.alterColumnType table column oldType newType)
  | primaryKey : StandsFor live (.primaryKey live.primaryKey key) (.setPrimaryKey table key replaces)
  | foreignKey : StandsFor live (.foreignKey key.name) (.addForeignKey table key)

/-- How the plan of the dialect goes with the plan of one that can do every operation. -/
inductive Dialect.Follows (d : Dialect) :
    Option Live.Table → Except Error Plan → Except Error Plan → Prop where
  | refused : Follows d live (.error e) (.error e)
  | create {operations : List Operation} :
      Follows d none (.ok (.create operations)) (.ok (.create operations))
  | inPlace {operations : List Operation} (able : ∀ o ∈ operations, d.can o = true) :
      Follows d (some live) (.ok (.alter operations)) (.ok (.alter operations))
  | byRebuild {operations : List Operation} (unable : ∃ o ∈ operations, d.can o = false)
      (reasons : List.Forall₂ (Reason.StandsFor live) found
        (operations.filter (d.can · == false))) :
      Follows d (some live) (.ok (.alter operations)) (.ok (.rebuild found steps))

namespace Dialect

variable {d : Dialect} {t : Schema.Table} {live : Live.Table} {columns : List Sql.Column}

/-- What the dialect makes of an operation that another dialect plans. -/
def settle (d : Dialect) (live : Live.Table) : Operation → Change
  | .alterColumnType table column oldType newType =>
    if d.altersColumns then .inPlace (.alterColumnType table column oldType newType)
    else .byRebuild (.columnType column oldType newType)
  | .setPrimaryKey table key replaces =>
    if d.addsConstraints then .inPlace (.setPrimaryKey table key replaces)
    else .byRebuild (.primaryKey live.primaryKey key)
  | .addForeignKey table key =>
    if d.addsConstraints then .inPlace (.addForeignKey table key)
    else .byRebuild (.foreignKey key.name)
  | operation => .inPlace operation

def concede (d : Dialect) (live : Live.Table) : Change → Change
  | .inPlace operation => d.settle live operation
  | .byRebuild reason => .byRebuild reason

theorem settle_of_can (able : d.can o = true) : d.settle live o = .inPlace o := by
  cases o <;> simp_all [can, settle]

theorem settle_of_cannot (live : Live.Table) (unable : d.can o = false) :
    ∃ reason, d.settle live o = .byRebuild reason ∧ reason.StandsFor live o := by
  cases o with
  | alterColumnType => exact ⟨_, if_neg (by simpa [can] using unable), .columnType⟩
  | setPrimaryKey => exact ⟨_, if_neg (by simpa [can] using unable), .primaryKey⟩
  | addForeignKey => exact ⟨_, if_neg (by simpa [can] using unable), .foreignKey⟩
  | _ => cases unable

section
variable (d t live)

theorem columnChange_concede (table : String) (column : Sql.Column) :
    d.columnChange table live column =
      ((d.withAbilities true true).columnChange table live column).map
        (Option.map (d.concede live)) := by
  unfold columnChange
  cases live.column? column.name with
  | none => rfl
  | some current =>
    by_cases agrees : Text.sameLetters (d.canonicalType current.type) column.type = true
    · simp [withAbilities, agrees, Except.map]
    · by_cases safe : canConvert (d.canonicalType current.type) column.type = true
      · cases alters : d.altersColumns <;>
          simp [withAbilities, concede, settle, agrees, safe, alters, Except.map]
      · simp [withAbilities, agrees, safe, Except.map]

theorem indexChanges_concede (index : Schema.Index) :
    (indexChanges t live index).map (d.concede live) = indexChanges t live index := by
  unfold indexChanges
  dsimp only
  split
  · rfl
  · split <;> rfl

theorem primaryKeyChange_concede : d.primaryKeyChange t live =
    ((d.withAbilities true true).primaryKeyChange t live).map (d.concede live) := by
  unfold primaryKeyChange
  split
  · rfl
  · cases adds : d.addsConstraints <;> simp [withAbilities, concede, settle, adds]

theorem foreignKeyChange_concede (r : Schema.Relation) : d.foreignKeyChange t live r =
    ((d.withAbilities true true).foreignKeyChange t live r).map (d.concede live) := by
  unfold foreignKeyChange
  split
  · rfl
  · cases adds : d.addsConstraints <;>
      simp [withAbilities, concede, settle, adds, Schema.Table.foreignKeyDefinition]

/-- The abilities decide how each divergence is met, and not which there are. -/
theorem changes_concede : d.changes t live columns =
    ((d.withAbilities true true).changes t live columns).map (List.map (d.concede live)) := by
  have own : d.columnChange t.name live = fun c =>
      ((d.withAbilities true true).columnChange t.name live c).map (Option.map (d.concede live)) :=
    funext (d.columnChange_concede live t.name)
  have foreignKeys : d.foreignKeyChange t live = fun r =>
      ((d.withAbilities true true).foreignKeyChange t live r).map (d.concede live) :=
    funext (d.foreignKeyChange_concede t live)
  unfold changes
  rw [own, mapM_map, foreignKeys, primaryKeyChange_concede]
  cases columns.mapM ((d.withAbilities true true).columnChange t.name live) with
  | error => rfl
  | ok columnChanges =>
    simp [Except.map, bind, Except.bind, pure, Except.pure, List.map_flatMap,
      indexChanges_concede, List.filterMap_map, List.map_filterMap, Option.toList_map]

end

theorem desiredColumns_withAbilities (d : Dialect) (t : Schema.Table) (alters adds : Bool) :
    (d.withAbilities alters adds).desiredColumns t = d.desiredColumns t := rfl

/-- Changes that need no rebuild are operations. -/
theorem exists_operations {changes : List Change} (none : changes.filterMap (·.reason?) = []) :
    ∃ operations : List Operation, changes = operations.map .inPlace := by
  induction changes with
  | nil => exact ⟨[], rfl⟩
  | cons change rest ih =>
    cases change with
    | inPlace operation =>
      obtain ⟨operations, rfl⟩ := ih none
      exact ⟨operation :: operations, rfl⟩
    | byRebuild => cases none

theorem reasons_of_operations (operations : List Operation) :
    (operations.map Change.inPlace).filterMap (·.reason?) = [] := by
  simp [Change.reason?]

theorem operations_of_operations (operations : List Operation) :
    (operations.map Change.inPlace).filterMap (·.operation?) = operations := by
  simp [List.filterMap_map, Change.operation?]

theorem standsFor_settle (d : Dialect) (live : Live.Table) (operations : List Operation) :
    List.Forall₂ (Reason.StandsFor live)
      ((operations.map (d.settle live)).filterMap (·.reason?))
      (operations.filter (d.can · == false)) := by
  induction operations with
  | nil => exact .nil
  | cons o rest ih =>
    cases able : d.can o with
    | true => simpa [settle_of_can able, able, Change.reason?] using ih
    | false =>
      obtain ⟨reason, settled, stands⟩ := settle_of_cannot live able
      simpa [settled, able, Change.reason?] using List.Forall₂.cons stands ih

/-- A plan made of settled operations goes with the plan that has the operations themselves. -/
theorem follows_of_settled {operations : List Operation}
    (desired : d.desiredColumns t = .ok columns)
    (settled : d.changes t live columns = .ok (operations.map (d.settle live))) :
    d.Follows (some live) (.ok (.alter operations)) (d.plan t (some live)) := by
  by_cases unable : ∃ o ∈ operations, d.can o = false
  · have reasons := d.standsFor_settle live operations
    have needed : (operations.map (d.settle live)).filterMap (·.reason?) ≠ [] := by
      intro none
      rw [none, List.forall₂_nil_left_iff, List.filter_eq_nil_iff] at reasons
      obtain ⟨o, member, cannot⟩ := unable
      exact reasons o member (beq_iff_eq.mpr cannot)
    rw [plan_by_rebuild desired settled needed]
    exact .byRebuild unable reasons
  · have able : ∀ o ∈ operations, d.can o = true := by simpa using unable
    have same : operations.map (d.settle live) = operations.map .inPlace :=
      List.map_congr_left fun o member => settle_of_can (able o member)
    rw [same] at settled
    rw [plan_in_place desired settled (reasons_of_operations operations), operations_of_operations]
    exact .inPlace able

/-- Of dialects that differ in their abilities only, all refuse a table with the same error or all
plan for it. What the able one does in place, another does in place as well or rebuilds the table
for. -/
theorem plans_follow (d : Dialect) (t : Schema.Table) (live : Option Live.Table)
    (altersColumns addsConstraints : Bool) :
    (d.withAbilities altersColumns addsConstraints).Follows live
      ((d.withAbilities true true).plan t live)
      ((d.withAbilities altersColumns addsConstraints).plan t live) := by
  cases desired : d.desiredColumns t with
  | error e =>
    have refused (alters adds : Bool) : (d.withAbilities alters adds).plan t live = .error e :=
      plan_untyped ((d.desiredColumns_withAbilities t alters adds).trans desired)
    rw [refused, refused]
    exact .refused
  | ok columns =>
    have typed (alters adds : Bool) : (d.withAbilities alters adds).desiredColumns t = .ok columns :=
      (d.desiredColumns_withAbilities t alters adds).trans desired
    cases live with
    | none =>
      rw [plan_none (typed true true), plan_none (typed altersColumns addsConstraints)]
      exact .create
    | some live =>
      -- both compare the same columns, so either both find one beyond repair or none does
      have conceded : (d.withAbilities altersColumns addsConstraints).changes t live columns =
          ((d.withAbilities true true).changes t live columns).map
            (List.map ((d.withAbilities altersColumns addsConstraints).concede live)) :=
        changes_concede ..
      cases found : (d.withAbilities true true).changes t live columns with
      | error e =>
        rw [found] at conceded
        rw [plan_unconverted (typed true true) found, plan_unconverted (typed _ _) conceded]
        exact .refused
      | ok changes =>
        have inPlace := reasons_of_able rfl rfl found
        obtain ⟨operations, rfl⟩ := exists_operations inPlace
        rw [found] at conceded
        rw [plan_in_place (typed true true) found inPlace, operations_of_operations]
        refine follows_of_settled (typed _ _) (conceded.trans ?_)
        rw [Except.map, List.map_map]
        rfl

end Dialect

end Conform
