import Conform.Schema.Order
import Mathlib.Data.Fintype.EquivFin
import Mathlib.Data.List.Nodup
import Mathlib.Data.List.Perm.Basic
import Mathlib.Logic.Relation
import Mathlib.Order.WellFounded

/-! The order of work has every table of a model exactly once. Each table is the first of those
that wait for no other one, so that tables come after what they reference as long as the references
go round in no circle, and no order of that kind keeps closer to the declarations. -/
namespace Conform.Schema

/-- As long as tables are waiting, one of them goes next. -/
theorem nextIndex_lt (some : waiting ≠ []) : nextIndex waiting < waiting.length := by
  rw [nextIndex]
  cases found : waiting.findIdx? (·.isReady waiting) with
  | none => exact List.length_pos_iff.mpr some
  | some i => exact (List.findIdx?_eq_some_iff_getElem.mp found).1

theorem arrange_perm (waiting : List Table) : (arrange waiting.length waiting).Perm waiting := by
  generalize size : waiting.length = count
  induction count generalizing waiting with
  | zero => simp [arrange, List.length_eq_zero_iff.mp size]
  | succ count ih =>
    have next : nextIndex waiting < waiting.length :=
      nextIndex_lt (List.length_pos_iff.mp (by omega))
    have left : (waiting.eraseIdx (nextIndex waiting)).length = count := by
      rw [List.length_eraseIdx_of_lt next]
      omega
    rw [arrange, List.getElem?_eq_getElem next]
    exact ((ih _ left).cons _).trans (List.getElem_cons_eraseIdx_perm next)

theorem Model.ordered_perm (m : Model) : m.ordered.Perm m.tables := arrange_perm m.tables

/-- A foreign key of the table points at another table. -/
def Table.Needs (t other : Table) : Prop :=
  other.name ∈ t.referencedTables ∧ other.name ≠ t.name

instance (t other : Table) : Decidable (t.Needs other) := inferInstanceAs (Decidable (_ ∧ _))

theorem Table.isReady_iff {t : Table} {waiting : List Table} :
    t.isReady waiting = true ↔ ∀ other ∈ waiting, ¬ t.Needs other := by
  simp only [isReady, List.all_eq_true, Bool.or_eq_true, beq_iff_eq, Bool.not_eq_true',
    List.any_eq_false, Needs, not_and, not_not]
  constructor
  · intro ready other member listed
    rcases ready other.name listed with own | gone
    · exact own
    · exact absurd rfl (gone other member)
  · intro ready name listed
    by_cases own : name = t.name
    · exact .inl own
    · right
      intro other member named
      subst named
      exact own (ready other member listed)

/-- The next table is the first one that is ready, or the first one at all. -/
theorem getElem?_nextIndex (waiting : List Table) :
    waiting[nextIndex waiting]? = (waiting.find? (·.isReady waiting)).or waiting.head? := by
  rw [nextIndex, List.find?_eq_bind_findIdx?_getElem?]
  cases found : waiting.findIdx? (·.isReady waiting) with
  | none => simp [List.head?_eq_getElem?]
  | some i =>
    have inside := (List.findIdx?_eq_some_iff_getElem.mp found).1
    simp [List.getElem?_eq_getElem inside]

/-- What has been placed is no longer waiting, and the rest waits as it did. -/
theorem next_of_arrange {waiting placed rest : List Table} (distinct : waiting.Nodup)
    (split : arrange count waiting = placed ++ t :: rest) :
    (waiting.filter (· ∉ placed))[nextIndex (waiting.filter (· ∉ placed))]? = some t := by
  induction placed generalizing count waiting with
  | nil =>
    cases count with
    | zero => simp [arrange] at split
    | succ count =>
      rw [arrange] at split
      cases next : waiting[nextIndex waiting]? with
      | none => simp [next] at split
      | some u =>
        simp only [next, List.nil_append, List.cons.injEq] at split
        simp [next, split.1]
  | cons first placed ih =>
    cases count with
    | zero => simp [arrange] at split
    | succ count =>
      rw [arrange] at split
      cases next : waiting[nextIndex waiting]? with
      | none => simp [next] at split
      | some u =>
        simp only [next, List.cons_append, List.cons.injEq] at split
        obtain ⟨rfl, split⟩ := split
        obtain ⟨inside, rfl⟩ := List.getElem?_eq_some_iff.mp next
        have fewer := ih (distinct.eraseIdx _) split
        have left : (waiting.eraseIdx (nextIndex waiting)).filter (· ∉ placed) =
            waiting.filter (· ∉ waiting[nextIndex waiting] :: placed) := by
          rw [← distinct.erase_getElem _ inside, distinct.erase_eq_filter, List.filter_filter]
          apply List.filter_congr
          intro other _
          by_cases own : other = waiting[nextIndex waiting] <;> simp [own]
        rwa [left] at fewer

namespace Model

/-- All other tables that it needs are placed. -/
def IsReady (m : Model) (placed : List Table) (t : Table) : Prop :=
  ∀ other ∈ m.tables, t.Needs other → other ∈ placed

/-- The table goes next when the tables before it are placed. -/
inductive GoesNext (m : Model) (placed : List Table) (t : Table) : Prop where
  /-- It is the first one declared of those that are ready. -/
  | ready (declared : m.tables = before ++ t :: after) (waits : t ∉ placed)
      (ready : m.IsReady placed t)
      (first : ∀ other ∈ before, other ∉ placed → ¬ m.IsReady placed other)
  /-- No table is ready, and it is the first one declared of those that wait. -/
  | stuck (declared : m.tables = before ++ t :: after) (waits : t ∉ placed)
      (none : ∀ other ∈ m.tables, other ∉ placed → ¬ m.IsReady placed other)
      (first : ∀ other ∈ before, other ∈ placed)

/-- A foreign key of the one table points at the other one. -/
def References (m : Model) (t other : Table) : Prop :=
  t ∈ m.tables ∧ other ∈ m.tables ∧ t.Needs other

/-- References go round in no circle, but for those of a table to itself. -/
def IsAcyclic (m : Model) : Prop := ∀ t, ¬ Relation.TransGen m.References t t

/-- Every table comes after the tables that it needs. -/
def Respects (m : Model) (order : List Table) : Prop :=
  ∀ placed t rest, order = placed ++ t :: rest → m.IsReady placed t

/-- The places of the declarations, in the given order. -/
def positions (m : Model) (order : List Table) : List Nat := order.map (m.tables.idxOf ·)

/-- How the order of work follows from the declarations. -/
structure Arranges (m : Model) : Prop where
  perm : m.ordered.Perm m.tables
  next : ∀ placed t rest, m.ordered = placed ++ t :: rest → m.GoesNext placed t
  respects : m.IsAcyclic → m.Respects m.ordered
  /-- It comes before all other orders that respect the references, when the places of the
  declarations are compared one by one. -/
  least : m.IsAcyclic → ∀ order, order.Perm m.tables → m.Respects order →
    m.ordered = order ∨ List.Lex (· < ·) (m.positions m.ordered) (m.positions order)
  /-- The other way round, every table comes before the tables that it needs. -/
  reverse : m.IsAcyclic → ∀ before t after, m.ordered.reverse = before ++ t :: after →
    ∀ other ∈ m.tables, t.Needs other → other ∈ after

variable {m : Model}

theorem isReady_iff_of_waiting {placed : List Table} :
    t.isReady (m.tables.filter (· ∉ placed)) = true ↔ m.IsReady placed t := by
  rw [Table.isReady_iff]
  simp only [List.mem_filter, decide_eq_true_eq, IsReady]
  constructor
  · intro ready other member needs
    by_contra waits
    exact ready other ⟨member, waits⟩ needs
  · intro ready other ⟨member, waits⟩ needs
    exact waits (ready other member needs)

theorem goesNext_of_split (distinct : m.tables.Nodup)
    (split : m.ordered = placed ++ t :: rest) : m.GoesNext placed t := by
  have next := next_of_arrange distinct split
  rw [getElem?_nextIndex, Option.or_eq_some_iff] at next
  rcases next with ready | ⟨none, first⟩
  · rw [List.find?_filter, List.find?_eq_some_iff_append] at ready
    obtain ⟨chosen, before, after, declared, first⟩ := ready
    simp only [decide_eq_true_eq, isReady_iff_of_waiting] at chosen
    refine .ready declared chosen.1 chosen.2 ?_
    intro other member waits ready
    have passed := first other member
    rw [isReady_iff_of_waiting.mpr ready] at passed
    simp [waits] at passed
  · rw [List.head?_filter, List.find?_eq_some_iff_append] at first
    obtain ⟨waits, before, after, declared, first⟩ := first
    simp only [List.find?_eq_none, List.mem_filter, isReady_iff_of_waiting] at none
    refine .stuck declared (by simpa using waits) ?_ ?_
    · intro other member waits
      exact none other ⟨member, by simpa using waits⟩
    · intro other member
      simpa using first other member

/-- References that each go down to a lower rank go round in no circle. -/
theorem isAcyclic_of_rank (rank : Table → Nat)
    (lower : ∀ t other, m.References t other → rank other < rank t) : m.IsAcyclic := by
  intro t circle
  have descends : ∀ other, Relation.TransGen m.References t other → rank other < rank t := by
    intro other path
    induction path with
    | single edge => exact lower _ _ edge
    | tail _ edge ih => exact (lower _ _ edge).trans ih
  exact Nat.lt_irrefl _ (descends t circle)

/-- Where references go round in no circle, one of the waiting tables needs none of them. -/
theorem IsAcyclic.exists_isReady (acyclic : m.IsAcyclic) (member : t ∈ m.tables)
    (waits : t ∉ placed) : ∃ u ∈ m.tables, u ∉ placed ∧ m.IsReady placed u := by
  let needs (u v : { u // u ∈ m.tables }) : Prop := Relation.TransGen m.References v.1 u.1
  have transitive : IsTrans _ needs := ⟨fun _ _ _ first second => second.trans first⟩
  have irreflexive : Std.Irrefl needs := ⟨fun u => acyclic u.1⟩
  have founded := Finite.wellFounded_of_trans_of_irrefl needs
  obtain ⟨⟨u, among⟩, left, lowest⟩ := founded.has_min { u | u.1 ∉ placed } ⟨⟨t, member⟩, waits⟩
  refine ⟨u, among, left, ?_⟩
  intro other declared needed
  by_contra missing
  exact lowest ⟨other, declared⟩ missing (.single ⟨among, declared, needed⟩)

theorem GoesNext.isReady (next : m.GoesNext placed t) (acyclic : m.IsAcyclic) :
    m.IsReady placed t := by
  cases next with
  | ready _ _ ready _ => exact ready
  | stuck declared waits none _ =>
    have member : t ∈ m.tables := by simp [declared]
    obtain ⟨u, among, left, ready⟩ := acyclic.exists_isReady member waits
    exact absurd ready (none u among left)

/-- Of the tables that could go next, none is declared before the one that does. -/
theorem GoesNext.idxOf_lt (next : m.GoesNext placed t) (distinct : m.tables.Nodup)
    (member : u ∈ m.tables) (waits : u ∉ placed) (ready : m.IsReady placed u) (differs : t ≠ u) :
    m.tables.idxOf t < m.tables.idxOf u := by
  cases next with
  | stuck _ _ none _ => exact absurd ready (none u member waits)
  | @ready before after declared _ _ first =>
    have later : u ∉ before := fun earlier => first u earlier waits ready
    have own : t ∉ before := by
      rw [declared, List.nodup_append] at distinct
      exact fun earlier => distinct.2.2 t earlier t List.mem_cons_self rfl
    rw [declared, List.idxOf_append_of_notMem own, List.idxOf_append_of_notMem later,
      List.idxOf_cons_self, List.idxOf_cons_ne _ differs]
    omega

/-- Two orders part where the one takes the table declared first and the other one does not. -/
theorem lex_positions_of_goesNext (distinct : m.tables.Nodup) (before : List Table)
    (next : ∀ placed t rest, before ++ order = placed ++ t :: rest → m.GoesNext placed t)
    (perm : (before ++ other).Perm m.tables) (respects : m.Respects (before ++ other))
    (size : order.length = other.length) :
    order = other ∨ List.Lex (· < ·) (m.positions order) (m.positions other) := by
  induction order generalizing before other with
  | nil =>
    left
    exact (List.length_eq_zero_iff.mp size.symm).symm
  | cons t rest ih =>
    cases other with
    | nil => simp at size
    | cons u others =>
      by_cases same : t = u
      · subst same
        have shift (later : List Table) : before ++ t :: later = (before ++ [t]) ++ later := by simp
        rw [shift] at next perm respects
        rcases ih _ next perm respects (by simpa using size) with equal | sooner
        · left
          rw [equal]
        · right
          exact .cons sooner
      · right
        have member : u ∈ m.tables := perm.subset (by simp)
        have waits : u ∉ before := by
          have once := perm.nodup_iff.mpr distinct
          rw [List.nodup_append] at once
          exact fun earlier => once.2.2 u earlier u List.mem_cons_self rfl
        have ready := respects before u others rfl
        exact .rel ((next before t rest rfl).idxOf_lt distinct member waits ready same)

/-- The tables of a model are worked on in the order of their declarations as far as the references
allow it. -/
theorem ordered_arranges (m : Model) (distinct : m.tableNames.Nodup) : m.Arranges := by
  have once : m.tables.Nodup := distinct.of_map
  have next : ∀ placed t rest, m.ordered = placed ++ t :: rest → m.GoesNext placed t :=
    fun _ _ _ split => goesNext_of_split once split
  constructor
  case perm => exact m.ordered_perm
  case next => exact next
  case respects =>
    intro acyclic placed t rest split
    exact (next placed t rest split).isReady acyclic
  case least =>
    intro acyclic order perm respects
    have size : m.ordered.length = order.length := (m.ordered_perm.trans perm.symm).length_eq
    exact lex_positions_of_goesNext once [] next perm respects size
  case reverse =>
    intro acyclic before t after split other member needs
    have forward : m.ordered = after.reverse ++ t :: before.reverse := by
      have turned := congrArg List.reverse split
      simpa using turned
    have placed := (next _ _ _ forward).isReady acyclic other member needs
    exact List.mem_reverse.mp placed

private def keyTo (table : String) : Field where
  name := table
  type := table
  isRelation := true
  relation := some { field := table, referencedTable := table, fields := ["id"] }

/-- Posts need their users, and users their teams; users reference themselves, and a table that is
not declared. -/
private def blog : Model where
  tables := [
    { name := "Post", fields := [keyTo "User", keyTo "User"] },
    { name := "User", fields := [keyTo "User", keyTo "Team", keyTo "Ghost"] },
    { name := "Tag" },
    { name := "Team" }]

theorem blog_arranges : blog.tableNames.Nodup ∧ blog.IsAcyclic ∧
    blog.ordered.map (·.name) = ["Tag", "Team", "User", "Post"] ∧ blog.Arranges := by
  have distinct : blog.tableNames.Nodup := by decide
  refine ⟨distinct, ?_, by decide +kernel, ordered_arranges blog distinct⟩
  let rank (t : Table) : Nat := ["Team", "User", "Post"].idxOf t.name
  have lower : ∀ t ∈ blog.tables, ∀ other ∈ blog.tables, t.Needs other → rank other < rank t := by
    decide +kernel
  exact isAcyclic_of_rank rank fun t other edge => lower t edge.1 other edge.2.1 edge.2.2

end Model

end Conform.Schema
