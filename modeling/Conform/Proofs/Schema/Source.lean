import Conform.Proofs.Traversal
import Conform.Schema.Source

/-! Where the declarations of a text come from. The reader takes one line at a time, and what stands
in the tables that it has read was put there by a line. -/
namespace Conform.Schema.Source

open Text

/-- The line holds the attribute of a unique constraint, with brackets that are not empty. -/
def DeclaresUnique (line : List Char) (u : UniqueConstraint) : Prop :=
  ∃ list, firstIn (blockArgument "@@unique(".toList) line = some list ∧ u = ⟨fieldList list⟩

/-- The table of an open block. -/
def Block.table? : Block → Option Table
  | model table => some table
  | enumeration _ => none
  | other _ => none

/-- Every unique constraint that has been read, in the table of the open block too, is one of
these. -/
structure Progress.Holds (P : UniqueConstraint → Prop) (p : Progress) : Prop where
  tables : ∀ t ∈ p.tables, ∀ u ∈ t.uniqueConstraints, P u
  block : ∀ block opened, p.block = some (block, opened) → ∀ t ∈ block.table?,
    ∀ u ∈ t.uniqueConstraints, P u

variable {u : UniqueConstraint} {line : List Char}

theorem readBlockAttribute_constraints {t : Table}
    (member : u ∈ (readBlockAttribute t line).uniqueConstraints) :
    u ∈ t.uniqueConstraints ∨ DeclaresUnique line u := by
  unfold readBlockAttribute at member
  split at member
  case h_1 => exact .inl member
  case h_2 =>
    split at member
    case h_1 list found =>
      rcases List.mem_append.mp member with old | new
      · exact .inl old
      · exact .inr ⟨list, found, List.mem_singleton.mp new⟩
    case h_2 => split at member <;> exact .inl member

theorem readModelLine_constraints {t read : Table} (done : readModelLine t number line = .ok read)
    (member : u ∈ read.uniqueConstraints) : u ∈ t.uniqueConstraints ∨ DeclaresUnique line u := by
  unfold readModelLine at done
  split at done
  case isTrue =>
    cases done
    exact readBlockAttribute_constraints member
  case isFalse =>
    split at done
    case h_1 =>
      cases done
      exact .inl member
    case h_2 => cases done

/-- A block is opened without constraints. -/
theorem openBlock_constraints {block : Block} (opened : openBlock number line = .ok block) :
    ∀ t ∈ block.table?, t.uniqueConstraints = [] := by
  unfold openBlock at opened
  extract_lets name at opened
  split at opened
  case isTrue => cases opened
  case isFalse =>
    rintro t held
    split at opened <;> cases opened <;> cases held
    rfl

namespace Progress

variable {P : UniqueConstraint → Prop} {p q : Progress}

theorem Holds.close {block : Block} (holds : p.Holds P) (current : p.block = some (block, opened)) :
    (p.close block).Holds P := by
  have own := holds.block block opened current
  cases block with
  | model table =>
    refine ⟨fun t member => ?_, nofun⟩
    rcases List.mem_append.mp member with old | new
    · exact holds.tables t old
    · obtain rfl := List.mem_singleton.mp new
      exact own t rfl
  | enumeration | other => exact ⟨holds.tables, nofun⟩

/-- One line adds no constraints but those that it declares. -/
theorem Holds.step (holds : p.Holds P) (declared : ∀ u, DeclaresUnique line u → P u)
    (done : p.step number line = .ok q) : q.Holds P := by
  unfold Progress.step at done
  split at done
  case isTrue =>
    cases done
    exact holds
  case isFalse =>
    split at done
    case h_1 =>
      cases opened : openBlock number line <;> rw [opened] at done <;> cases done
      refine ⟨holds.tables, ?_⟩
      rintro block start ⟨⟩ t held u member
      rw [openBlock_constraints opened t held] at member
      cases member
    case h_2 block start current =>
      split at done
      case isTrue =>
        cases done
        exact holds.close current
      case isFalse =>
        split at done
        case h_1 table =>
          cases read : readModelLine table number line <;> rw [read] at done <;> cases done
          refine ⟨holds.tables, ?_⟩
          rintro block start ⟨⟩ t ⟨⟩ u member
          rcases readModelLine_constraints read member with old | new
          · exact holds.block _ _ current table rfl u old
          · exact declared u new
        case h_2 =>
          cases done
          exact ⟨holds.tables, by rintro block start ⟨⟩ t ⟨⟩⟩
        case h_3 =>
          cases done
          exact holds

theorem Holds.run {lines : List (List Char)} (holds : p.Holds P)
    (declared : ∀ line ∈ lines, ∀ u, DeclaresUnique (significant line) u → P u)
    (done : p.run number lines = .ok q) : q.Holds P := by
  induction lines generalizing p number with
  | nil =>
    cases done
    exact holds
  | cons line rest ih =>
    obtain ⟨own, others⟩ := List.forall_mem_cons.mp declared
    obtain ⟨next, first, rest⟩ := ok_of_bind done
    exact ih (holds.step own first) others rest

end Progress

/-- Every unique constraint of a text is declared by one of its lines. -/
theorem declaresUnique_of_read {tables : List Table} {enums : List Enumeration}
    (done : read source = .ok (tables, enums)) (member : t ∈ tables)
    (constraint : u ∈ t.uniqueConstraints) :
    ∃ line ∈ lines source.toList, DeclaresUnique (significant line) u := by
  obtain ⟨p, run, done⟩ := ok_of_bind done
  have start : ({} : Progress).Holds fun u =>
      ∃ line ∈ lines source.toList, DeclaresUnique (significant line) u := ⟨nofun, nofun⟩
  have holds := start.run (fun line among u declares => ⟨line, among, declares⟩) run
  split at done <;> cases done
  exact holds.tables t member u constraint

end Conform.Schema.Source
