import Conform.Proofs.Schema.Canonical
import Conform.Schema.Normal
import Mathlib.Data.List.Basic
import Mathlib.Data.List.Induction

/-! The markers of a type. Every type is a bare one with markers behind it, in one way only. Markers
are taken off from the end, one in a turn, until what is left is bare. -/
namespace Conform.Schema

open Canonical (Marker)

/-- The type with markers written behind it. -/
def withMarkers (base : List Char) (markers : List Marker) : List Char :=
  base ++ markers.flatMap (·.text)

/-- No marker stands at the end. -/
def IsBare (base : List Char) : Prop := ∀ m : Marker, ¬m.text <:+ base

namespace MarkedType

/-- A type taken apart into a base without a marker at its end and the markers behind it, and flags
that tell which of them there are. -/
structure Splits (split : MarkedType) (type : List Char) (markers : List Marker) : Prop where
  notOptional : ¬['?'] <:+ split.base
  notArray : ¬['[', ']'] <:+ split.base
  joined : type = withMarkers split.base markers
  optional_iff : split.isOptional = true ↔ .optional ∈ markers
  array_iff : split.isArray = true ↔ .array ∈ markers

/-- One turn: the marker at the end goes, and its flag is set. A bare type has no turn left. -/
def turn? (t : MarkedType) : Option MarkedType :=
  match t.base.dropSuffix? ['?'], t.base.dropSuffix? ['[', ']'] with
  | some rest, _ => some { t with base := rest, isOptional := true }
  | none, some rest => some { t with base := rest, isArray := true }
  | none, none => none

/-- The type after a number of turns, if there are so many. -/
def afterTurns? : Nat → MarkedType → Option MarkedType
  | 0, t => some t
  | n + 1, t => t.turn?.bind (afterTurns? n)

/-- The type with the flag of a marker set. -/
def note (t : MarkedType) : Marker → MarkedType
  | .optional => { t with isOptional := true }
  | .array => { t with isArray := true }

/-- What is left of a type, with the flags of the markers that went. -/
def noted (rest : List Char) (gone : List Marker) : MarkedType where
  base := rest
  isArray := .array ∈ gone
  isOptional := .optional ∈ gone

end MarkedType

section bare
variable {base s suffix : List Char} {markers others : List Marker}

theorem isBare_iff : IsBare base ↔ ¬['?'] <:+ base ∧ ¬['[', ']'] <:+ base := by
  constructor
  · exact fun bare => ⟨bare .optional, bare .array⟩
  · rintro ⟨notOptional, notArray⟩ (_ | _)
    · exact notOptional
    · exact notArray

theorem withMarkers_concat (base : List Char) (markers : List Marker) (m : Marker) :
    withMarkers base (markers ++ [m]) = withMarkers base markers ++ m.text := by
  simp [withMarkers]

/-- Every type has a bare base: while there is a marker at the end, it can go. -/
theorem exists_isBare (type : List Char) :
    ∃ base markers, IsBare base ∧ type = withMarkers base markers := by
  by_cases bare : IsBare type
  · exact ⟨type, [], bare, by simp [withMarkers]⟩
  · obtain ⟨m, rest, rfl⟩ : ∃ m : Marker, m.text <:+ type := by simpa [IsBare] using bare
    have shorter : rest.length < (rest ++ m.text).length := by cases m <;> simp [Marker.text]
    obtain ⟨base, markers, bareBase, rfl⟩ := exists_isBare rest
    exact ⟨base, markers ++ [m], bareBase, (withMarkers_concat base markers m).symm⟩
termination_by type.length

/-- No marker begins as another one does, so that they are told apart from the left. -/
theorem flatMap_text_inj (same : markers.flatMap (·.text) = others.flatMap (·.text)) :
    markers = others := by
  induction markers generalizing others with
  | nil => rcases others with _ | ⟨_ | _, others⟩ <;> simp [Marker.text] at same ⊢
  | cons m markers ih =>
    rcases others with _ | ⟨m', others⟩
    · cases m <;> simp [Marker.text] at same
    · cases m <;> cases m' <;> simp [Marker.text] at same ⊢ <;> exact ih same

theorem dropSuffix?_append (rest suffix : List Char) :
    (rest ++ suffix).dropSuffix? suffix = some rest :=
  List.dropSuffix?_eq_some_iff.mpr ⟨suffix, rfl, beq_self_eq_true suffix⟩

theorem dropSuffix?_eq_none (absent : ¬suffix <:+ s) : s.dropSuffix? suffix = none := by
  by_contra found
  obtain ⟨rest, found⟩ := Option.ne_none_iff_exists'.mp found
  obtain ⟨tail, rfl, same⟩ := List.dropSuffix?_eq_some_iff.mp found
  exact absent ⟨rest, by rw [beq_iff_eq.mp same]⟩

end bare

namespace MarkedType

theorem noted_cons (rest : List Char) (m : Marker) (gone : List Marker) :
    noted rest (m :: gone) = (noted rest gone).note m := by
  cases m <;> simp [noted, note]

theorem noted_concat (rest : List Char) (gone : List Marker) (m : Marker) :
    noted rest (gone ++ [m]) = (noted rest gone).note m := by
  cases m <;> simp [noted, note]

theorem turn?_eq_none {t : MarkedType} (bare : IsBare t.base) : t.turn? = none := by
  obtain ⟨notOptional, notArray⟩ := isBare_iff.mp bare
  rw [turn?, dropSuffix?_eq_none notOptional, dropSuffix?_eq_none notArray]

theorem turn?_noted (rest : List Char) (m : Marker) (gone : List Marker) :
    (noted (rest ++ m.text) gone).turn? = some (noted rest (m :: gone)) := by
  rw [noted_cons]
  cases m with
  | optional =>
    have found := dropSuffix?_append rest ['?']
    simp only [turn?, noted, Marker.text, found, note]
  | array =>
    have found := dropSuffix?_append rest ['[', ']']
    have unmarked : ¬['?'] <:+ rest ++ ['[', ']'] := by
      rintro ⟨front, same⟩
      have last := congrArg List.getLast? same
      simp at last
    simp only [turn?, noted, Marker.text, found, dropSuffix?_eq_none unmarked, note]

/-- Turn by turn the markers go over from the text to the flags. -/
theorem afterTurns?_noted (base : List Char) (markers gone : List Marker) :
    afterTurns? markers.length (noted (withMarkers base markers) gone) =
      some (noted base (markers ++ gone)) := by
  induction markers using List.reverseRecOn generalizing gone with
  | nil => simp [afterTurns?, withMarkers]
  | append_singleton markers m ih =>
    rw [List.length_append, List.length_singleton, afterTurns?, withMarkers_concat, turn?_noted,
      Option.bind_some, ih, List.append_assoc, List.singleton_append]

end MarkedType

section split
variable {base : List Char}

theorem splitReversed_of_isBare (bare : IsBare base) :
    splitReversed base.reverse = { base := base.reverse } := by
  obtain ⟨notOptional, notArray⟩ := isBare_iff.mp bare
  refine splitReversed.eq_3 _ ?_ ?_
  · intro rest ends
    exact notOptional ⟨rest.reverse, by simpa using (congrArg List.reverse ends).symm⟩
  · intro rest ends
    exact notArray ⟨rest.reverse, by simpa using (congrArg List.reverse ends).symm⟩

theorem splitMarkers_concat (rest : List Char) (m : Marker) :
    splitMarkers (rest ++ m.text) = (splitMarkers rest).note m := by
  cases m <;> simp [splitMarkers, splitReversed, Marker.text, MarkedType.note]

/-- Splitting finds all markers behind a bare type. -/
theorem splitMarkers_withMarkers (bare : IsBare base) (markers : List Marker) :
    splitMarkers (withMarkers base markers) = .noted base markers := by
  induction markers using List.reverseRecOn with
  | nil => simp [withMarkers, splitMarkers, splitReversed_of_isBare bare, MarkedType.noted]
  | append_singleton markers m ih =>
    rw [withMarkers_concat, splitMarkers_concat, ih, MarkedType.noted_concat]

theorem splits_splitMarkers (bare : IsBare base) (markers : List Marker) :
    (splitMarkers (withMarkers base markers)).Splits (withMarkers base markers) markers := by
  rw [splitMarkers_withMarkers bare]
  obtain ⟨notOptional, notArray⟩ := isBare_iff.mp bare
  exact ⟨notOptional, notArray, rfl, by simp [MarkedType.noted], by simp [MarkedType.noted]⟩

/-- Whatever takes a type apart takes it apart in the way that splitting does. -/
theorem MarkedType.Splits.eq_splitMarkers {split : MarkedType}
    (splits : split.Splits type markers) : split = splitMarkers type := by
  have bare : IsBare split.base := isBare_iff.mpr ⟨splits.notOptional, splits.notArray⟩
  rw [splits.joined, splitMarkers_withMarkers bare]
  obtain ⟨base, isArray, isOptional⟩ := split
  simp [noted, ← splits.optional_iff, ← splits.array_iff]

end split

/-- Splitting takes every type apart, in the only way there is, and what is left of it is split as
itself. Turn by turn, it takes one turn for every marker and ends there. -/
theorem splitMarkers_decomposes (type : List Char) : ∃ markers : List Marker,
    (splitMarkers type).Splits type markers ∧
      (∀ other others, MarkedType.Splits other type others →
        other = splitMarkers type ∧ others = markers) ∧
      splitMarkers (splitMarkers type).base = { base := (splitMarkers type).base } ∧
      MarkedType.afterTurns? markers.length { base := type } = some (splitMarkers type) ∧
      (splitMarkers type).turn? = none := by
  obtain ⟨base, markers, bare, rfl⟩ := exists_isBare type
  have split := splitMarkers_withMarkers bare markers
  have kept : splitMarkers base = { base } := by
    simpa [withMarkers, MarkedType.noted] using splitMarkers_withMarkers bare []
  have turns := MarkedType.afterTurns?_noted base markers []
  refine ⟨markers, splits_splitMarkers bare markers, ?_, ?_, ?_, ?_⟩
  · intro other others splits
    have same := splits.eq_splitMarkers
    have joined := splits.joined
    rw [same, split] at joined
    exact ⟨same, (flatMap_text_inj (List.append_cancel_left joined)).symm⟩
  · rw [split]
    exact kept
  · rw [split]
    simpa [MarkedType.noted] using turns
  · rw [split]
    exact MarkedType.turn?_eq_none bare

example : splitMarkers "Tag[?]?[]".toList =
    { base := "Tag[?]".toList, isArray := true, isOptional := true } := by decide

end Conform.Schema
