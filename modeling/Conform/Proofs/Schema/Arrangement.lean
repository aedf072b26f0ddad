import Conform.Proofs.Schema.Declared
import Conform.Proofs.Schema.ReadBack
import Mathlib.Data.List.DropRight

/-! The lines of a model in another arrangement. Field lines and block attributes that keep their
own order are read the same, but for the key: the last `@@id` overwrites what the field lines above
it have put there, and the names of these come last. -/
namespace Conform.Schema

section rekeyed

theorem Field.marked_of_classify {f g : Field} (done : f.classify models enums table = .ok g) :
    (g.name, g.isId) = (f.name, f.isId) := by
  unfold classify at done
  dsimp only at done
  split at done
  · split at done <;> cases done
    rfl
  · split at done <;> cases done
    rfl

namespace Table

variable {t c u : Table} {ids : List String} {before after : List Table}

/-- The names of the fields that are marked as id. -/
def idNames (t : Table) : List String := (t.fields.filter (·.isId)).map (·.name)

/-- Marked fields join whatever key is there. -/
theorem classify_rekeyed (done : t.classify models enums = .ok c) (ids : List String) :
    ({ t with idFields := ids } : Table).classify models enums =
        .ok { c with idFields := t.idNames.foldl addOnce ids } ∧
      c.idFields = t.idNames.foldl addOnce t.idFields := by
  obtain ⟨fields, traversed, rfl⟩ := classify_ok_iff.mp done
  have names (fields : List Field) : (fields.filter (·.isId)).map (·.name) =
      ((fields.map fun f => (f.name, f.isId)).filter (·.2)).map (·.1) := by
    rw [List.filter_map, List.map_map]
    rfl
  have kept : fields.map (fun f => (f.name, f.isId)) = t.fields.map fun f => (f.name, f.isId) :=
    map_of_mapM_ok traversed fun _ _ => Field.marked_of_classify
  have same : (fields.filter (·.isId)).map (·.name) = t.idNames := by
    rw [idNames, names, names, kept]
  rw [same]
  refine ⟨classify_ok_iff.mpr ⟨fields, traversed, ?_⟩, rfl⟩
  rw [same]

/-- Whether a foreign key is sound does not depend on the key of any table. -/
theorem foreignKeyFault?_rekeyed (r : Relation) :
    u.foreignKeyFault? (before ++ { c with idFields := ids } :: after) r =
      u.foreignKeyFault? (before ++ c :: after) r := by
  unfold foreignKeyFault?
  rw [List.find?_append, List.find?_append, List.find?_cons, List.find?_cons]
  cases before.find? (·.name == r.referencedTable) with
  | some target => rfl
  | none =>
    by_cases own : (c.name == r.referencedTable) = true
    · simp only [own]
      cases u.unknownName? r.fields <;> cases u.relationName? r.fields <;> rfl
    · simp only [own]

theorem faults_rekeyed (u : Table) :
    u.faults (before ++ { c with idFields := ids } :: after) = u.faults (before ++ c :: after) := by
  unfold faults
  congr 1
  exact List.filterMap_congr fun r _ => foreignKeyFault?_rekeyed r

/-- A key of names of the old one has no fault. -/
theorem faults_of_subset (clean : t.faults tables = []) (known : ∀ name ∈ ids, name ∈ t.idFields) :
    ({ t with idFields := ids } : Table).faults tables = [] := by
  obtain ⟨keyed, others⟩ := faults_eq_nil_iff.mp clean
  obtain ⟨declared, columns⟩ := columnFault?_eq_none_iff.mp keyed
  refine faults_eq_nil_iff.mpr ⟨columnFault?_eq_none_iff.mpr ⟨?_, ?_⟩, others⟩
  · apply List.find?_eq_none.mpr
    intro name member
    exact List.find?_eq_none.mp declared name (known name member)
  · apply List.find?_eq_none.mpr
    intro name member
    exact List.find?_eq_none.mp columns name (known name member)

end Table

/-- A table with another key of the same names is normalized to the same, but for its key. -/
theorem normalize_rekeyed {t : Table} {ids : List String} {first last : List Table}
    {enums : List Enumeration} (normal : normalize (first ++ t :: last) enums = .ok m)
    (known : ∀ name ∈ t.idNames.foldl addOnce ids, name ∈ t.idNames.foldl addOnce t.idFields) :
    ∃ (before after : List Table) (c : Table), c.name = t.name ∧
      m.tables = before ++ { c with idFields := t.idNames.foldl addOnce t.idFields } :: after ∧
      normalize (first ++ { t with idFields := ids } :: last) enums = .ok { m with
        tables := before ++ { c with idFields := t.idNames.foldl addOnce ids } :: after } := by
  obtain ⟨distinct, classified, done, clean, rfl⟩ := normalize_ok_iff.mp normal
  have names : (first ++ { t with idFields := ids } :: last).map (·.name) =
      (first ++ t :: last).map (·.name) := by simp
  generalize (first ++ t :: last).map (·.name) = models at distinct done names
  have split := mapM_ok_iff.mp done
  rw [List.map_append, List.map_cons] at split
  obtain ⟨before, others, rfl, early, rest⟩ := List.map_eq_append_iff.mp split.symm
  obtain ⟨c, after, rfl, own, late⟩ := List.map_eq_cons_iff.mp rest
  obtain ⟨rekeyed, keyed⟩ := Table.classify_rekeyed own.symm ids
  have named : c.name = t.name := Table.name_of_classify own.symm
  obtain ⟨cleanBefore, cleanRest⟩ := List.forall_mem_append.mp clean
  obtain ⟨cleanOwn, cleanAfter⟩ := List.forall_mem_cons.mp cleanRest
  refine ⟨before.map (·.completed), after.map (·.completed), c.completed, named, ?_, ?_⟩
  · rw [← keyed, List.map_append, List.map_cons]
    rfl
  · refine normalize_ok_iff.mpr
      ⟨?_, before ++ { c with idFields := t.idNames.foldl addOnce ids } :: after, ?_, ?_, ?_⟩
    · rw [names]
      exact distinct
    · rw [names, mapM_ok_iff, List.map_append, List.map_cons, List.map_append, List.map_cons,
        rekeyed, early, late]
    · simp only [Table.faults_rekeyed]
      refine List.forall_mem_append.mpr ⟨cleanBefore, List.forall_mem_cons.mpr ⟨?_, cleanAfter⟩⟩
      apply Table.faults_of_subset cleanOwn
      rw [keyed]
      exact known
    · simp only [List.map_append, List.map_cons]
      rfl

end rekeyed

end Conform.Schema

namespace Conform.Schema.Source

open Text

/-- The line is a block attribute; other lines that are not empty are those of fields. -/
def isAttribute (text : List Char) : Bool := (after ['@', '@'] text).isSome

def attributeTexts (body : List (List Char)) : List (List Char) :=
  (body.map significant).filter isAttribute

def fieldTexts (body : List (List Char)) : List (List Char) :=
  (body.map significant).filter fun text => !isAttribute text && !text.isEmpty

/-- The same field lines and the same block attributes, each in their own order. -/
structure Rearranged (body body' : List (List Char)) : Prop where
  fields : fieldTexts body' = fieldTexts body
  attributes : attributeTexts body' = attributeTexts body

/-- A model in its source, but for the lines between its braces. -/
structure ModelFrame where
  before : List (List Char)
  header : List Char
  word : List Char
  closing : List Char
  after : List (List Char)
  between : enclosing before = none
  headed : IsHeader header "model".toList word
  closed : significant closing = ['\x7d']

def ModelFrame.lines (frame : ModelFrame) (body : List (List Char)) : List (List Char) :=
  frame.before ++ frame.header :: (body ++ frame.closing :: frame.after)

/-- The field that a line of a model declares. -/
def fieldOf? (text : List Char) : Option Field := if isAttribute text then none else fieldOn? text

/-- The names that an `@@id` lists. -/
def keyOn? (text : List Char) : Option (List String) :=
  if isAttribute text then (firstIn (blockArgument "@@id(".toList) text).map fieldList else none

/-- The name of a field that is marked as id on its own line. -/
def markedOn? (text : List Char) : Option String :=
  ((fieldOf? text).filter (·.isId)).map (·.name)

def markedNames (texts : List (List Char)) : List String := texts.filterMap markedOn?

/-- The names that the last `@@id` lists. -/
def listedNames (texts : List (List Char)) : List String :=
  (texts.filterMap keyOn?).getLast?.getD []

def aboveKey (texts : List (List Char)) : List (List Char) :=
  texts.rdropWhile fun text => (keyOn? text).isNone

def belowKey (texts : List (List Char)) : List (List Char) :=
  texts.rtakeWhile fun text => (keyOn? text).isNone

/-- The names that the last `@@id` lists, then the marked ones below it, then those above it. -/
def keyNames (body : List (List Char)) : List String :=
  let texts := body.map significant
  (markedNames (belowKey texts) ++ markedNames (aboveKey texts)).foldl addOnce (listedNames texts)

section addLine
variable {t : Table} {text : List Char} {texts : List (List Char)}

/-- The table with what a line of its model says. -/
def addLine (t : Table) (text : List Char) : Table :=
  if isAttribute text then readBlockAttribute t text else (fieldOn? text).elim t (addField t)

def constraintsOn (text : List Char) : List UniqueConstraint :=
  (addLine { name := "" } text).uniqueConstraints

def indexesOn (text : List Char) : List Index := (addLine { name := "" } text).indexes

theorem readBlockAttribute_eq (t : Table) (text : List Char) :
    readBlockAttribute t text =
      { t with
        uniqueConstraints :=
          t.uniqueConstraints ++ (readBlockAttribute { name := "" } text).uniqueConstraints
        indexes := t.indexes ++ (readBlockAttribute { name := "" } text).indexes
        idFields :=
          ((firstIn (blockArgument "@@id(".toList) text).map fieldList).getD t.idFields } := by
  unfold readBlockAttribute
  cases firstIn (blockArgument "@@id(".toList) text with
  | some list => simp
  | none =>
    cases firstIn (blockArgument "@@unique(".toList) text with
    | some list => simp
    | none => cases firstIn (blockArgument "@@index(".toList) text <;> simp

/-- All that a line says is appended, but an `@@id` overwrites the key. -/
theorem addLine_eq (t : Table) (text : List Char) :
    addLine t text =
      { t with
        fields := t.fields ++ (fieldOf? text).toList
        uniqueConstraints := t.uniqueConstraints ++ constraintsOn text
        indexes := t.indexes ++ indexesOn text
        idFields := (keyOn? text).getD ((markedOn? text).toList.foldl addOnce t.idFields) } := by
  by_cases block : isAttribute text = true
  · simp only [addLine, constraintsOn, indexesOn, markedOn?, fieldOf?, keyOn?, if_pos block]
    rw [readBlockAttribute_eq]
    simp
  · simp only [addLine, constraintsOn, indexesOn, markedOn?, fieldOf?, keyOn?, if_neg block]
    cases fieldOn? text with
    | none => simp
    | some f => by_cases id : f.isId = true <;> simp [Option.filter, id, addField]

theorem foldl_addLine (texts : List (List Char)) (name : String) :
    texts.foldl addLine { name } =
      { name
        fields := texts.filterMap fieldOf?
        uniqueConstraints := texts.flatMap constraintsOn
        indexes := texts.flatMap indexesOn
        idFields := (markedNames (belowKey texts)).foldl addOnce (listedNames texts) } := by
  induction texts using List.reverseRecOn with
  | nil => rfl
  | append_singleton texts text ih =>
    have declared : (texts ++ [text]).filterMap fieldOf? =
        texts.filterMap fieldOf? ++ (fieldOf? text).toList := by
      cases field : fieldOf? text <;> simp [field]
    rw [List.foldl_concat, ih, addLine_eq, declared]
    cases keyed : keyOn? text with
    | some list =>
      have below : belowKey (texts ++ [text]) = [] := by simp [belowKey, keyed]
      simp [below, listedNames, keyed, markedNames]
    | none =>
      have below : belowKey (texts ++ [text]) = belowKey texts ++ [text] := by
        simp [belowKey, keyed]
      cases name : markedOn? text <;> simp [below, listedNames, keyed, markedNames, name]

end addLine

section rearranged
variable {body body' : List (List Char)}

theorem flatMap_filter_of_nil {keep : α → Bool} {g : α → List β}
    (others : ∀ x, keep x = false → g x = []) (xs : List α) :
    (xs.filter keep).flatMap g = xs.flatMap g := by
  induction xs with
  | nil => rfl
  | cons x xs ih =>
    by_cases kept : keep x = true
    · rw [List.filter_cons_of_pos kept, List.flatMap_cons, List.flatMap_cons, ih]
    · have empty := others x (by simpa using kept)
      rw [List.filter_cons_of_neg kept, List.flatMap_cons, empty, ih, List.nil_append]

/-- What only the kept elements give is the same for lists with the same kept elements. -/
theorem flatMap_of_filter {keep : α → Bool} {xs xs' : List α}
    (same : xs'.filter keep = xs.filter keep) {g : α → List β}
    (others : ∀ x, keep x = false → g x = []) : xs'.flatMap g = xs.flatMap g := by
  rw [← flatMap_filter_of_nil others xs', same, flatMap_filter_of_nil others]

theorem filterMap_of_filter {keep : α → Bool} {xs xs' : List α}
    (same : xs'.filter keep = xs.filter keep) {f : α → Option β}
    (others : ∀ x, keep x = false → f x = none) : xs'.filterMap f = xs.filterMap f := by
  rw [List.filterMap_eq_flatMap_toList, List.filterMap_eq_flatMap_toList]
  apply flatMap_of_filter same
  intro x other
  rw [others x other, Option.toList_none]

/-- Only the lines of fields declare fields. -/
theorem fieldOf?_of_other {text : List Char}
    (other : (!isAttribute text && !text.isEmpty) = false) : fieldOf? text = none := by
  by_cases block : isAttribute text = true
  · exact if_pos block
  · have empty : text = [] := by simpa [block] using other
    rw [empty]
    rfl

/-- Only block attributes say something about constraints, indexes and the key as a whole. -/
theorem addLine_of_plain {text : List Char} (plain : isAttribute text = false) :
    constraintsOn text = [] ∧ indexesOn text = [] ∧ keyOn? text = none := by
  unfold constraintsOn indexesOn addLine keyOn?
  rw [plain, if_neg Bool.false_ne_true, if_neg Bool.false_ne_true]
  cases fieldOn? text <;> exact ⟨rfl, rfl, rfl⟩

namespace Rearranged

theorem marked_eq (rearranged : Rearranged body body') :
    markedNames (body'.map significant) = markedNames (body.map significant) := by
  apply filterMap_of_filter rearranged.fields
  intro text other
  rw [markedOn?, fieldOf?_of_other other]
  rfl

theorem listed_eq (rearranged : Rearranged body body') :
    listedNames (body'.map significant) = listedNames (body.map significant) := by
  have lists :=
    filterMap_of_filter rearranged.attributes fun _ plain => (addLine_of_plain plain).2.2
  rw [listedNames, lists, listedNames]

/-- Everything is read the same but the key. -/
theorem foldl_addLine_eq (rearranged : Rearranged body body') (name : String) :
    (body'.map significant).foldl addLine { name } =
      { (body.map significant).foldl addLine { name } with
        idFields := ((body'.map significant).foldl addLine { name }).idFields } := by
  have fields := filterMap_of_filter rearranged.fields fun _ => fieldOf?_of_other
  have constraints :=
    flatMap_of_filter rearranged.attributes fun _ plain => (addLine_of_plain plain).1
  have indexes :=
    flatMap_of_filter rearranged.attributes fun _ plain => (addLine_of_plain plain).2.1
  rw [foldl_addLine, foldl_addLine, fields, constraints, indexes]

end Rearranged

section key

theorem mem_foldl_addOnce {names more : List String} :
    name ∈ more.foldl addOnce names ↔ name ∈ names ∨ name ∈ more := by
  simpa using mem_foldl_iff (fun a b => b = a) (fun _ _ _ => mem_addOnce)

theorem foldl_addOnce_of_subset {names more : List String} (known : ∀ name ∈ more, name ∈ names) :
    more.foldl addOnce names = names := by
  apply foldl_eq_self
  intro name member
  exact if_pos (List.contains_iff_mem.mpr (known name member))

theorem marked_split (texts : List (List Char)) :
    markedNames texts = markedNames (aboveKey texts) ++ markedNames (belowKey texts) := by
  rw [markedNames, markedNames, markedNames, ← List.filterMap_append, aboveKey, belowKey,
    List.rdropWhile_append_rtakeWhile]

/-- The marked fields join the key once more when the fields are told apart. -/
theorem foldl_marked (body : List (List Char)) (name : String) :
    (markedNames (body.map significant)).foldl addOnce
      ((body.map significant).foldl addLine { name }).idFields = keyNames body := by
  rw [foldl_addLine, marked_split (body.map significant), List.foldl_append, keyNames,
    List.foldl_append]
  apply foldl_addOnce_of_subset
  intro name member
  simp [mem_foldl_addOnce, member]

theorem mem_keyNames {name : String} {body : List (List Char)} : name ∈ keyNames body ↔
    name ∈ listedNames (body.map significant) ∨ name ∈ markedNames (body.map significant) := by
  rw [keyNames, mem_foldl_addOnce, marked_split (body.map significant), List.mem_append,
    List.mem_append,
    or_comm (a := name ∈ markedNames (belowKey _))]

/-- The marked names that the last `@@id` does not list stand all below it or all above it. -/
def Together (body : List (List Char)) : Prop :=
  let texts := body.map significant
  (∀ name ∈ markedNames (aboveKey texts), name ∈ listedNames texts) ∨
    ∀ name ∈ markedNames (belowKey texts), name ∈ listedNames texts

theorem keyNames_of_together (together : Together body) : keyNames body =
    (markedNames (body.map significant)).foldl addOnce (listedNames (body.map significant)) := by
  rw [keyNames, marked_split (body.map significant), List.foldl_append, List.foldl_append]
  rcases together with above | below
  · have early := foldl_addOnce_of_subset above
    rw [early]
    apply foldl_addOnce_of_subset
    intro name member
    exact mem_foldl_addOnce.mpr (.inl (above name member))
  · have late := foldl_addOnce_of_subset below
    rw [late]
    refine (foldl_addOnce_of_subset fun name member => ?_).symm
    exact mem_foldl_addOnce.mpr (.inl (below name member))

/-- Marked fields that are not divided by an `@@id` are always in the same order. -/
theorem Rearranged.keyNames_eq (rearranged : Rearranged body body') (together : Together body)
    (together' : Together body') : keyNames body' = keyNames body := by
  rw [keyNames_of_together together, keyNames_of_together together', rearranged.marked_eq,
    rearranged.listed_eq]

end key

end rearranged

section run
variable {p q : Progress} {t t' : Table} {text : List Char} {number : Nat}
  {body : List (List Char)}

/-- A line that a model can hold: a block attribute, an empty one or a field with a type. -/
def Fits (text : List Char) : Prop :=
  isAttribute text = true ∨ text = [] ∨ (fieldOn? text).isSome = true

theorem addLine_nil (t : Table) : addLine t [] = t := rfl

theorem readModelLine_of_fits (filled : text ≠ []) (fits : Fits text) (t : Table) (number : Nat) :
    readModelLine t number text = .ok (addLine t text) := by
  by_cases block : isAttribute text = true
  · rw [addLine, if_pos block]
    exact if_pos block
  · have plain : after ['@', '@'] text = none := by simpa [isAttribute] using block
    obtain ⟨f, declared⟩ : ∃ f, fieldOn? text = some f := by
      simpa [Fits, block, filled, Option.isSome_iff_exists] using fits
    rw [readModelLine_plain plain, addLine, if_neg block, declared]
    rfl

theorem fits_of_readModelLine (read : readModelLine t number text = .ok t') : Fits text := by
  by_cases block : isAttribute text = true
  · exact .inl block
  · have plain : after ['@', '@'] text = none := by simpa [isAttribute] using block
    rw [readModelLine_plain plain] at read
    cases declared : fieldOn? text with
    | none => simp [declared] at read
    | some f => exact .inr (.inr (by rw [declared]; rfl))

/-- The closing brace is one word, and no attribute. -/
theorem Fits.not_closing (fits : Fits text) : text ≠ ['\x7d'] := by
  rintro rfl
  have single : fieldOn? ['\x7d'] = none := by decide +kernel
  rcases fits with block | empty | declared
  · cases block
  · cases empty
  · rw [single] at declared
    cases declared

theorem step_of_fits (inside : p.block = some (.model t, opened)) (fits : Fits text) :
    p.step number text = .ok { p with block := some (.model (addLine t text), opened) } := by
  by_cases empty : text = []
  · rw [empty, addLine_nil, Progress.with_block inside]
    rfl
  · have closing : ¬(text == ['\x7d']) = true := by simpa using fits.not_closing
    rw [Progress.step, if_neg (by simpa using empty), inside]
    dsimp only
    rw [if_neg closing, readModelLine_of_fits empty fits]
    rfl

theorem run_of_fits (inside : p.block = some (.model t, opened))
    (fits : ∀ line ∈ body, Fits (significant line)) :
    p.run number body =
      .ok { p with block := some (.model ((body.map significant).foldl addLine t), opened) } := by
  induction body generalizing p t number with
  | nil =>
    rw [List.map_nil, List.foldl_nil, Progress.with_block inside]
    rfl
  | cons line body ih =>
    obtain ⟨own, others⟩ := List.forall_mem_cons.mp fits
    rw [Progress.run, step_of_fits inside own]
    exact ih rfl others

/-- What is accepted inside of a model fits into it. -/
theorem fits_of_run (inside : p.block = some (.model t, opened))
    (open' : ∀ line ∈ body, significant line ≠ ['\x7d']) (done : p.run number body = .ok q) :
    ∀ line ∈ body, Fits (significant line) := by
  induction body generalizing p t number with
  | nil => nofun
  | cons line body ih =>
    obtain ⟨own, others⟩ := List.forall_mem_cons.mp open'
    obtain ⟨next, step, rest⟩ := ok_of_bind done
    have fits : Fits (significant line) := by
      cases Progress.moves_of_step step with
      | passes empty => exact .inr (.inl empty)
      | opens _ between _ => cases inside.symm.trans between
      | closes _ closing => exact absurd closing own
      | continues _ current _ takes =>
        obtain ⟨rfl, _⟩ := Prod.mk.inj (Option.some.inj (inside.symm.trans current))
        cases takes with
        | model read => exact fits_of_readModelLine read
    rw [step_of_fits inside fits] at step
    cases step
    exact List.forall_mem_cons.mpr ⟨fits, ih rfl others rest⟩

end run

section frame
variable {body body' : List (List Char)} {tables : List Table} {enums : List Enumeration}

/-- The lines from the header to the closing brace. -/
def ModelFrame.block (frame : ModelFrame) (body : List (List Char)) : List (List Char) :=
  frame.header :: (body ++ [frame.closing])

/-- The table that the model is read as. -/
def ModelFrame.table (frame : ModelFrame) (body : List (List Char)) : Table :=
  (body.map significant).foldl addLine { name := headerName frame.word }

theorem ModelFrame.lines_eq (frame : ModelFrame) (body : List (List Char)) :
    frame.lines body = frame.before ++ (frame.block body ++ frame.after) := by
  simp [lines, block]

theorem ModelFrame.opens (frame : ModelFrame) (number : Nat) :
    ({} : Progress).step number (significant frame.header) =
      .ok { block := some (.model { name := headerName frame.word }, number) } := by
  have filled := frame.headed.filled
  rw [Progress.step, if_neg (by simpa using filled)]
  dsimp only
  rw [frame.headed.openBlock_eq]
  rfl

theorem ModelFrame.readLines_block (frame : ModelFrame)
    (fits : ∀ line ∈ body, Fits (significant line)) :
    readLines (frame.block body) = .ok ([frame.table body], []) := by
  rw [readLines, block, Progress.run, frame.opens]
  change Progress.run _ 2 (body ++ [frame.closing]) >>= Progress.finish = _
  rw [Progress.run_append, run_of_fits rfl fits]
  simp [Progress.run, Progress.step, frame.closed, Progress.close, Progress.finish, bind,
    Except.bind, ModelFrame.table]

/-- Below a header the lines of an accepted text fit into the model that it opens. -/
theorem ModelFrame.fits_of_readLines (frame : ModelFrame)
    (open' : ∀ line ∈ body, significant line ≠ ['\x7d']) {after : List (List Char)}
    (accepted : readLines (frame.block body ++ after) = .ok (tables, enums)) :
    ∀ line ∈ body, Fits (significant line) := by
  obtain ⟨last, run, _⟩ := ok_of_bind accepted
  rw [block, List.cons_append, Progress.run, frame.opens, List.append_assoc] at run
  change Progress.run _ 2 (body ++ ([frame.closing] ++ after)) = _ at run
  rw [Progress.run_append] at run
  obtain ⟨q, inside, _⟩ := ok_of_bind run
  exact fits_of_run rfl open' inside

theorem readLines_append_ok_iff {first second : List (List Char)}
    (accepted : readLines first = .ok (tables, enums)) {found : List Table × List Enumeration} :
    readLines (first ++ second) = .ok found ↔ ∃ more, readLines second = .ok more ∧
      found = (tables ++ more.1, enums ++ more.2) := by
  rw [readLines_append accepted]
  cases readLines second with
  | error => simp [Except.map, Except.mapError]
  | ok more => simp [Except.map, Except.mapError, eq_comm]

/-- What stands above the model is accepted on its own. -/
theorem ModelFrame.readLines_before (frame : ModelFrame)
    (accepted : readLines (frame.before ++ rest) = .ok found) :
    ∃ above, readLines frame.before = .ok above := by
  obtain ⟨last, run, _⟩ := ok_of_bind accepted
  rw [Progress.run_append] at run
  obtain ⟨p, above, _⟩ := ok_of_bind run
  have reads := Progress.reads_start.run above
  cases current : p.block with
  | none =>
    refine ⟨(p.tables, p.enums), ?_⟩
    rw [readLines, above]
    change p.finish = _
    rw [Progress.finish, current]
  | some opened =>
    obtain ⟨_, _, _, enclosed, _⟩ := reads.inside _ _ current
    cases frame.between.symm.trans enclosed

/-- Other lines between the braces of a model change its table and nothing else. -/
theorem ModelFrame.readLines_lines (frame : ModelFrame)
    (open' : ∀ line ∈ body, significant line ≠ ['\x7d'])
    (accepted : readLines (frame.lines body) = .ok (tables, enums)) :
    (∀ line ∈ body, Fits (significant line)) ∧
    ∃ first last, tables = first ++ frame.table body :: last ∧
      ∀ body', (∀ line ∈ body', Fits (significant line)) →
        readLines (frame.lines body') = .ok (first ++ frame.table body' :: last, enums) := by
  rw [lines_eq] at accepted
  obtain ⟨above, before⟩ := frame.readLines_before accepted
  obtain ⟨rest, below, split⟩ := (readLines_append_ok_iff before).mp accepted
  have fits := frame.fits_of_readLines open' below
  obtain ⟨more, after, rfl⟩ := (readLines_append_ok_iff (frame.readLines_block fits)).mp below
  obtain ⟨rfl, rfl⟩ := Prod.mk.inj split
  refine ⟨fits, above.1, more.1, rfl, fun body' fits' => ?_⟩
  rw [lines_eq, readLines_append_ok_iff before]
  refine ⟨_, (readLines_append_ok_iff (frame.readLines_block fits')).mpr ⟨more, after, rfl⟩, rfl⟩

theorem Rearranged.fits (rearranged : Rearranged body body')
    (fits : ∀ line ∈ body, Fits (significant line)) : ∀ line ∈ body', Fits (significant line) := by
  intro line member
  by_cases block : isAttribute (significant line) = true
  · exact .inl block
  · by_cases empty : significant line = []
    · exact .inr (.inl empty)
    · have declares : significant line ∈ fieldTexts body' := by
        refine List.mem_filter.mpr ⟨List.mem_map_of_mem member, ?_⟩
        simp [block, empty]
      rw [rearranged.fields] at declares
      obtain ⟨own, among, same⟩ := List.mem_map.mp (List.mem_filter.mp declares).1
      exact same ▸ fits own among

end frame

theorem idNames_foldl_addLine (texts : List (List Char)) (name : String) :
    (texts.foldl addLine { name }).idNames = markedNames texts := by
  rw [foldl_addLine, Table.idNames, markedNames]
  induction texts with
  | nil => rfl
  | cons text texts ih =>
    cases declared : fieldOf? text with
    | none => simpa [markedNames, markedOn?, declared] using ih
    | some f =>
      by_cases id : f.isId = true <;>
        simpa [markedNames, markedOn?, declared, Option.filter, id] using ih

/-- The lines of a model may stand in any arrangement, but for its key: names that are marked above
the last `@@id` and not listed by it come after those marked below it. -/
theorem rearranged_model_iff {source source' : String} {m : Model} (frame : ModelFrame)
    {body body' : List (List Char)} (written : lines source.toList = frame.lines body)
    (written' : lines source'.toList = frame.lines body')
    (open' : ∀ line ∈ body, significant line ≠ ['\x7d']) (rearranged : Rearranged body body')
    (accepted : Model.ofSource source = .ok m) :
    (Model.ofSource source' = .ok m ↔ keyNames body' = keyNames body) ∧
    ∃ (first last : List Table) (t : Table), t.name = headerName frame.word ∧
      m.tables = first ++ { t with idFields := keyNames body } :: last ∧
      Model.ofSource source' =
        .ok { m with tables := first ++ { t with idFields := keyNames body' } :: last } := by
  obtain ⟨⟨tables, enums⟩, done, normal⟩ := ok_of_bind accepted
  rw [read_eq_readLines, written] at done
  obtain ⟨fits, first, last, rfl, others⟩ := frame.readLines_lines open' done
  have read := others body' (rearranged.fits fits)
  rw [← written', ← read_eq_readLines] at read
  have same : frame.table body' =
      { frame.table body with idFields := (frame.table body').idFields } :=
    rearranged.foldl_addLine_eq _
  have idNames : (frame.table body).idNames = markedNames (body.map significant) :=
    idNames_foldl_addLine _ _
  have own : (frame.table body).idNames.foldl addOnce (frame.table body).idFields =
      keyNames body := by
    rw [idNames]
    exact foldl_marked body _
  have other : (frame.table body).idNames.foldl addOnce (frame.table body').idFields =
      keyNames body' := by
    rw [idNames, ← rearranged.marked_eq]
    exact foldl_marked body' _
  have known : ∀ name ∈ keyNames body', name ∈ keyNames body := by
    intro name member
    rw [mem_keyNames] at member ⊢
    rwa [rearranged.listed_eq, rearranged.marked_eq] at member
  rw [← own, ← other] at known
  obtain ⟨before, after, t, named, normalized, normal'⟩ := normalize_rekeyed normal known
  rw [own] at normalized
  rw [other, ← same] at normal'
  have result : Model.ofSource source' =
      .ok { m with tables := before ++ { t with idFields := keyNames body' } :: after } := by
    rw [Model.ofSource, read]
    exact normal'
  have header : t.name = headerName frame.word := by
    rw [named, ModelFrame.table, foldl_addLine]
  refine ⟨?_, before, after, t, header, normalized, result⟩
  rw [result]
  constructor
  · intro equal
    have tables := congrArg Model.tables (Except.ok.inj equal)
    rw [normalized] at tables
    have table := (List.cons.inj (List.append_cancel_left tables)).1
    exact congrArg Table.idFields table
  · intro equal
    rw [equal, ← normalized]

/-- Players with two marked fields and a key that lists a third one. -/
def players : ModelFrame where
  before := []
  header := "model Player \x7b".toList
  word := "Player".toList
  closing := ['\x7d']
  after := []
  between := rfl
  headed := ⟨⟨[['\x7b']], by decide +kernel⟩, by decide +kernel, by decide +kernel⟩
  closed := by decide +kernel

def keyFirst : List (List Char) :=
  ["@@id([user])".toList, "team Int @id".toList, "season Int @id".toList, "user Int".toList]

def keyBetween : List (List Char) :=
  ["team Int @id".toList, "@@id([user])".toList, "season Int @id".toList, "user Int".toList]

def keyLast : List (List Char) :=
  ["team Int @id".toList, "season Int @id".toList, "user Int".toList, "@@id([user])".toList]

def playersText (body : List (List Char)) : String :=
  String.ofList (List.intercalate ['\n'] (players.lines body))

def playersModel (key : List String) : Model where
  tables := [{
    name := "Player"
    fields := [{ name := "team", type := "Int", isId := true },
      { name := "season", type := "Int", isId := true }, { name := "user", type := "Int" }]
    idFields := key }]

/-- In front of all fields and below them the key is the same. -/
theorem key_first_or_last :
    Model.ofSource (playersText keyFirst) = .ok (playersModel ["user", "team", "season"]) ∧
      Model.ofSource (playersText keyLast) = .ok (playersModel ["user", "team", "season"]) := by
  have accepted : Model.ofSource (playersText keyFirst) =
      .ok (playersModel ["user", "team", "season"]) := by decide +kernel
  have written : lines (playersText keyFirst).toList = players.lines keyFirst := by decide +kernel
  have written' : lines (playersText keyLast).toList = players.lines keyLast := by decide +kernel
  have open' : ∀ line ∈ keyFirst, significant line ≠ ['\x7d'] := by decide +kernel
  have rearranged : Rearranged keyFirst keyLast := ⟨by decide +kernel, by decide +kernel⟩
  have first : Together keyFirst := by
    left
    decide +kernel
  have last : Together keyLast := by
    right
    decide +kernel
  have iff := (rearranged_model_iff players written written' open' rearranged accepted).1
  exact ⟨accepted, iff.mpr (rearranged.keyNames_eq first last)⟩

/-- Between the marked fields the key is another one. -/
theorem key_between_differs : Rearranged keyFirst keyBetween ∧
    Model.ofSource (playersText keyFirst) = .ok (playersModel ["user", "team", "season"]) ∧
    Model.ofSource (playersText keyBetween) = .ok (playersModel ["user", "season", "team"]) :=
  ⟨⟨by decide +kernel, by decide +kernel⟩, by decide +kernel, by decide +kernel⟩

end Conform.Schema.Source
