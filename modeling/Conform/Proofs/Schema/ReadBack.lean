import Conform.Proofs.Schema.Attribute
import Conform.Proofs.Schema.Layout
import Mathlib.Data.List.Induction

/-! Canonical text is read back exactly. Each of its lines does one thing to what has been read, and
what the lines of a declaration do together is to declare what they were written for. -/
namespace Conform.Schema.Source

open Text Canonical FieldLine

/-- A text without slashes and line breaks. -/
def Unbroken (s : List Char) : Prop := '/' ∉ s ∧ '\n' ∉ s

/-- A line that counts as it stands. -/
structure Legible (line : List Char) : Prop where
  filled : line ≠ []
  unbroken : Unbroken line
  first : ∀ c ∈ line.head?, isBlank c = false
  last : ∀ c ∈ line.getLast?, isBlank c = false

/-- The conditions on a line, for one that can be computed. -/
def isLegible (line : List Char) : Bool :=
  !line.isEmpty && !line.contains '/' && !line.contains '\n' &&
    line.head?.all (!isBlank ·) && line.getLast?.all (!isBlank ·)

theorem legible_of_isLegible {line : List Char} (checked : isLegible line = true) :
    Legible line := by
  simp only [isLegible, Bool.and_eq_true, Bool.not_eq_true', List.isEmpty_eq_false_iff] at checked
  obtain ⟨⟨⟨⟨filled, slash⟩, newline⟩, first⟩, last⟩ := checked
  refine ⟨filled, ⟨?_, ?_⟩, end_visible_of_all first, end_visible_of_all last⟩
  · simpa using slash
  · simpa using newline

section unbroken
variable {s t : List Char}

theorem unbroken_nil : Unbroken [] := ⟨List.not_mem_nil, List.not_mem_nil⟩

@[simp] theorem unbroken_append : Unbroken (s ++ t) ↔ Unbroken s ∧ Unbroken t := by
  simp only [Unbroken, List.mem_append]
  tauto

theorem unbroken_text (x : Identifier) : Unbroken x.text :=
  ⟨x.not_mem_text (by decide), x.not_mem_text (by decide)⟩

theorem unbroken_listText (list : List Identifier) : Unbroken (listText list) :=
  ⟨not_mem_listText (by decide) list, not_mem_listText (by decide) list⟩

theorem unbroken_attribute (a : Attribute) : Unbroken a.text := by
  have word : Unbroken ('@' :: a.kind.word) := by
    cases a.kind <;> exact ⟨by decide, by decide⟩
  have ending : Unbroken a.ending := by
    cases a with
    | relation r =>
      have arguments : Unbroken (RelationAttribute.argumentsText r.arguments) :=
        ⟨not_mem_argumentsText (by decide) r.arguments,
          not_mem_argumentsText (by decide) r.arguments⟩
      exact unbroken_append.mpr ⟨arguments, by decide, by decide⟩
    | id | unique | objectId => exact unbroken_nil
  exact unbroken_append.mpr ⟨word, ending⟩

theorem uncomment_of_unbroken (unbroken : '/' ∉ s) (quoted escaped : Bool) :
    uncomment quoted escaped s = s := by
  induction s generalizing quoted escaped with
  | nil => rfl
  | cons c s ih =>
    have differs := (List.ne_of_not_mem_cons unbroken).symm
    rw [uncomment_cons fun comment => differs comment.1.1,
      ih (List.not_mem_of_not_mem_cons unbroken)]

theorem Legible.significant_eq (legible : Legible s) : significant s = s := by
  rw [significant, uncomment_of_unbroken legible.unbroken.1]
  exact trim_of_visible legible.first legible.last

end unbroken

section legible

theorem legible_text (x : Identifier) : Legible x.text where
  filled := x.text_ne_nil
  unbroken := unbroken_text x
  first c first := x.not_isBlank_of_mem c (List.mem_of_mem_head? first)
  last c last := x.not_isBlank_of_mem c (List.mem_of_mem_getLast? last)

/-- What stands at the ends of a text decides about it. -/
theorem Legible.append {s t : List Char} (first : Legible s) (second : Legible t)
    {between : List Char} (unbroken : Unbroken between) : Legible (s ++ (between ++ t)) := by
  obtain ⟨c, s, rfl⟩ := List.exists_cons_of_ne_nil first.filled
  refine ⟨by simp, ?_, first.first, fun d last => second.last d ?_⟩
  · exact unbroken_append.mpr
      ⟨first.unbroken, unbroken_append.mpr ⟨unbroken, second.unbroken⟩⟩
  · rw [List.getLast?_append, List.getLast?_append,
      List.getLast?_eq_some_getLast second.filled] at last
    rw [List.getLast?_eq_some_getLast second.filled]
    exact last

theorem Legible.flatMap {f : α → List Char} {between : List Char} (unbroken : Unbroken between)
    (each : ∀ a, Legible (f a)) (list : List α) {s : List Char} (start : Legible s) :
    Legible (s ++ list.flatMap fun a => between ++ f a) := by
  induction list generalizing s with
  | nil => simpa using start
  | cons a list ih =>
    have next := ih (start.append (each a) unbroken)
    simpa using next

theorem legible_closing : Legible ['\x7d'] := legible_of_isLegible rfl

/-- The key words of blocks are words. -/
theorem legible_keyword {word : List Char} (listed : word ∈ ["model".toList, "enum".toList]) :
    Legible word ∧ ∀ c ∈ word, isBlank c = false := by
  have all : ["model".toList, "enum".toList].all
      (fun word => isLegible word && word.all (!isBlank ·)) = true := rfl
  obtain ⟨legible, visible⟩ := Bool.and_eq_true_iff.mp (List.all_eq_true.mp all word listed)
  exact ⟨legible_of_isLegible legible, visible_of_all visible⟩

theorem legible_header {keyword : List Char} (word : Legible keyword) (name : Identifier) :
    Legible (header keyword name) := by
  have brace : Legible ['\x7b'] := legible_of_isLegible rfl
  have space : Unbroken [' '] := ⟨by decide, by decide⟩
  have whole := (word.append (legible_text name) space).append brace space
  simpa [header] using whole

theorem legible_attribute (a : Attribute) : Legible a.text where
  filled := List.cons_ne_nil _ _
  unbroken := unbroken_attribute a
  first := by
    rintro c ⟨⟩
    rfl
  last := visible_last_text a

theorem legible_typeText (f : FieldLine) : Legible f.typeText := by
  have marker (m : Marker) : Legible m.text := by
    cases m <;> exact legible_of_isLegible rfl
  exact Legible.flatMap unbroken_nil marker f.markers (legible_text f.base)

theorem legible_field (f : FieldLine) : Legible f.text := by
  have space : Unbroken [' '] := ⟨by decide, by decide⟩
  have head := (legible_text f.name).append (legible_typeText f) space
  have whole := Legible.flatMap space legible_attribute f.attributes head
  simpa [FieldLine.text, attributesText] using whole

theorem legible_blockAttribute (a : BlockAttribute) : Legible a.text := by
  have opening : Legible a.kind.opening := by
    cases a.kind <;> exact legible_of_isLegible rfl
  have closing : Legible "])".toList := legible_of_isLegible rfl
  have bracket : Unbroken ['['] := ⟨by decide, by decide⟩
  have list : Unbroken (['['] ++ listText a.list) :=
    unbroken_append.mpr ⟨bracket, unbroken_listText a.list⟩
  have whole := opening.append closing list
  simpa [BlockAttribute.text] using whole

end legible

section lines

theorem lines_unlines {texts : List (List Char)} (unbroken : ∀ line ∈ texts, '\n' ∉ line) :
    lines (texts.flatMap (· ++ ['\n'])) = texts ++ [[]] := by
  induction texts with
  | nil => rfl
  | cons line texts ih =>
    obtain ⟨own, others⟩ := List.forall_mem_cons.mp unbroken
    have uncut : ∀ c ∈ line, (c == '\n') = false := by
      intro c member
      have differs : c ≠ '\n' := fun same => own (same ▸ member)
      simpa using differs
    have split : (line :: texts).flatMap (· ++ ['\n']) =
        line ++ '\n' :: texts.flatMap (· ++ ['\n']) := by simp
    rw [split, lines, pieces_cons uncut rfl]
    exact congrArg (line :: ·) (ih others)

end lines

section words
variable {word rest : List Char}

theorem words_header {keyword : List Char} (filled : keyword ≠ [])
    (visible : ∀ c ∈ keyword, isBlank c = false) (name : Identifier) :
    words (header keyword name) = [keyword, name.text, ['\x7b']] := by
  rw [header, words_cons filled visible rfl,
    words_cons name.text_ne_nil name.not_isBlank_of_mem rfl,
    words_of_visible (by decide) (visible_of_all rfl)]

/-- The text after a word that white space ends. -/
theorem afterWord_append (filled : word ≠ []) (visible : ∀ c ∈ word, isBlank c = false)
    (ends : ∀ c ∈ rest.head?, isBlank c = true) : afterWord (word ++ rest) = rest := by
  have starts : ∀ c ∈ (word ++ rest).head?, isBlank c = false := by
    obtain ⟨c, word, rfl⟩ := List.exists_cons_of_ne_nil filled
    rintro d ⟨⟩
    exact visible c (.head _)
  have passes : ∀ c ∈ word, (!isBlank c) = true := by
    intro c member
    simp [visible c member]
  rw [afterWord, trimStart_of_visible starts, List.dropWhile_append_of_pos passes]
  cases rest with
  | nil => rfl
  | cons c rest => exact List.dropWhile_cons_of_neg (by simp [ends c rfl])

theorem afterWord_space (s : List Char) : afterWord (' ' :: s) = afterWord s := rfl

theorem afterWord_trimStart (s : List Char) : afterWord (trimStart s) = afterWord s := by
  rw [afterWord, trimStart_of_visible (trimStart_head s), afterWord]

theorem words_afterWord (s : List Char) : words (afterWord s) = (words s).tail := by
  rw [← afterWord_trimStart s]
  rcases exists_first_word s with ⟨empty, none⟩ | ⟨_, _, starts, filled, visible, ends, worded⟩
  · rw [empty, none]
    rfl
  · rw [starts, afterWord_append filled visible ends, worded, List.tail_cons]

/-- Between the white space before its first word and what stands after it there is that word. -/
theorem trimStart_of_words (worded : words s = word :: others) :
    trimStart s = word ++ afterWord s := by
  rw [← afterWord_trimStart s]
  rcases exists_first_word s with ⟨_, none⟩ | ⟨_, _, starts, filled, visible, ends, listed⟩
  · cases none.symm.trans worded
  · obtain ⟨rfl, _⟩ := List.cons.inj (listed.symm.trans worded)
    rw [starts, afterWord_append filled visible ends]

theorem typeText_visible (f : FieldLine) : ∀ c ∈ f.typeText, isBlank c = false := by
  have marker (m : Marker) : ∀ c ∈ m.text, isBlank c = false := by
    cases m <;> exact visible_of_all rfl
  intro c member
  rcases List.mem_append.mp member with base | marked
  · exact f.base.not_isBlank_of_mem c base
  · obtain ⟨m, _, member⟩ := List.mem_flatMap.mp marked
    exact marker m c member

theorem attributesText_head (attributes : List Attribute) :
    ∀ c ∈ (attributesText attributes).head?, isBlank c = true := by
  cases attributes with
  | nil => nofun
  | cons a rest =>
    rw [attributesText_cons]
    rintro c ⟨⟩
    rfl

theorem words_field (f : FieldLine) : ∃ rest : List (List Char),
    words f.text = f.name.text :: f.typeText :: rest := by
  have typed : ∃ rest : List (List Char),
      words (f.typeText ++ attributesText f.attributes) = f.typeText :: rest := by
    have filled := (legible_typeText f).filled
    have visible := typeText_visible f
    cases attributes : f.attributes with
    | nil =>
      refine ⟨[], ?_⟩
      rw [attributesText, List.flatMap_nil, List.append_nil]
      exact words_of_visible filled visible
    | cons a rest =>
      rw [attributesText_cons]
      exact ⟨_, words_cons filled visible rfl _⟩
  obtain ⟨rest, typed⟩ := typed
  refine ⟨rest, ?_⟩
  rw [FieldLine.text, words_cons f.name.text_ne_nil f.name.not_isBlank_of_mem rfl, typed]

theorem afterWord_field (f : FieldLine) :
    afterWord (afterWord f.text) = attributesText f.attributes := by
  have blank : ∀ c ∈ (' ' :: (f.typeText ++ attributesText f.attributes)).head?,
      isBlank c = true := by
    rintro c ⟨⟩
    rfl
  rw [FieldLine.text, afterWord_append f.name.text_ne_nil f.name.not_isBlank_of_mem blank,
    afterWord_space, afterWord_append (legible_typeText f).filled (typeText_visible f)
      (attributesText_head f.attributes)]

end words

section modelLine

/-- The table with one more field. -/
def addField (t : Table) (f : Field) : Table :=
  { t with
    fields := t.fields ++ [f]
    idFields := if f.isId then addOnce t.idFields f.name else t.idFields }

/-- The table with what the block attribute says. -/
def addAttribute (t : Table) (a : BlockAttribute) : Table :=
  match a.kind with
  | .id => { t with idFields := a.list.map (·.name) }
  | .unique => { t with uniqueConstraints := t.uniqueConstraints ++ [⟨a.list.map (·.name)⟩] }
  | .index => { t with indexes := t.indexes ++ [⟨a.list.map (·.name)⟩] }

/-- The attributes on the line of a field, after its name and type. -/
def attributesOn (line : List Char) : List Char := trim (afterWord (afterWord line))

/-- The field that a line declares, unless it has no type. -/
def fieldOn? (line : List Char) : Option Field :=
  match words line with
  | name :: type :: _ => some (readField name type (attributesOn line))
  | _ => none

theorem readModelLine_plain {line : List Char} (plain : after ['@', '@'] line = none) (t : Table)
    (number : Nat) : readModelLine t number line = match fieldOn? line with
      | some f => .ok (addField t f)
      | none => .error (.fieldWithoutType t.name number (String.ofList line)) := by
  rw [readModelLine, plain, if_neg (by simp), fieldOn?]
  rcases words line with _ | ⟨name, _ | ⟨type, others⟩⟩ <;> rfl

theorem readModelLine_field (t : Table) (number : Nat) (f : FieldLine) :
    readModelLine t number f.text = .ok (addField t f.field) := by
  have letter : f.name.first ≠ '@' := f.name.first_ne (by decide)
  have plain : after ['@', '@'] f.text = none := if_neg letter.symm
  obtain ⟨rest, words⟩ := words_field f
  rw [readModelLine, if_neg (by simp [plain]), words]
  dsimp only
  rw [afterWord_field, readField_text]
  rfl

theorem opening_toList : "@@id(".toList = Kind.id.opening ∧
    "@@unique(".toList = Kind.unique.opening ∧ "@@index(".toList = Kind.index.opening :=
  ⟨rfl, rfl, rfl⟩

theorem readBlockAttribute_text (t : Table) (a : BlockAttribute) :
    readBlockAttribute t a.text = addAttribute t a := by
  obtain ⟨id, unique, index⟩ := opening_toList
  rw [readBlockAttribute, id, unique, index, blockArgument_text, blockArgument_text,
    blockArgument_text, addAttribute]
  cases a.kind <;> simp [fieldList_listText]

theorem readModelLine_attribute (t : Table) (number : Nat) (a : BlockAttribute) :
    readModelLine t number a.text = .ok (addAttribute t a) := by
  have marked : (after ['@', '@'] a.text).isSome = true := by
    have found := after_append ['@', '@'] (a.kind.word ++ '[' :: (listText a.list ++ "])".toList))
    have text : a.text =
        ['@', '@'] ++ (a.kind.word ++ '[' :: (listText a.list ++ "])".toList)) := rfl
    rw [text, found]
    rfl
  rw [readModelLine, if_pos marked, readBlockAttribute_text]

end modelLine

section tables

/-- First occurrences are kept, one name after the other. -/
theorem eraseDups_concat (names : List String) (name : String) :
    (names ++ [name]).eraseDups = addOnce names.eraseDups name := by
  rw [List.eraseDups_append, addOnce]
  by_cases known : name ∈ names
  · have gone : [name].removeAll names = [] := by simp [List.removeAll, known]
    have contained : names.eraseDups.contains name = true := by
      simpa [List.mem_eraseDups] using known
    rw [gone, if_pos contained, List.eraseDups_nil, List.append_nil]
  · have kept : [name].removeAll names = [name] := by simp [List.removeAll, known]
    have missing : ¬names.eraseDups.contains name = true := by
      simpa [List.mem_eraseDups] using known
    rw [kept, if_neg missing]
    rfl

theorem foldl_addField (name : String) (fields : List FieldLine) :
    fields.foldl (fun t f => addField t f.field) { name } =
      { name
        fields := fields.map (·.field)
        idFields := ((fields.filter (·.field.isId)).map (·.name.name)).eraseDups } := by
  induction fields using List.reverseRecOn with
  | nil => rfl
  | append_singleton fields f ih =>
    rw [List.foldl_append, ih]
    by_cases key : f.field.isId = true
    · have named : f.field.name = f.name.name := rfl
      simp [addField, key, eraseDups_concat, named]
    · simp [addField, key]

theorem foldl_addAttribute (t : Table) (attributes : List BlockAttribute) :
    attributes.foldl addAttribute t =
      { t with
        uniqueConstraints :=
          t.uniqueConstraints ++ (attributes.filterMap (·.namesOf .unique)).map .mk
        indexes := t.indexes ++ (attributes.filterMap (·.namesOf .index)).map .mk
        idFields := (attributes.filterMap (·.namesOf .id)).getLast?.getD t.idFields } := by
  induction attributes generalizing t with
  | nil => simp
  | cons a attributes ih =>
    rw [List.foldl_cons, ih]
    cases kind : a.kind <;>
      simp [addAttribute, BlockAttribute.namesOf, kind, List.getLast?_cons]

theorem table_eq (m : ModelBlock) : m.attributes.foldl addAttribute
    (m.fields.foldl (fun t f => addField t f.field) { name := m.name.name }) = m.table := by
  rw [foldl_addField, foldl_addAttribute]
  simp [ModelBlock.table, ModelBlock.idNames]

end tables

section run
variable {p : Progress}

theorem Legible.step {line : List Char} (legible : Legible line) {q : Progress}
    (step : p.step number line = .ok q) (rest : List (List Char)) :
    p.run number (line :: rest) = q.run (number + 1) rest := by
  rw [Progress.run, legible.significant_eq, step]
  rfl

/-- The first word of a header decides which block it opens. -/
theorem openBlock_header {keyword : List Char}
    (listed : keyword ∈ ["model".toList, "enum".toList]) (name : Identifier) (number : Nat) :
    openBlock number (header keyword name) = match some (String.ofList keyword) with
      | some "model" => .ok (.model { name := name.name })
      | some "enum" => .ok (.enumeration { name := name.name, values := [] })
      | _ => .ok (.other name.name) := by
  have braced : (header keyword name).getLast? = some '\x7b' := by
    simp [header, List.getLast?_append, List.getLast?_cons]
  have named : dropEndWhile (· == '\x7b') name.text = name.text := by
    have kept : name.text.reverse.dropWhile (· == '\x7b') = name.text.reverse := by
      cases reversed : name.text.reverse with
      | nil => rfl
      | cons c rest =>
        have member : c ∈ name.text := by
          rw [← List.mem_reverse, reversed]
          exact .head _
        have differs : c ≠ '\x7b' := by
          rintro rfl
          exact name.not_mem_text (by decide) member
        exact List.dropWhile_cons_of_neg (by simpa using differs)
    rw [dropEndWhile, kept, List.reverse_reverse]
  have filled : name.name.isEmpty = false := by
    simp [Identifier.name, name.text_ne_nil]
  obtain ⟨word, visible⟩ := legible_keyword listed
  unfold openBlock
  rw [words_header word.filled visible, braced]
  simp only [named]
  rw [if_neg]
  · rfl
  · simpa [Identifier.name] using filled

theorem openBlock_model (name : Identifier) (number : Nat) :
    openBlock number (header "model".toList name) = .ok (.model { name := name.name }) := by
  rw [openBlock_header (.head _), String.ofList_toList]
  rfl

theorem openBlock_enum (name : Identifier) (number : Nat) :
    openBlock number (header "enum".toList name) =
      .ok (.enumeration { name := name.name, values := [] }) := by
  rw [openBlock_header (.tail _ (.head _)), String.ofList_toList]
  rfl

/-- Lines that add to the table of the open block, one after the other. -/
theorem run_model {text : α → List Char} {add : Table → α → Table}
    (legible : ∀ x, Legible (text x)) (inside : ∀ x, text x ≠ ['\x7d'])
    (reads : ∀ t number x, readModelLine t number (text x) = .ok (add t x)) (xs : List α)
    (t : Table) (current : p.block = some (.model t, opened)) (number : Nat) :
    p.run number (xs.map text) =
      .ok { p with block := some (.model (xs.foldl add t), opened) } := by
  induction xs generalizing p t number with
  | nil =>
    rw [List.map_nil, List.foldl_nil, ← current]
    rfl
  | cons x xs ih =>
    have step : p.step number (text x) =
        .ok { p with block := some (.model (add t x), opened) } := by
      simp [Progress.step, (legible x).filled, current, inside x, reads, Except.map]
    rw [List.map_cons, (legible x).step step]
    exact ih (add t x) rfl (number + 1)

theorem readEnumLine_text (e : Enumeration) (x : Identifier) :
    readEnumLine e x.text = { e with values := e.values ++ [x.name] } := by
  have letter : x.text.head? ≠ some '@' := by
    intro same
    exact x.first_ne (by decide) (Option.some.inj same)
  rw [readEnumLine, if_neg (by simpa using letter),
    words_of_visible x.text_ne_nil x.not_isBlank_of_mem]
  rfl

theorem run_values (values : List Identifier) (e : Enumeration)
    (current : p.block = some (.enumeration e, opened)) (number : Nat) :
    p.run number (values.map (·.text)) = .ok { p with
      block := some
        (.enumeration { e with values := e.values ++ values.map (·.name) }, opened) } := by
  induction values generalizing p e number with
  | nil =>
    rw [List.map_nil, List.map_nil, List.append_nil, ← current]
    rfl
  | cons x values ih =>
    have inside : x.text ≠ ['\x7d'] := by
      intro same
      exact x.first_ne (by decide) (List.cons.inj same).1
    have step : p.step number x.text = .ok { p with
        block := some (.enumeration { e with values := e.values ++ [x.name] }, opened) } := by
      simp [Progress.step, x.text_ne_nil, current, inside, readEnumLine_text]
    rw [List.map_cons, (legible_text x).step step, ih _ rfl]
    simp

theorem run_closing (current : p.block = some (block, opened)) (number : Nat) :
    p.run number [['\x7d']] = .ok (p.close block) := by
  have step : p.step number ['\x7d'] = .ok (p.close block) := by
    simp [Progress.step, current]
  rw [legible_closing.step step]
  rfl

/-- The declarations with one more at the end of its list. -/
def declare (p : Progress) (d : Declaration) : Progress :=
  { p with
    tables := p.tables ++ d.table?.toList
    enums := p.enums ++ d.enumeration?.toList }

theorem step_opens {line : List Char} (legible : Legible line) (between : p.block = none)
    (opens : openBlock number line = .ok block) :
    p.step number line = .ok { p with block := some (block, number) } := by
  simp [Progress.step, legible.filled, between, opens, Except.map]

theorem run_modelBlock (m : ModelBlock) (between : p.block = none) (number : Nat) :
    p.run number m.lines = .ok (declare p (.model m)) := by
  have legible := legible_header (legible_keyword (.head _)).1 m.name
  have field (f : FieldLine) : f.text ≠ ['\x7d'] := by
    intro same
    exact f.name.first_ne (by decide) (List.cons.inj same).1
  have blockAttribute (a : BlockAttribute) : a.text ≠ ['\x7d'] := nofun
  have opens := step_opens legible between (openBlock_model m.name number)
  rw [ModelBlock.lines, legible.step opens, Progress.run_append,
    run_model legible_field field readModelLine_field m.fields _ rfl]
  change Progress.run _ _ _ = _
  rw [Progress.run_append,
    run_model legible_blockAttribute blockAttribute readModelLine_attribute m.attributes _ rfl]
  change Progress.run _ _ _ = _
  rw [run_closing rfl, table_eq]
  obtain ⟨tables, enums, block⟩ := p
  cases between
  simp [Progress.close, declare, Declaration.table?, Declaration.enumeration?]

theorem run_enumerationBlock (e : EnumerationBlock) (between : p.block = none) (number : Nat) :
    p.run number e.lines = .ok (declare p (.enumeration e)) := by
  have legible := legible_header (legible_keyword (.tail _ (.head _))).1 e.name
  have opens := step_opens legible between (openBlock_enum e.name number)
  rw [EnumerationBlock.lines, legible.step opens, Progress.run_append, run_values e.values _ rfl]
  change Progress.run _ _ _ = _
  rw [run_closing rfl]
  obtain ⟨tables, enums, block⟩ := p
  cases between
  simp [Progress.close, declare, Declaration.table?, Declaration.enumeration?,
    EnumerationBlock.enumeration]

theorem run_declaration (d : Declaration) (between : p.block = none) (number : Nat) :
    p.run number d.lines = .ok (declare p d) := by
  cases d with
  | model m => exact run_modelBlock m between number
  | enumeration e => exact run_enumerationBlock e between number

/-- A block ends where its declaration ends, so that declarations are read one by one. -/
theorem run_declarations (declarations : List Declaration) (between : p.block = none)
    (number : Nat) : p.run number (declarations.flatMap (·.lines)) =
      .ok (declarations.foldl declare p) := by
  induction declarations generalizing p number with
  | nil => rfl
  | cons d declarations ih =>
    rw [List.flatMap_cons, Progress.run_append, run_declaration d between]
    exact ih (p := declare p d) between _

theorem foldl_declare (declarations : List Declaration) : declarations.foldl declare p =
    { p with
      tables := p.tables ++ declarations.filterMap (·.table?)
      enums := p.enums ++ declarations.filterMap (·.enumeration?) } := by
  induction declarations generalizing p with
  | nil => simp
  | cons d declarations ih =>
    rw [List.foldl_cons, ih]
    cases d <;> simp [declare, Declaration.table?, Declaration.enumeration?]

end run

theorem legible_lines (d : Declaration) : ∀ line ∈ d.lines, Legible line := by
  intro line member
  cases d with
  | model m =>
    simp only [Declaration.lines, ModelBlock.lines, List.mem_cons, List.mem_append, List.mem_map,
      List.not_mem_nil, or_false] at member
    rcases member with rfl | ⟨f, _, rfl⟩ | ⟨a, _, rfl⟩ | rfl
    · exact legible_header (legible_keyword (.head _)).1 m.name
    · exact legible_field f
    · exact legible_blockAttribute a
    · exact legible_closing
  | enumeration e =>
    simp only [Declaration.lines, EnumerationBlock.lines, List.mem_cons, List.mem_append,
      List.mem_map, List.not_mem_nil, or_false] at member
    rcases member with rfl | ⟨x, _, rfl⟩ | rfl
    · exact legible_header (legible_keyword (.tail _ (.head _))).1 e.name
    · exact legible_text x
    · exact legible_closing

/-- Canonical text declares what it was written for, in the order in which it stands there. -/
theorem read_source (declarations : List Declaration) :
    read (source declarations) = .ok (declarations.filterMap (·.table?),
      declarations.filterMap (·.enumeration?)) := by
  have unbroken : ∀ line ∈ declarations.flatMap (·.lines), '\n' ∉ line := by
    intro line member
    obtain ⟨d, _, member⟩ := List.mem_flatMap.mp member
    exact (legible_lines d line member).unbroken.2
  have text : lines (source declarations).toList = declarations.flatMap (·.lines) ++ [[]] := by
    rw [source, String.toList_ofList, lines_unlines unbroken]
  rw [read_eq_readLines, text, readLines, Progress.run_append, run_declarations declarations rfl,
    foldl_declare]
  rfl

example :
    let pet : Identifier := ⟨'P', ['e'], rfl, List.forall_mem_singleton.mpr (.inl rfl)⟩
    let user : Identifier := ⟨'U', ['_'], rfl, List.forall_mem_singleton.mpr (.inr rfl)⟩
    let x : Identifier := ⟨'x', [], rfl, nofun⟩
    let relation : RelationAttribute := { fields := some [x, pet], onUpdate := some user }
    let field : FieldLine := ⟨x, user, [.optional], [.id, .relation relation], Nat.le_refl 1⟩
    source [.model ⟨pet, [field], [⟨.index, x, [user]⟩]⟩, .enumeration ⟨user, [x]⟩] =
      "model Pe \x7b\nx U_? @id @relation(fields: [x, Pe], onUpdate: U_)\n" ++
        "@@index([x, U_])\n\x7d\nenum U_ \x7b\nx\n\x7d\n" := by
  decide +kernel

end Conform.Schema.Source
