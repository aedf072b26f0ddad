import Conform.Proofs.Schema.Canonical
import Conform.Proofs.Text.Blank
import Conform.Proofs.Text.Search
import Conform.Schema.Source

/-! Attributes are found in canonical text. The labels of a relation stand nowhere but before its
arguments, since names have no colon, and no attribute begins inside of another. -/
namespace Conform.Schema.Source

open Text Canonical

section lists

theorem fieldList_append (before after : List Char) :
    fieldList (before ++ ',' :: after) = fieldList before ++ fieldList after := by
  simp [fieldList, pieces_append]

theorem trim_space (s : List Char) : trim (' ' :: s) = trim s := by
  have blank : ∀ c ∈ [' '], isBlank c = true := List.forall_mem_singleton.mpr rfl
  exact trim_append_left blank s

theorem fieldList_space (s : List Char) : fieldList (' ' :: s) = fieldList s := by
  cases cut : pieces (· == ',') s with
  | nil => exact absurd cut (pieces_ne_nil _ s)
  | cons first others => simp [fieldList, pieces, cut, trim_space]

theorem trim_text (x : Identifier) : trim x.text = x.text := by
  refine trim_of_visible (fun c first => ?_) fun c last => ?_
  · exact x.not_isBlank_of_mem c (List.mem_of_mem_head? first)
  · exact x.not_isBlank_of_mem c (List.mem_of_mem_getLast? last)

theorem fieldList_text (x : Identifier) : fieldList x.text = [x.name] := by
  have whole : pieces (· == ',') x.text = [x.text] := by
    refine pieces_of_uncut fun c member => ?_
    have differs : c ≠ ',' := fun same => x.not_mem_text (by decide) (same ▸ member)
    simpa using differs
  have kept : x.text.takeWhile (· != '(') = x.text := by
    refine List.takeWhile_eq_self_iff.mpr (ne_of_not_mem ?_)
    exact x.not_mem_text (by decide)
  simp [fieldList, whole, kept, trim_text, x.text_ne_nil, Identifier.name]

theorem fieldList_listText (list : List Identifier) :
    fieldList (listText list) = list.map (·.name) := by
  induction list with
  | nil => rfl
  | cons x list ih =>
    cases list with
    | nil => simpa [listText] using fieldList_text x
    | cons y list =>
      have split : listText (x :: y :: list) = x.text ++ ',' :: (' ' :: listText (y :: list)) := by
        simp [listText]
      rw [split, fieldList_append, fieldList_space, ih, fieldList_text]
      rfl

/-- Names, commas and spaces. -/
theorem mem_listText {list : List Identifier} (member : c ∈ listText list) :
    IsNameChar c ∨ c = ',' ∨ c = ' ' := by
  induction list with
  | nil => cases member
  | cons x list ih =>
    cases list with
    | nil =>
      have own : c ∈ x.text := by simpa [listText] using member
      exact .inl (x.isNameChar_of_mem c own)
    | cons y list =>
      have split : listText (x :: y :: list) = x.text ++ ',' :: ' ' :: listText (y :: list) := by
        simp [listText]
      rw [split, List.mem_append, List.mem_cons, List.mem_cons] at member
      rcases member with own | comma | space | other
      · exact .inl (x.isNameChar_of_mem c own)
      · exact .inr (.inl comma)
      · exact .inr (.inr space)
      · exact ih other

theorem not_mem_listText (special : ¬(IsNameChar c ∨ c = ',' ∨ c = ' ')) (list : List Identifier) :
    c ∉ listText list :=
  fun member => special (mem_listText member)

end lists

section arguments
open RelationAttribute

variable {label other : Label} {arguments : List (Label × Value)}

theorem skips_label (differs : other ≠ label) : skips label.text other.text = true := by
  cases label <;> cases other <;> first | exact absurd rfl differs | rfl

/-- Of the characters around names a label has only the colon. -/
theorem mem_label (label : Label) :
    ':' ∈ label.text ∧ ',' ∉ label.text ∧ ' ' ∉ label.text ∧
      ∀ c ∈ label.text, IsNameChar c ∨ c = ':' := by
  have all : ':' ∈ label.text ∧ ',' ∉ label.text ∧ ' ' ∉ label.text ∧
      label.text.all (fun c => decide (IsNameChar c ∨ c = ':')) = true := by
    cases label <;> decide
  simpa only [List.all_eq_true, decide_eq_true_eq] using all

theorem not_mem_value (special : ¬(IsNameChar c ∨ c ∈ [',', ' ', '[', ']'])) (value : Value) :
    c ∉ value.text := by
  obtain ⟨notName, notMark⟩ := not_or.mp special
  cases value with
  | names list =>
    have notListed : c ∉ listText list :=
      not_mem_listText (by simp_all) list
    simp_all [Value.text]
  | action name => exact name.not_mem_text notName

theorem argumentsText_singleton (a : Label × Value) :
    argumentsText [a] = a.1.text ++ (' ' :: a.2.text) := by
  simp [argumentsText]

theorem argumentsText_cons (a b : Label × Value) (rest : List (Label × Value)) :
    argumentsText (a :: b :: rest) =
      a.1.text ++ (' ' :: (a.2.text ++ (',' :: ' ' :: argumentsText (b :: rest)))) := by
  simp [argumentsText]

/-- A reader finds the argument that its label introduces. -/
theorem firstIn_argumentsText {read : List Char → Option (List Char)}
    (needs : NeedsOpening label.text read)
    (reads : ∀ value ∈ arguments.lookup label, ∀ rest : List Char, (∀ c ∈ rest.head?, c = ',') →
      read (label.text ++ (' ' :: (value.text ++ rest))) = some value.content) :
    firstIn read (argumentsText arguments) = (arguments.lookup label).map (·.content) := by
  obtain ⟨colon, comma, space, _⟩ := mem_label label
  induction arguments with
  | nil => exact firstIn_of_not_mem needs colon List.not_mem_nil
  | cons a rest ih =>
    obtain ⟨other, value⟩ := a
    have uncoloned : ':' ∉ ' ' :: value.text := by
      have absent := not_mem_value (c := ':') (by decide) value
      simpa using absent
    by_cases same : other = label
    · subst same
      have found : List.lookup other ((other, value) :: rest) = some value :=
        List.lookup_cons_self
      rw [found, Option.map_some]
      apply firstIn_of_some
      cases rest with
      | nil =>
        have read := reads value (by simp) [] (by simp)
        simpa [argumentsText_singleton] using read
      | cons b rest =>
        rw [argumentsText_cons]
        exact reads value (by simp) _ (by simp)
    · have elsewhere : List.lookup label ((other, value) :: rest) = List.lookup label rest := by
        have differs : (label == other) = false := by simpa using Ne.symm same
        rw [List.lookup_cons, differs]
      rw [elsewhere] at reads ⊢
      cases rest with
      | nil =>
        rw [argumentsText_singleton, firstIn_append needs (skips_label same)]
        exact firstIn_of_not_mem needs colon uncoloned
      | cons b rest =>
        -- The value and the comma after it hold no colon, so no label reaches into them.
        have passed : skips label.text ((' ' :: value.text) ++ [',']) = true :=
          skips_of_last colon uncoloned comma
        have gap : skips label.text [' '] = true :=
          skips_of_last (s := []) colon List.not_mem_nil space
        have split : argumentsText ((other, value) :: b :: rest) = other.text ++
            (((' ' :: value.text) ++ [',']) ++ ([' '] ++ argumentsText (b :: rest))) := by
          simp [argumentsText_cons]
        rw [split, firstIn_append needs (skips_label same), firstIn_append needs passed,
          firstIn_append needs gap]
        exact ih reads

theorem bracketed_append {s : List Char} (gap : List Char) (blank : ∀ c ∈ gap, isBlank c = true)
    (absent : ']' ∉ s) (opening rest : List Char) :
    bracketed opening (opening ++ (gap ++ '[' :: (s ++ ']' :: rest))) = some s := by
  have trimmed : trimStart (gap ++ '[' :: (s ++ ']' :: rest)) = '[' :: (s ++ ']' :: rest) := by
    rw [trimStart, List.dropWhile_append_of_pos blank]
    rfl
  have inside : after ['['] ('[' :: (s ++ ']' :: rest)) = some (s ++ ']' :: rest) :=
    after_append ['['] _
  simp only [bracketed, after_append, Option.bind_eq_bind, Option.bind_some, trimmed, inside]
  exact upTo_append absent rest

theorem wordAfter_append (x : Identifier) (ends : ∀ c ∈ rest.head?, c = ',')
    (opening : List Char) :
    wordAfter opening (opening ++ (' ' :: (x.text ++ rest))) = some x.text := by
  have trimmed : trimStart (' ' :: (x.text ++ rest)) = x.text ++ rest := by
    have visible : ∀ c ∈ (x.text ++ rest).head?, isBlank c = false := by
      intro c first
      exact x.not_isBlank_of_mem c (by simp_all [Identifier.text])
    exact trimStart_of_visible visible
  have stops : rest.takeWhile isWordChar = [] := by
    cases rest with
    | nil => rfl
    | cons c rest =>
      obtain rfl := ends c rfl
      rfl
  have word : (x.text ++ rest).takeWhile isWordChar = x.text := by
    rw [List.takeWhile_append_of_pos fun c member => (x.isNameChar_of_mem c member).isWordChar,
      stops, List.append_nil]
  have filled : ¬x.text.isEmpty = true := by simp [x.text_ne_nil]
  simp only [wordAfter, after_append, Option.bind_eq_bind, Option.bind_some, trimmed, word]
  exact if_neg filled

theorem lookup_arguments (r : RelationAttribute) :
    r.arguments.lookup .fields = r.fields.map .names ∧
      r.arguments.lookup .references = r.references.map .names ∧
      r.arguments.lookup .onDelete = r.onDelete.map .action ∧
      r.arguments.lookup .onUpdate = r.onUpdate.map .action := by
  obtain ⟨_ | _, _ | _, _ | _, _ | _⟩ := r <;> exact ⟨rfl, rfl, rfl, rfl⟩

theorem namesIn_argumentsText {opening : String} (spelled : opening.toList = label.text)
    {given : Option (List Identifier)} (found : arguments.lookup label = given.map Value.names) :
    namesIn opening (argumentsText arguments) = (given.getD []).map (·.name) := by
  have needs : NeedsOpening label.text (bracketed label.text) := by
    intro s missing
    simp [bracketed, missing]
  rw [namesIn, spelled, firstIn_argumentsText needs, found]
  · cases given with
    | none => rfl
    | some list => exact fieldList_listText list
  · intro value member rest _
    rw [found] at member
    obtain ⟨list, _, rfl⟩ := Option.map_eq_some_iff.mp member
    have absent : ']' ∉ listText list := not_mem_listText (by decide) list
    have blank : ∀ c ∈ [' '], isBlank c = true := List.forall_mem_singleton.mpr rfl
    have inside := bracketed_append [' '] blank absent label.text rest
    simpa [Value.text, Value.content] using inside

theorem ofName?_text (x : Identifier) :
    ReferentialAction.ofName? (String.ofList x.text) = action? x := by
  unfold ReferentialAction.ofName? action?
  congr 1
  funext action
  rw [String.toList_ofList, trim_text, Bool.eq_iff_iff]
  simp [Identifier.name, ← String.toList_inj]

theorem actionIn_argumentsText {opening : String} (spelled : opening.toList = label.text)
    {given : Option Identifier} (found : arguments.lookup label = given.map Value.action) :
    actionIn opening (argumentsText arguments) = given.bind action? := by
  have needs : NeedsOpening label.text (wordAfter label.text) := by
    intro s missing
    simp [wordAfter, missing]
  rw [actionIn, spelled, firstIn_argumentsText needs, found]
  · cases given with
    | none => rfl
    | some name => simpa [Value.content] using ofName?_text name
  · intro value member rest ends
    rw [found] at member
    obtain ⟨name, _, rfl⟩ := Option.map_eq_some_iff.mp member
    exact wordAfter_append name ends _

theorem readRelation_argumentsText (r : RelationAttribute) :
    readRelation (argumentsText r.arguments) = r.relation := by
  obtain ⟨fields, references, onDelete, onUpdate⟩ := lookup_arguments r
  rw [readRelation, namesIn_argumentsText rfl fields, namesIn_argumentsText rfl references,
    actionIn_argumentsText rfl onDelete, actionIn_argumentsText rfl onUpdate]
  rfl

theorem not_mem_argumentsText (special : ¬(IsNameChar c ∨ c ∈ [',', ' ', '[', ']', ':']))
    (arguments : List (Label × Value)) : c ∉ argumentsText arguments := by
  obtain ⟨notName, notMark⟩ := not_or.mp special
  have label (label : Label) : c ∉ label.text := by
    obtain ⟨_, _, _, all⟩ := mem_label label
    intro member
    rcases all c member with name | rfl
    · exact notName name
    · exact notMark (by decide)
  have value (value : Value) : c ∉ value.text :=
    not_mem_value (not_or.mpr ⟨notName, by simp_all⟩) value
  induction arguments with
  | nil => exact List.not_mem_nil
  | cons a rest ih =>
    have own := label a.1
    have given := value a.2
    cases rest with
    | nil =>
      rw [argumentsText_singleton]
      simp_all
    | cons b rest =>
      rw [argumentsText_cons]
      simp_all

end arguments

section attributes
open FieldLine

variable {a flag : Attribute} {kind other : AttributeKind}

theorem not_mem_word (kind : AttributeKind) : '@' ∉ kind.word ∧ ')' ∉ kind.word := by
  cases kind <;> decide

/-- Attributes of different kinds are told apart within their words. -/
theorem clash_word (differs : kind ≠ other) (rest : List Char) :
    clash kind.word (other.word ++ rest) = true := by
  refine clash_append ?_ rest
  cases kind <;> cases other <;> first | exact absurd rfl differs | rfl

theorem not_mem_body (a : Attribute) : '@' ∉ a.kind.word ++ a.ending := by
  have word := (not_mem_word a.kind).1
  cases a with
  | relation r =>
    have absent := not_mem_argumentsText (c := '@') (by decide) r.arguments
    simp_all [Attribute.ending]
  | id | unique | objectId => simpa [Attribute.ending] using word

theorem skips_text (differs : kind ≠ a.kind) : skips ('@' :: kind.word) (' ' :: a.text) = true := by
  have clashes : clash ('@' :: kind.word) a.text = true := by
    simpa [Attribute.text, clash] using clash_word differs a.ending
  have own : skips ('@' :: kind.word) a.text = true :=
    Bool.and_eq_true_iff.mpr ⟨clashes, skips_of_not_mem_head (not_mem_body a) kind.word⟩
  exact Bool.and_eq_true_iff.mpr ⟨rfl, own⟩

theorem attributesText_cons (a : Attribute) (rest : List Attribute) :
    attributesText (a :: rest) =
      ' ' :: '@' :: (a.kind.word ++ (a.ending ++ attributesText rest)) := by
  simp [attributesText, Attribute.text]

/-- An attribute without arguments is all that its kind tells. -/
theorem kind_eq_iff (plain : flag.relation? = none) : flag.kind = a.kind ↔ flag = a := by
  constructor
  · intro same
    cases flag with
    | relation => cases plain
    | id | unique | objectId => cases a <;> first | rfl | cases same
  · rintro rfl
    rfl

theorem ending_of_plain (plain : flag.relation? = none) : flag.ending = [] := by
  cases flag with
  | relation => cases plain
  | id | unique | objectId => rfl

section hasAttribute
variable {name s : List Char}

theorem hasAttribute_cons (differs : c ≠ '@') (fresh : Bool) :
    hasAttribute ('@' :: name) fresh (c :: s) = hasAttribute ('@' :: name) (isBlank c) s := by
  rw [hasAttribute, after, if_neg differs.symm]
  simp

/-- No attribute begins in the text, and those that follow stand after white space. -/
theorem hasAttribute_append (absent : '@' ∉ s) (fresh : Bool) (attributes : List Attribute) :
    hasAttribute ('@' :: name) fresh (s ++ attributesText attributes) =
      hasAttribute ('@' :: name) true (attributesText attributes) := by
  induction s generalizing fresh with
  | nil =>
    cases attributes with
    | nil => simp [attributesText, hasAttribute, after]
    | cons a rest =>
      rw [attributesText_cons, List.nil_append, hasAttribute_cons (by decide) fresh,
        hasAttribute_cons (by decide) true]
  | cons c s ih =>
    have differs : c ≠ '@' := (List.ne_of_not_mem_cons absent).symm
    rw [List.cons_append, hasAttribute_cons differs]
    exact ih (List.not_mem_of_not_mem_cons absent) _

theorem hasAttribute_attributesText (plain : flag.relation? = none)
    (attributes : List Attribute) :
    hasAttribute ('@' :: flag.kind.word) true (attributesText attributes) =
      decide (flag ∈ attributes) := by
  induction attributes with
  | nil => simp [attributesText, hasAttribute, after]
  | cons a rest ih =>
    have later : hasAttribute ('@' :: flag.kind.word) false
        (a.kind.word ++ (a.ending ++ attributesText rest)) = decide (flag ∈ rest) := by
      rw [← List.append_assoc, hasAttribute_append (not_mem_body a), ih]
    have space : isBlank ' ' = true := rfl
    have sign : isBlank '@' = false := rfl
    rw [attributesText_cons, hasAttribute_cons (by decide), hasAttribute]
    by_cases same : flag = a
    · subst same
      have ended : (attributesText rest).head?.all (fun c => isBlank c || c == '(') = true := by
        cases rest with
        | nil => rfl
        | cons => rw [attributesText_cons]; rfl
      rw [ending_of_plain plain, List.nil_append, after, if_pos rfl, after_append]
      simp [ended, space]
    · have missing : after ('@' :: flag.kind.word)
          ('@' :: (a.kind.word ++ (a.ending ++ attributesText rest))) = none := by
        rw [after, if_pos rfl, ← List.append_assoc]
        exact after_of_clash (clash_word (mt (kind_eq_iff plain).mp same) a.ending) _
      rw [missing]
      simpa [same, sign] using later

end hasAttribute

section firstIn
variable {read : List Char → Option α} {attributes : List Attribute}

theorem attributesText_append (a : Attribute) (rest : List Attribute) :
    attributesText (a :: rest) = (' ' :: a.text) ++ attributesText rest := by
  simp [attributesText]

theorem firstIn_space (needs : NeedsOpening ('@' :: kind.word) read) (s : List Char) :
    firstIn read (' ' :: s) = firstIn read s :=
  firstIn_append (s := [' ']) needs rfl s

/-- Attributes of other kinds are passed over. -/
theorem firstIn_other (needs : NeedsOpening ('@' :: kind.word) read) (differs : kind ≠ a.kind)
    (rest : List Attribute) :
    firstIn read (attributesText (a :: rest)) = firstIn read (attributesText rest) := by
  rw [attributesText_append]
  exact firstIn_append needs (skips_text differs) _

theorem contains_attributesText (flag : Attribute) (plain : flag.relation? = none)
    (attributes : List Attribute) :
    contains ('@' :: flag.kind.word) (attributesText attributes) = decide (flag ∈ attributes) := by
  have needs := needsOpening_after ('@' :: flag.kind.word)
  induction attributes with
  | nil => rfl
  | cons a rest ih =>
    by_cases same : flag = a
    · subst same
      have found := after_append ('@' :: flag.kind.word) (flag.ending ++ attributesText rest)
      rw [contains, attributesText_cons, firstIn_space needs]
      have first := firstIn_of_some found
      rw [List.cons_append] at first
      simp [first]
    · rw [contains, firstIn_other needs (mt (kind_eq_iff plain).mp same)]
      simpa [same, contains] using ih

/-- The words as the reader has them. -/
theorem toList_word : "@id".toList = '@' :: AttributeKind.id.word ∧
    "@unique".toList = '@' :: AttributeKind.unique.word ∧
    "@db.ObjectId".toList = '@' :: AttributeKind.objectId.word ∧
    "@relation(".toList = '@' :: AttributeKind.relation.word :=
  ⟨rfl, rfl, rfl, rfl⟩

theorem relation?_eq_none_iff (a : Attribute) :
    a.relation? = none ↔ AttributeKind.relation ≠ a.kind := by
  cases a <;> simp [Attribute.relation?, Attribute.kind]

theorem not_mem_attributesText (plain : ∀ a ∈ attributes, a.relation? = none) :
    ')' ∉ attributesText attributes := by
  induction attributes with
  | nil => exact List.not_mem_nil
  | cons a rest ih =>
    obtain ⟨own, others⟩ := List.forall_mem_cons.mp plain
    have word := (not_mem_word a.kind).2
    have later := ih others
    rw [attributesText_cons, ending_of_plain own]
    simp_all

theorem relationArguments_eq (s : List Char) : relationArguments s =
    firstIn (fun s => (after ('@' :: AttributeKind.relation.word) s).bind (upToLast ')')) s := by
  obtain ⟨_, _, _, opening⟩ := toList_word
  rw [relationArguments, opening]
  rfl

/-- The arguments of the relation reach to its parenthesis, since no other follows. -/
theorem relation_attributesText (single : (attributes.filterMap (·.relation?)).length ≤ 1) :
    (relationArguments (attributesText attributes)).map readRelation =
      attributes.findSome? (·.relation?) := by
  have needs := needsOpening_bind ('@' :: AttributeKind.relation.word) (upToLast ')')
  rw [relationArguments_eq]
  induction attributes with
  | nil => rfl
  | cons a rest ih =>
    cases kind : a.relation? with
    | none =>
      rw [firstIn_other needs ((relation?_eq_none_iff a).mp kind), List.findSome?_cons, kind]
      refine ih ?_
      simpa [List.filterMap_cons, kind] using single
    | some relation =>
      cases a with
      | id | unique | objectId => cases kind
      | relation r =>
        have plain : ∀ a ∈ rest, a.relation? = none := by
          have none : rest.filterMap (·.relation?) = [] := by
            simpa [List.filterMap_cons, kind] using single
          exact List.filterMap_eq_nil_iff.mp none
        have found := after_append ('@' :: AttributeKind.relation.word)
          (RelationAttribute.argumentsText r.arguments ++ ')' :: attributesText rest)
        have text : attributesText (.relation r :: rest) = ' ' ::
            (('@' :: AttributeKind.relation.word) ++
              (RelationAttribute.argumentsText r.arguments ++ ')' :: attributesText rest)) := by
          simp [attributesText_cons, Attribute.kind, Attribute.ending]
        rw [text, firstIn_space needs, firstIn_of_some]
        · exact congrArg some (readRelation_argumentsText r)
        · simp only [found, Option.bind_some]
          exact upToLast_append (not_mem_attributesText plain) _

end firstIn

theorem visible_last_text (a : Attribute) : ∀ c ∈ a.text.getLast?, isBlank c = false := by
  cases a with
  | relation r =>
    intro c last
    have closes : (Attribute.relation r).text.getLast? = some ')' := by
      simp [Attribute.text, Attribute.ending, List.getLast?_append, List.getLast?_cons]
    rw [closes] at last
    cases last
    rfl
  | id | unique | objectId => exact end_visible_of_all rfl

theorem visible_last_attributesText (attributes : List Attribute) :
    ∀ c ∈ (attributesText attributes).getLast?, isBlank c = false := by
  induction attributes with
  | nil => nofun
  | cons a rest ih =>
    intro c last
    rw [attributesText_append, List.getLast?_append] at last
    cases others : (attributesText rest).getLast? with
    | some d =>
      rw [others] at last
      exact ih c (by rw [others]; exact last)
    | none =>
      rw [others] at last
      refine visible_last_text a c ?_
      simpa [Attribute.text, List.getLast?_cons] using last

/-- White space stands before the first attribute, and what is read begins there. -/
theorem attributesText_eq (attributes : List Attribute) :
    attributesText attributes = [] ∨
      attributesText attributes = ' ' :: trim (attributesText attributes) := by
  cases attributes with
  | nil => exact .inl rfl
  | cons a rest =>
    refine .inr ?_
    have text := attributesText_cons a rest
    have last := visible_last_attributesText (a :: rest)
    have trimmed : trim (attributesText (a :: rest)) =
        '@' :: (a.kind.word ++ (a.ending ++ attributesText rest)) := by
      rw [text] at last ⊢
      rw [trim_space]
      refine trim_of_visible (by simp; decide) ?_
      intro c closes
      exact last c (by simpa [List.getLast?_cons] using closes)
    rw [trimmed, text]

theorem hasAttribute_trim (flag : Attribute) (plain : flag.relation? = none)
    (attributes : List Attribute) :
    hasAttribute ('@' :: flag.kind.word) true (trim (attributesText attributes)) =
      decide (flag ∈ attributes) := by
  rw [← hasAttribute_attributesText plain]
  rcases attributesText_eq attributes with empty | spaced
  · rw [empty]
    rfl
  · have differs : ' ' ≠ '@' := by decide
    rw [spaced, hasAttribute_cons differs, ← spaced]
    rfl

theorem firstIn_trim {read : List Char → Option α} (needs : NeedsOpening ('@' :: kind.word) read)
    (attributes : List Attribute) :
    firstIn read (trim (attributesText attributes)) = firstIn read (attributesText attributes) := by
  rcases attributesText_eq attributes with empty | spaced
  · rw [empty]
    rfl
  · have same := firstIn_space needs (trim (attributesText attributes))
    rw [← spaced] at same
    exact same.symm

theorem readField_text (f : FieldLine) :
    readField f.name.text f.typeText (trim (attributesText f.attributes)) = f.field := by
  obtain ⟨idWord, uniqueWord, objectIdWord, _⟩ := toList_word
  have id : hasAttribute ('@' :: AttributeKind.id.word) true (trim (attributesText f.attributes)) =
      decide (.id ∈ f.attributes) := hasAttribute_trim .id rfl f.attributes
  have unique : hasAttribute ('@' :: AttributeKind.unique.word) true
      (trim (attributesText f.attributes)) = decide (.unique ∈ f.attributes) :=
    hasAttribute_trim .unique rfl f.attributes
  have objectId : contains ('@' :: AttributeKind.objectId.word)
      (trim (attributesText f.attributes)) = decide (.objectId ∈ f.attributes) := by
    rw [contains, firstIn_trim (needsOpening_after _)]
    exact contains_attributesText .objectId rfl f.attributes
  have relation : (relationArguments (trim (attributesText f.attributes))).map readRelation =
      f.attributes.findSome? (·.relation?) := by
    rw [relationArguments_eq, firstIn_trim (needsOpening_bind _ _), ← relationArguments_eq]
    exact relation_attributesText f.single
  rw [readField, idWord, uniqueWord, objectIdWord, id, unique, objectId, relation]
  rfl

end attributes

section block
variable {kind : Kind}

theorem skips_opening (differs : kind ≠ other) : skips kind.opening other.opening = true := by
  cases kind <;> cases other <;> first | exact absurd rfl differs | rfl

theorem listText_ne_nil (a : BlockAttribute) : listText a.list ≠ [] := by
  obtain ⟨_, first, others⟩ := a
  cases others <;> simp [listText, BlockAttribute.list, first.text_ne_nil]

/-- A block attribute is found by its kind and no other. -/
theorem blockArgument_text (a : BlockAttribute) (kind : Kind) :
    firstIn (blockArgument kind.opening) a.text =
      if a.kind = kind then some (listText a.list) else none := by
  have needs : NeedsOpening kind.opening (blockArgument kind.opening) := by
    intro s missing
    simp [blockArgument, bracketed, missing]
  by_cases same : a.kind = kind
  · subst same
    have absent : ']' ∉ listText a.list := not_mem_listText (by decide) a.list
    have inside := bracketed_append [] nofun absent a.kind.opening [')']
    have text : a.text = a.kind.opening ++ ([] ++ '[' :: (listText a.list ++ ']' :: [')'])) := rfl
    rw [if_pos rfl]
    apply firstIn_of_some
    rw [blockArgument, text, inside]
    simp [listText_ne_nil]
  · have absent : '@' ∉ '[' :: (listText a.list ++ "])".toList) := by
      have listed := not_mem_listText (c := '@') (by decide) a.list
      simpa using listed
    have sign : '@' ∈ kind.opening := by cases kind <;> decide
    rw [if_neg same, BlockAttribute.text, firstIn_append needs (skips_opening (Ne.symm same))]
    exact firstIn_of_not_mem needs sign absent

end block

end Conform.Schema.Source
