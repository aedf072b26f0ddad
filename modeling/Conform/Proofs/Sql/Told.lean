import Conform.Proofs.Sql.Reading

/-! Statements are told by their lexemes. Each part is written so that it shows where it ends, and
so what is written is made of the same parts only. A text is then read as one statement at most. -/
namespace Conform.Sql

/-- Texts are told when neither can go on where the other ends. -/
theorem plainText_inj (inside : Char → Prop) (first : ∀ c ∈ v.toList, inside c)
    (second : ∀ c ∈ w.toList, inside c) (ends : ∀ c, r.head? = some (.plain c) → ¬ inside c)
    (ends' : ∀ c, s.head? = some (.plain c) → ¬ inside c)
    (same : plainText v ++ r = plainText w ++ s) : v = w ∧ r = s := by
  unfold plainText at same
  rw [← String.toList_inj]
  generalize v.toList = v at *
  generalize w.toList = w at *
  induction v generalizing w with
  | nil =>
    cases w with
    | nil => exact ⟨rfl, same⟩
    | cons d w =>
      have head : r.head? = some (.plain d) := congrArg List.head? same
      exact absurd (second d List.mem_cons_self) (ends d head)
  | cons c v ih =>
    cases w with
    | nil =>
      have head : s.head? = some (.plain c) := congrArg List.head? same.symm
      exact absurd (first c List.mem_cons_self) (ends' c head)
    | cons d w =>
      obtain ⟨letter, rest⟩ := List.cons.inj same
      obtain rfl := Lexeme.plain.inj letter
      obtain ⟨rfl, after⟩ := ih (fun c among => first c (List.mem_cons_of_mem _ among)) w
        (fun c among => second c (List.mem_cons_of_mem _ among)) rest
      exact ⟨rfl, after⟩

/-- A text up to the next name is told. -/
theorem plainText_identifier_inj
    (same : plainText v ++ .identifier a :: r = plainText w ++ .identifier b :: s) :
    v = w ∧ a = b ∧ r = s := by
  obtain ⟨text, rest⟩ := plainText_inj (fun _ => True) (fun _ _ => trivial) (fun _ _ => trivial)
    (by simp) (by simp) same
  obtain ⟨name, rest⟩ := List.cons.inj rest
  exact ⟨text, Lexeme.identifier.inj name, rest⟩

theorem plainText_injective (same : plainText v = plainText w) : v = w :=
  (plainText_inj (fun _ => True) (fun _ _ => trivial) (fun _ _ => trivial)
    (by simp) (by simp) (congrArg (· ++ []) same)).1

/-- What is written for a part shows where it ends, if what stands after it is such as `after`. -/
def Delimited (write : α → List Lexeme) (proper : α → Prop) (after : List Lexeme → Prop) : Prop :=
  ∀ ⦃a b r s⦄, proper a → proper b → after r → after s → write a ++ r = write b ++ s →
    a = b ∧ r = s

theorem Delimited.inj (delimited : Delimited write proper after) (first : proper a)
    (second : proper b) (last : after []) (same : write a = write b) : a = b :=
  (delimited first second last last (congrArg (· ++ []) same)).1

/-- Neither a separator nor a part can begin where a list is closed. -/
structure Closes (write : α → List Lexeme) (sep : String) (after : List Lexeme → Prop)
    (r : List Lexeme) : Prop where
  after : after r
  separator : ∀ t, plainText sep ++ t ≠ r
  part : ∀ a t, write a ++ t ≠ r

section lists
variable {write : α → List Lexeme} {proper : α → Prop} {after : List Lexeme → Prop} {sep : String}
  {as bs : List α} {r s : List Lexeme}

theorem Closes.next (closes : Closes write sep after r)
    (between : ∀ t, after (plainText sep ++ t)) :
    after ((as.map write).flatMap (plainText sep ++ ·) ++ r) := by
  cases as with
  | nil => exact closes.after
  | cons a as =>
    rw [List.map_cons, List.flatMap_cons, List.append_assoc, List.append_assoc]
    exact between _

theorem Delimited.tail_inj (delimited : Delimited write proper after)
    (between : ∀ t, after (plainText sep ++ t)) (first : ∀ a ∈ as, proper a)
    (second : ∀ b ∈ bs, proper b) (closes : Closes write sep after r)
    (closes' : Closes write sep after s)
    (same : (as.map write).flatMap (plainText sep ++ ·) ++ r =
      (bs.map write).flatMap (plainText sep ++ ·) ++ s) : as = bs ∧ r = s := by
  -- part by part: after each stands another separator or what closes the list
  induction as generalizing bs with
  | nil =>
    cases bs with
    | nil => exact ⟨rfl, same⟩
    | cons b bs =>
      rw [List.map_cons, List.flatMap_cons, List.append_assoc, List.append_assoc] at same
      exact absurd same.symm (closes.separator _)
  | cons a as ih =>
    cases bs with
    | nil =>
      rw [List.map_cons, List.flatMap_cons, List.append_assoc, List.append_assoc] at same
      exact absurd same (closes'.separator _)
    | cons b bs =>
      rw [List.map_cons, List.map_cons, List.flatMap_cons, List.flatMap_cons] at same
      simp only [List.append_assoc] at same
      obtain ⟨rfl, rest⟩ := delimited (first a List.mem_cons_self) (second b List.mem_cons_self)
        (closes.next between) (closes'.next between) (List.append_cancel_left same)
      obtain ⟨rfl, closed⟩ := ih (fun a among => first a (List.mem_cons_of_mem _ among))
        (fun b among => second b (List.mem_cons_of_mem _ among)) rest
      exact ⟨rfl, closed⟩

/-- A closed list shows its parts. -/
theorem Delimited.list_inj (delimited : Delimited write proper after)
    (between : ∀ t, after (plainText sep ++ t)) (first : ∀ a ∈ as, proper a)
    (second : ∀ b ∈ bs, proper b) (closes : Closes write sep after r)
    (closes' : Closes write sep after s)
    (same : (plainText sep).intercalate (as.map write) ++ r =
      (plainText sep).intercalate (bs.map write) ++ s) : as = bs ∧ r = s := by
  cases as with
  | nil =>
    cases bs with
    | nil => exact ⟨rfl, same⟩
    | cons b bs =>
      rw [List.map_cons, intercalate_cons, List.append_assoc] at same
      exact absurd same.symm (closes.part _ _)
  | cons a as =>
    cases bs with
    | nil =>
      rw [List.map_cons, intercalate_cons, List.append_assoc] at same
      exact absurd same (closes'.part _ _)
    | cons b bs =>
      rw [List.map_cons, List.map_cons, intercalate_cons, intercalate_cons, List.append_assoc,
        List.append_assoc] at same
      obtain ⟨rfl, rest⟩ := delimited (first a List.mem_cons_self) (second b List.mem_cons_self)
        (closes.next between) (closes'.next between) same
      obtain ⟨rfl, closed⟩ := delimited.tail_inj between
        (fun a among => first a (List.mem_cons_of_mem _ among))
        (fun b among => second b (List.mem_cons_of_mem _ among)) closes closes' rest
      exact ⟨rfl, closed⟩

end lists

theorem flag_inj {v : String} {a b : Bool} (written : v ≠ "")
    (same : (if a then v else "") = if b then v else "") : a = b := by
  cases a <;> cases b <;> simp_all

/-- Names in parentheses are told. -/
theorem nameList_inj (closed : r.head? = some (.plain ')')) (closed' : s.head? = some (.plain ')'))
    (same : nameList names ++ r = nameList others ++ s) : names = others ∧ r = s := by
  have delimited : Delimited (fun name => [.identifier name]) (fun _ => True) (fun _ => True) := by
    intro a b r s _ _ _ _ same
    obtain ⟨name, rest⟩ := List.cons.inj same
    exact ⟨Lexeme.identifier.inj name, rest⟩
  have closes {r : List Lexeme} (closed : r.head? = some (.plain ')')) :
      Closes (fun name => [.identifier name]) ", " (fun _ => True) r := by
    refine ⟨trivial, ?_, ?_⟩
    · rintro t rfl
      cases closed
    · rintro name t rfl
      cases closed
  exact delimited.list_inj (fun _ => trivial) (fun _ _ => trivial) (fun _ _ => trivial)
    (closes closed) (closes closed') same

/-- The lexemes begin with no capital letter and no blank, as what stands after a clause does. -/
def Ends (ls : List Lexeme) : Prop :=
  ∀ c, ls.head? = some (.plain c) → c.isUpper = false ∧ c ≠ ' '

theorem ends_nil : Ends [] := nofun

/-- A word in capital letters. -/
def IsWord (type : String) : Prop := ∀ letter ∈ type.toList, letter.isUpper = true

theorem IsWord.unquoted (word : IsWord type) : '"' ∉ type.toList := by
  intro quoted
  exact absurd (word '"' quoted) (by decide)

theorem Column.delimited : Delimited Column.lexemes (fun c => IsWord c.type) Ends := by
  intro a b r s first second ends ends' same
  obtain ⟨name, rest⟩ := List.cons.inj same
  have inside {c : Column} (word : IsWord c.type) :
      ∀ letter ∈ (" " ++ c.type).toList, letter.isUpper = true ∨ letter = ' ' := by
    intro letter among
    rw [String.toList_append, List.mem_append] at among
    rcases among with blank | among
    · exact .inr (List.mem_singleton.mp blank)
    · exact .inl (word letter among)
  have outside {ls : List Lexeme} (ends : Ends ls) :
      ∀ c, ls.head? = some (.plain c) → ¬ (c.isUpper = true ∨ c = ' ') := by
    intro c head
    simp [ends c head]
  obtain ⟨words, rest⟩ := plainText_inj (fun c => c.isUpper = true ∨ c = ' ') (inside first)
    (inside second) (outside ends) (outside ends') rest
  have name := Lexeme.identifier.inj name
  have type : a.type = b.type := (String.append_right_inj " ").mp words
  refine ⟨?_, rest⟩
  cases a
  cases b
  cases name
  cases type
  rfl

theorem keywords_inj {a b : Schema.ReferentialAction}
    (same : plainText a.keywords ++ r = plainText b.keywords ++ s) : a = b ∧ r = s := by
  have apart : ∀ a b : Schema.ReferentialAction,
      plainText a.keywords <+: plainText b.keywords → a = b := by
    intro a b
    cases a <;> cases b <;> decide
  have comparable := List.prefix_or_prefix_of_prefix ⟨r, same⟩ ⟨s, rfl⟩
  obtain rfl := comparable.elim (apart a b) fun other => (apart b a other).symm
  exact ⟨rfl, List.append_cancel_left same⟩

theorem plainText_append (v w : String) : plainText (v ++ w) = plainText v ++ plainText w := by
  rw [plainText, String.toList_append, List.map_append]
  rfl

/-- A clause that may be absent is told where nothing else can begin with its words. -/
theorem delimited_actionLexemes (words : String) :
    Delimited (actionLexemes words) (fun _ => True) (fun r => ¬ plainText words <+: r) := by
  have written (action : Schema.ReferentialAction) (r : List Lexeme) :
      actionLexemes words (some action) ++ r =
        plainText words ++ (plainText action.keywords ++ r) := by
    rw [← List.append_assoc, ← plainText_append]
    rfl
  intro a b r s _ _ other other' same
  cases a with
  | none =>
    cases b with
    | none => exact ⟨rfl, same⟩
    | some b =>
      rw [written] at same
      exact absurd ⟨_, same.symm⟩ other
  | some a =>
    rw [written] at same
    cases b with
    | none => exact absurd ⟨_, same⟩ other'
    | some b =>
      rw [written] at same
      obtain ⟨rfl, rest⟩ := keywords_inj (List.append_cancel_left same)
      exact ⟨rfl, rest⟩

theorem Ends.not_begun {words : String} (ends : Ends r)
    (blank : (plainText words).head? = some (.plain ' ')) : ¬ plainText words <+: r := by
  rintro ⟨t, rfl⟩
  have head : (plainText words ++ t).head? = some (.plain ' ') := by
    rw [List.head?_append, blank]
    rfl
  exact (ends ' ' head).2 rfl

theorem not_begun_delete (action : Option Schema.ReferentialAction) (ends : Ends r) :
    ¬ plainText " ON DELETE " <+: actionLexemes " ON UPDATE " action ++ r := by
  cases action with
  | none => exact ends.not_begun rfl
  | some action =>
    rintro ⟨t, begun⟩
    rw [actionLexemes, Option.elim, plainText_append] at begun
    have letter : some (Lexeme.plain 'D') = some (.plain 'U') := congrArg (·[4]?) begun
    exact absurd letter (by decide)

theorem ForeignKey.delimited : Delimited ForeignKey.lexemes (fun _ => True) Ends := by
  intro a b r s _ _ ends ends' same
  unfold lexemes at same
  simp only [List.append_assoc, List.cons_append] at same
  obtain ⟨-, name, same⟩ := plainText_identifier_inj same
  obtain ⟨columns, same⟩ := nameList_inj rfl rfl (List.append_cancel_left same)
  obtain ⟨-, table, same⟩ := plainText_identifier_inj same
  obtain ⟨references, same⟩ := nameList_inj rfl rfl (List.append_cancel_left same)
  obtain ⟨onDelete, same⟩ := delimited_actionLexemes _ trivial trivial
    (not_begun_delete _ ends) (not_begun_delete _ ends') (List.append_cancel_left same)
  obtain ⟨onUpdate, same⟩ := delimited_actionLexemes _ trivial trivial
    (ends.not_begun rfl) (ends'.not_begun rfl) same
  refine ⟨?_, same⟩
  cases a
  cases b
  simp_all

/-- The type of a column is a word. -/
def Clause.IsTyped (clause : Clause) : Prop := ∀ c, clause = .column c → IsWord c.type

theorem Clause.delimited : Delimited Clause.lexemes Clause.IsTyped Ends := by
  intro a b r s first second ends ends' same
  cases a with
  | column a =>
    cases b with
    | column b =>
      obtain ⟨rfl, rest⟩ := Column.delimited (first a rfl) (second b rfl) ends ends' same
      exact ⟨rfl, rest⟩
    | primaryKey | foreignKey => cases congrArg List.head? same
  | primaryKey a =>
    cases b with
    | primaryKey b =>
      simp only [lexemes, List.append_assoc] at same
      obtain ⟨columns, rest⟩ := nameList_inj rfl rfl (List.append_cancel_left same)
      exact ⟨congrArg _ columns, List.append_cancel_left rest⟩
    | column | foreignKey => cases congrArg List.head? same
  | foreignKey a =>
    cases b with
    | foreignKey b =>
      obtain ⟨rfl, rest⟩ := ForeignKey.delimited trivial trivial ends ends' same
      exact ⟨rfl, rest⟩
    | column | primaryKey => cases congrArg List.head? same

theorem Clause.closes : Closes Clause.lexemes ",\n  " Ends (plainText "\n)") := by
  refine ⟨?_, ?_, ?_⟩
  · intro c head
    obtain rfl : c = '\n' := by simpa [plainText] using head.symm
    decide
  · intro t same
    cases congrArg List.head? same
  · intro clause t same
    cases clause with
    | column | primaryKey | foreignKey => cases congrArg List.head? same

theorem Clause.ends_between (t : List Lexeme) : Ends (plainText ",\n  " ++ t) := by
  intro c head
  obtain rfl : c = ',' := by simpa [plainText] using head.symm
  decide

namespace Table

theorem columns_of_declared (t : Table) :
    t.declared.filterMap (fun | .column c => some c | _ => none) = t.columns := by
  unfold declared
  split <;> simp [List.filterMap_map]

theorem primaryKey_of_declared (t : Table) :
    (t.declared.filterMap fun | .primaryKey columns => some columns | _ => none).flatten =
      t.primaryKey := by
  unfold declared
  split <;> simp_all [List.filterMap_map]

theorem foreignKeys_of_declared (t : Table) :
    t.declared.filterMap (fun | .foreignKey key => some key | _ => none) = t.foreignKeys := by
  unfold declared
  split <;> simp [List.filterMap_map]

/-- A table is told by its clauses. -/
theorem eq_of_declared {a b : Table} (name : a.name = b.name) (same : a.declared = b.declared) :
    a = b := by
  have columns := a.columns_of_declared
  have primaryKey := a.primaryKey_of_declared
  have foreignKeys := a.foreignKeys_of_declared
  rw [same, b.columns_of_declared] at columns
  rw [same, b.primaryKey_of_declared] at primaryKey
  rw [same, b.foreignKeys_of_declared] at foreignKeys
  cases a
  cases b
  simp_all

theorem isTyped_of_declared {t : Table} (typed : ∀ c ∈ t.columns, IsWord c.type) :
    ∀ clause ∈ t.declared, clause.IsTyped := by
  intro clause declared c same
  apply typed
  rw [← t.columns_of_declared]
  exact List.mem_filterMap.mpr ⟨clause, declared, by rw [same]⟩

theorem lexemes_inj {a b : Table} (first : ∀ c ∈ a.columns, IsWord c.type)
    (second : ∀ c ∈ b.columns, IsWord c.type)
    (same : a.lexemes ifNotExists = b.lexemes ifNotExists') :
    a = b ∧ ifNotExists = ifNotExists' := by
  unfold lexemes at same
  simp only [List.append_assoc, List.cons_append] at same
  obtain ⟨words, name, same⟩ := plainText_identifier_inj same
  obtain ⟨declared, -⟩ := Clause.delimited.list_inj Clause.ends_between (isTyped_of_declared first)
    (isTyped_of_declared second) Clause.closes Clause.closes (List.append_cancel_left same)
  exact ⟨eq_of_declared name declared, flag_inj (by decide) ((String.append_right_inj _).mp words)⟩

end Table

theorem Index.lexemes_inj {a b : Index} (same : a.lexemes = b.lexemes) : a = b := by
  unfold lexemes at same
  simp only [List.append_assoc, List.cons_append] at same
  obtain ⟨words, name, same⟩ := plainText_identifier_inj same
  obtain ⟨-, table, same⟩ := plainText_identifier_inj same
  obtain ⟨columns, -⟩ := nameList_inj rfl rfl (List.append_cancel_left same)
  have unique := flag_inj (by decide)
    ((String.append_right_inj _).mp ((String.append_left_inj _).mp words))
  cases a
  cases b
  simp_all

/-- Some statement of the kind that the lexemes are of. The first letter is of CREATE, DROP, INSERT
or ALTER, and the other one stands where statements that begin alike differ. -/
def kindOf (ls : List Lexeme) : Statement :=
  match ls[0]? with
  | some (Lexeme.plain 'C') =>
    if ls[7]? = some (.plain 'T') then .createTable default false else .createIndex default
  | some (Lexeme.plain 'D') =>
    if ls[5]? = some (.plain 'T') then .dropTable "" false false else .dropIndex "" false
  | some (Lexeme.plain 'I') =>
    if ls[14]? = some (.plain 'S') then .copyRows "" "" else .copyColumns "" "" []
  | _ => match ls[20]? with
    | some (Lexeme.plain 'L') => .addColumn "" default
    | some (Lexeme.plain 'C') => .alterColumnType "" "" ""
    | some (Lexeme.plain 'O') => .dropConstraint "" ""
    | some (Lexeme.plain 'I') => .addPrimaryKey "" []
    | _ => .addForeignKey "" default

theorem Statement.ctorIdx_kindOf {s : Statement} (composed : s.isComposed = true) :
    (kindOf s.lexemes).ctorIdx = s.ctorIdx := by
  cases s with
  | createLike | comment | given => cases composed
  | createTable table ifNotExists => cases ifNotExists <;> rfl
  | dropTable name ifExists cascade => cases ifExists <;> rfl
  | createIndex index =>
    rw [lexemes, Index.lexemes, plainText_append, plainText_append]
    cases index.unique <;> rfl
  | dropIndex name ifExists => cases ifExists <;> rfl
  | _ => rfl

/-- Statements are told by their lexemes. -/
theorem Statement.lexemes_inj {a b : Statement} (composed : a.isComposed = true)
    (composed' : b.isComposed = true) (first : ∀ type ∈ a.types, IsWord type)
    (second : ∀ type ∈ b.types, IsWord type)
    (same : a.lexemes = b.lexemes) : a = b := by
  have alike : a.ctorIdx = b.ctorIdx := by
    rw [← ctorIdx_kindOf composed, same, ctorIdx_kindOf composed']
  cases a with
  | createLike | comment | given => cases composed
  | createTable a ifNotExists =>
    cases b with
    | createTable b ifNotExists' =>
      obtain ⟨table, flag⟩ := Table.lexemes_inj
        (fun c among => first c.type (List.mem_map_of_mem among))
        (fun c among => second c.type (List.mem_map_of_mem among)) same
      rw [table, flag]
    | _ => cases alike
  | dropTable name ifExists cascade =>
    cases b with
    | dropTable name' ifExists' cascade' =>
      simp only [lexemes] at same
      obtain ⟨words, name, same⟩ := plainText_identifier_inj same
      have ifExists := flag_inj (by decide) ((String.append_right_inj _).mp words)
      have cascade := flag_inj (by decide) (plainText_injective same)
      rw [name, ifExists, cascade]
    | _ => cases alike
  | addColumn table column =>
    cases b with
    | addColumn table' column' =>
      simp only [lexemes, List.append_assoc, List.cons_append] at same
      obtain ⟨-, table, same⟩ := plainText_identifier_inj same
      have column := Column.delimited.inj (first _ List.mem_cons_self) (second _ List.mem_cons_self)
        ends_nil (List.append_cancel_left same)
      rw [table, column]
    | _ => cases alike
  | alterColumnType table column type =>
    cases b with
    | alterColumnType table' column' type' =>
      simp only [lexemes, List.append_assoc, List.cons_append] at same
      obtain ⟨-, table, same⟩ := plainText_identifier_inj same
      obtain ⟨-, column, same⟩ := plainText_identifier_inj same
      obtain ⟨words, -, -⟩ := plainText_identifier_inj same
      have type := (String.append_right_inj _).mp ((String.append_left_inj _).mp words)
      rw [table, column, type]
    | _ => cases alike
  | createIndex a =>
    cases b with
    | createIndex b => rw [Index.lexemes_inj same]
    | _ => cases alike
  | dropIndex name ifExists =>
    cases b with
    | dropIndex name' ifExists' =>
      simp only [lexemes] at same
      obtain ⟨words, name, -⟩ := plainText_identifier_inj same
      have ifExists := flag_inj (by decide) ((String.append_right_inj _).mp words)
      rw [name, ifExists]
    | _ => cases alike
  | dropConstraint table name =>
    cases b with
    | dropConstraint table' name' =>
      simp only [lexemes, List.append_assoc, List.cons_append] at same
      obtain ⟨-, table, same⟩ := plainText_identifier_inj same
      obtain ⟨-, name, -⟩ := plainText_identifier_inj same
      rw [table, name]
    | _ => cases alike
  | addPrimaryKey table columns =>
    cases b with
    | addPrimaryKey table' columns' =>
      simp only [lexemes, List.append_assoc, List.cons_append] at same
      obtain ⟨-, table, same⟩ := plainText_identifier_inj same
      obtain ⟨columns, -⟩ := nameList_inj rfl rfl (List.append_cancel_left same)
      rw [table, columns]
    | _ => cases alike
  | addForeignKey table key =>
    cases b with
    | addForeignKey table' key' =>
      simp only [lexemes, List.append_assoc, List.cons_append] at same
      obtain ⟨-, table, same⟩ := plainText_identifier_inj same
      have key := ForeignKey.delimited.inj trivial trivial ends_nil (List.append_cancel_left same)
      rw [table, key]
    | _ => cases alike
  | copyRows source target =>
    cases b with
    | copyRows source' target' =>
      simp only [lexemes, List.append_assoc, List.cons_append] at same
      obtain ⟨-, target, same⟩ := plainText_identifier_inj same
      obtain ⟨-, source, -⟩ := plainText_identifier_inj same
      rw [target, source]
    | _ => cases alike
  | copyColumns source target columns =>
    cases b with
    | copyColumns source' target' columns' =>
      simp only [lexemes, List.append_assoc, List.cons_append] at same
      obtain ⟨-, target, same⟩ := plainText_identifier_inj same
      obtain ⟨columns, same⟩ := nameList_inj rfl rfl (List.append_cancel_left same)
      rw [columns] at same
      obtain ⟨-, source, -⟩ := plainText_identifier_inj
        (List.append_cancel_left (List.append_cancel_left same))
      rw [target, columns, source]
    | _ => cases alike

/-- The text is read as the statement, in which the types of columns are words. -/
structure Reads (text : String) (s : Statement) : Prop where
  composed : s.isComposed = true
  types : ∀ type ∈ s.types, IsWord type
  lexemes : lexemes? none text.toList = some s.lexemes

theorem Reads.unique (first : Reads text a) (second : Reads text b) : a = b :=
  Statement.lexemes_inj first.composed second.composed first.types second.types
    (Option.some.inj (first.lexemes.symm.trans second.lexemes))

/-- The text of the statement is read as this statement and as no other. -/
def Statement.IsTold (s : Statement) : Prop := ∀ other, Reads s.sql other ↔ other = s

theorem Statement.isTold {s : Statement} (composed : s.isComposed = true)
    (types : ∀ type ∈ s.types, IsWord type) : s.IsTold := by
  have own : Reads s.sql s :=
    ⟨composed, types, read_eq composed fun type typed => (types type typed).unquoted⟩
  intro other
  constructor
  · exact fun read => read.unique own
  · rintro rfl
    exact own

example : Reads "INSERT INTO \"_T_old\" SELECT * FROM \"T\"" (.copyRows "T" "_T_old") :=
  ⟨rfl, nofun, by decide +kernel⟩

theorem Statement.IsTold.eq_of_sql (first : IsTold a) (second : IsTold b) (same : a.sql = b.sql) :
    a = b := by
  have read : Reads a.sql a := (first a).mpr rfl
  rw [same] at read
  exact (second a).mp read

end Conform.Sql
