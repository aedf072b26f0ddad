import Conform.Proofs.Text.Letter
import Conform.Sql.Statement
import Conform.Sqlite.Catalog

/-! What becomes of a stored definition that is written again for another table. Its head ends where
the name ends, however the name is spelled, and all that follows is kept. -/
namespace Conform.Sqlite

open Text

/-- White space between two words. -/
def Gap : Type := { s : List Char // s ≠ [] ∧ s.all isBlank = true }

/-- A word, whatever the case of its letters. -/
def Word (small : String) : Type := { s : List Char // s.map Char.toLower = small.toList }

/-- The words that let a definition pass for a table that is there. -/
structure Condition where
  ifWord : Word "if"
  afterIf : Gap
  notWord : Word "not"
  afterNot : Gap
  existsWord : Word "exists"
  afterExists : Gap

/-- The spellings of a table name. -/
inductive NameSpelling where
  | quoted (name : List Char)
  | backticked (name : List Char) (filled : name ≠ []) (plain : '\x60' ∉ name)
  | bracketed (name : List Char) (filled : name ≠ []) (plain : ']' ∉ name)
  /-- A bare name is none of the others and not the word that a condition begins with. -/
  | bare (name : List Char) (filled : name ≠ [])
      (plain : ∀ c ∈ name, isBlank c = false ∧ c ≠ '(')
      (unquoted : ∀ c ∈ name.head?, c ≠ '"' ∧ c ≠ '\x60' ∧ c ≠ '[')
      (unlike : name.map Char.toLower ≠ "if".toList)

/-- The head of a definition, word by word. -/
structure Head where
  lead : { s : List Char // s.all isBlank = true }
  create : Word "create"
  afterCreate : Gap
  table : Word "table"
  afterTable : Gap
  condition : Option Condition
  name : NameSpelling

def Condition.text (c : Condition) : List Char :=
  c.ifWord.1 ++ (c.afterIf.1 ++ (c.notWord.1 ++ (c.afterNot.1 ++
    (c.existsWord.1 ++ c.afterExists.1))))

def NameSpelling.text : NameSpelling → List Char
  | quoted name => '"' :: Sql.escapeName name ++ ['"']
  | backticked name _ _ => '\x60' :: name ++ ['\x60']
  | bracketed name _ _ => '[' :: name ++ [']']
  | bare name _ _ _ _ => name

def Head.text (h : Head) : List Char :=
  h.lead.1 ++ (h.create.1 ++ (h.afterCreate.1 ++ (h.table.1 ++ (h.afterTable.1 ++
    (h.condition.elim [] (·.text) ++ h.name.text)))))

/-- The text begins with white space or a parenthesis, where a name ends. -/
def EndsName (rest : List Char) : Prop := ∃ c ∈ rest.head?, isBlank c = true ∨ c = '('

/-- The text begins with a character that is no white space. -/
def Visible (s : List Char) : Prop := ∃ c ∈ s.head?, isBlank c = false

section
variable {small : String} {rest : List Char}

theorem visible_word (word : Word small) (filled : small.toList ≠ [])
    (letters : small.toList.all Char.isLower = true) (rest : List Char) :
    Visible (word.1 ++ rest) := by
  obtain ⟨s, spelled⟩ := word
  cases s with
  | nil => exact absurd spelled.symm filled
  | cons c s =>
    have letter : c.toLower.isLower = true :=
      List.all_eq_true.mp letters _ (by simp [← spelled])
    exact ⟨c, rfl, not_isBlank_of_toLower letter⟩

theorem afterKeyword_append {small s : List Char} (spelled : s.map Char.toLower = small) :
    afterKeyword small (s ++ rest) = some rest := by
  induction s generalizing small with
  | nil =>
    subst spelled
    rfl
  | cons c s ih =>
    subst spelled
    simp [afterKeyword, ih rfl]

theorem afterKeyword_word (word : Word small) (rest : List Char) :
    afterKeyword small.toList (word.1 ++ rest) = some rest :=
  afterKeyword_append word.2

theorem trimStart_append {lead : List Char} (blank : lead.all isBlank = true)
    (visible : Visible rest) : trimStart (lead ++ rest) = rest := by
  rw [trimStart, List.dropWhile_append_of_pos (List.all_eq_true.mp blank)]
  obtain ⟨c, first, visible⟩ := visible
  cases rest with
  | nil => rfl
  | cons d rest =>
    obtain rfl := Option.some.inj first
    exact List.dropWhile_cons_of_neg (by simp [visible])

theorem afterBlank_gap (gap : Gap) (visible : Visible rest) :
    afterBlank (gap.1 ++ rest) = some rest := by
  obtain ⟨s, filled, blank⟩ := gap
  cases s with
  | nil => exact absurd rfl filled
  | cons c s =>
    obtain ⟨first, others⟩ := Bool.and_eq_true_iff.mp blank
    simp [afterBlank, first, trimStart_append others visible]

/-- The quotes of a quoted name are told from the one that closes it. -/
theorem afterQuoted_escapeName (name : List Char) (started : Bool) (ends : EndsName rest) :
    afterQuoted started (Sql.escapeName name ++ '"' :: rest) =
      if started || name ≠ [] then some rest else none := by
  induction name generalizing started with
  | nil =>
    obtain ⟨c, first, ends⟩ := ends
    cases rest with
    | nil => cases first
    | cons d rest =>
      obtain rfl := Option.some.inj first
      have other : d ≠ '"' := by
        rintro rfl
        revert ends
        decide
      rw [Sql.escapeName, List.nil_append, afterQuoted]
      · simp
      · intro _ same
        exact other (List.cons.inj same).1
  | cons c name ih =>
    by_cases quote : c = '"'
    · subst quote
      rw [Sql.escapeName, if_pos rfl, List.cons_append, List.cons_append, afterQuoted, ih]
      simp
    · rw [Sql.escapeName, if_neg quote, List.cons_append, afterQuoted, ih]
      · simp
      · exact fun _ same _ => quote same
      · exact quote

theorem afterDelimited_append {name : List Char} {stop : Char} (filled : name ≠ [])
    (plain : stop ∉ name) : afterDelimited stop (name ++ stop :: rest) = some rest := by
  have passes : ∀ c ∈ name, (c != stop) = true := by
    intro c member
    have other : c ≠ stop := fun same => plain (same ▸ member)
    simpa using other
  have first : (name ++ stop :: rest).head? ≠ some stop := by
    cases name with
    | nil => exact absurd rfl filled
    | cons c name => simpa using passes c List.mem_cons_self
  rw [afterDelimited, if_neg first, List.dropWhile_append_of_pos passes,
    List.dropWhile_cons_of_neg (by simp)]

theorem afterBareName_append {name : List Char} (filled : name ≠ [])
    (plain : ∀ c ∈ name, isBlank c = false ∧ c ≠ '(') (ends : EndsName rest) :
    afterBareName (name ++ rest) = some rest := by
  have passes : ∀ c ∈ name, (!(isBlank c || c == '(')) = true := by
    intro c member
    simp [plain c member]
  have stops : rest.dropWhile (fun c => !(isBlank c || c == '(')) = rest := by
    obtain ⟨c, first, ends⟩ := ends
    cases rest with
    | nil => rfl
    | cons d rest =>
      obtain rfl := Option.some.inj first
      apply List.dropWhile_cons_of_neg
      rcases ends with blank | opens
      · simp [blank]
      · simp [opens]
  cases name with
  | nil => exact absurd rfl filled
  | cons c name =>
    have first := plain c List.mem_cons_self
    rw [afterBareName, List.dropWhile_append_of_pos passes, stops]
    simp [first]

theorem afterName_text (name : NameSpelling) (ends : EndsName rest) :
    afterName (name.text ++ rest) = some rest := by
  cases name with
  | quoted name =>
    by_cases filled : name = []
    · -- two quotes with nothing between them pass for a bare name
      subst filled
      have plain : ∀ c ∈ ['"', '"'], isBlank c = false ∧ c ≠ '(' := by
        intro c among
        obtain rfl : c = '"' := by simpa using among
        decide
      have bare : afterBareName (['"', '"'] ++ rest) = some rest :=
        afterBareName_append (by simp) plain ends
      have none : afterQuoted false ('"' :: rest) = none := afterQuoted_escapeName [] false ends
      rw [List.cons_append, List.cons_append, List.nil_append] at bare
      simp [NameSpelling.text, afterName, Sql.escapeName, none, bare]
    · simp [NameSpelling.text, afterName, afterQuoted_escapeName name false ends, filled]
  | backticked name filled plain =>
    simp [NameSpelling.text, afterName, afterDelimited_append filled plain]
  | bracketed name filled plain =>
    simp [NameSpelling.text, afterName, afterDelimited_append filled plain]
  | bare name filled plain unquoted =>
    cases name with
    | nil => exact absurd rfl filled
    | cons c name =>
      have bare := afterBareName_append filled plain ends
      obtain ⟨quote, tick, bracket⟩ := unquoted c rfl
      rw [List.cons_append] at bare
      simp [NameSpelling.text, afterName, quote, tick, bracket, bare]

theorem visible_name (name : NameSpelling) (rest : List Char) : Visible (name.text ++ rest) := by
  cases name with
  | quoted name => exact ⟨'"', rfl, by decide⟩
  | backticked name _ _ => exact ⟨'\x60', rfl, by decide⟩
  | bracketed name _ _ => exact ⟨'[', rfl, by decide⟩
  | bare name filled plain _ _ =>
    cases name with
    | nil => exact absurd rfl filled
    | cons c name => exact ⟨c, rfl, (plain c List.mem_cons_self).1⟩

/-- A name is not taken for the beginning of a condition. -/
theorem afterIfNotExists_name (name : NameSpelling) (ends : EndsName rest) :
    afterIfNotExists (name.text ++ rest) = none := by
  -- the word is not read, or no white space comes after it
  have none : (afterKeyword "if".toList (name.text ++ rest)).bind afterBlank = none := by
    have word : "if".toList = ['i', 'f'] := rfl
    rw [word]
    cases name with
    | quoted name => simp [NameSpelling.text, afterKeyword]
    | backticked name _ _ => simp [NameSpelling.text, afterKeyword]
    | bracketed name _ _ => simp [NameSpelling.text, afterKeyword]
    | bare name filled plain _ unlike =>
      rcases name with _ | ⟨c, _ | ⟨d, _ | ⟨e, name⟩⟩⟩
      · exact absurd rfl filled
      · obtain ⟨d, first, ends⟩ := ends
        cases rest with
        | nil => cases first
        | cons d' rest =>
          obtain rfl := Option.some.inj first
          have other : d'.toLower ≠ 'f' := by
            intro same
            have letter : d'.toLower.isLower = true := by rw [same]; rfl
            rcases ends with blank | rfl
            · rw [not_isBlank_of_toLower letter] at blank
              cases blank
            · revert same
              decide
          simp [NameSpelling.text, afterKeyword, other]
      · have other : ¬ (c.toLower = 'i' ∧ d.toLower = 'f') := by
          rintro ⟨first, second⟩
          exact unlike (by simp [first, second])
        by_cases first : c.toLower = 'i'
        · have second : d.toLower ≠ 'f' := fun second => other ⟨first, second⟩
          simp [NameSpelling.text, afterKeyword, second]
        · simp [NameSpelling.text, afterKeyword, first]
      · have visible := (plain e (by simp)).1
        simp only [NameSpelling.text, List.cons_append, afterKeyword]
        split
        · split <;> simp [afterBlank, visible]
        · rfl
  have unfolded : afterIfNotExists (name.text ++ rest) =
      ((afterKeyword "if".toList (name.text ++ rest)).bind afterBlank).bind fun s =>
        ((afterKeyword "not".toList s).bind afterBlank).bind fun s =>
          (afterKeyword "exists".toList s).bind afterBlank := by
    simp [afterIfNotExists, Option.bind_assoc]
  rw [unfolded, none, Option.bind_none]

theorem afterIfNotExists_condition (condition : Condition) (visible : Visible rest) :
    afterIfNotExists (condition.text ++ rest) = some rest := by
  have notWord := visible_word condition.notWord (by decide) (by decide)
  have existsWord := visible_word condition.existsWord (by decide) (by decide)
  simp only [afterIfNotExists, Condition.text, List.append_assoc, afterKeyword_word,
    Option.bind_eq_bind, Option.bind_some, afterBlank_gap _ (notWord _),
    afterBlank_gap _ (existsWord _), afterBlank_gap _ visible]

theorem afterHead_text (head : Head) (ends : EndsName rest) :
    afterHead (head.text ++ rest) = some rest := by
  have create := visible_word head.create (by decide) (by decide)
  have table := visible_word head.table (by decide) (by decide)
  have named := afterName_text head.name ends
  have name := visible_name head.name rest
  unfold Head.text afterHead
  simp only [List.append_assoc, trimStart_append head.lead.2 (create _), afterKeyword_word,
    Option.bind_eq_bind, Option.bind_some, afterBlank_gap _ (table _)]
  cases head.condition with
  | none =>
    rw [Option.elim_none, List.nil_append, afterBlank_gap _ name, Option.bind_some,
      afterIfNotExists_name _ ends, named]
    rfl
  | some condition =>
    have conditional : Visible (condition.text ++ (head.name.text ++ rest)) := by
      rw [Condition.text, List.append_assoc]
      exact visible_word condition.ifWord (by decide) (by decide) _
    rw [Option.elim_some, afterBlank_gap _ conditional, Option.bind_some,
      afterIfNotExists_condition _ name, Option.bind_some, named]
    rfl

end

/-- The head that a table is created with. -/
def Head.created (table : Sql.Table) (ifNotExists : Bool) : Head where
  lead := ⟨[], by decide⟩
  create := ⟨"CREATE".toList, by decide⟩
  afterCreate := ⟨[' '], by decide⟩
  table := ⟨"TABLE".toList, by decide⟩
  afterTable := ⟨[' '], by decide⟩
  condition := if ifNotExists then some {
      ifWord := ⟨"IF".toList, by decide⟩
      afterIf := ⟨[' '], by decide⟩
      notWord := ⟨"NOT".toList, by decide⟩
      afterNot := ⟨[' '], by decide⟩
      existsWord := ⟨"EXISTS".toList, by decide⟩
      afterExists := ⟨[' '], by decide⟩ }
    else none
  name := .quoted table.name.toList

/-- What is written of a table after its name. -/
def body (table : Sql.Table) : String := " (\n  " ++ ",\n  ".intercalate table.parts ++ "\n)"

theorem toList_sql (table : Sql.Table) (ifNotExists : Bool) : (table.sql ifNotExists).toList =
    (Head.created table ifNotExists).text ++ (body table).toList := by
  unfold Sql.Table.sql
  cases ifNotExists <;>
    simp [Sql.quote, Head.created, Head.text, Condition.text, NameSpelling.text, body]

theorem endsName_body (table : Sql.Table) : EndsName (body table).toList :=
  ⟨' ', by simp [body], .inl rfl⟩

/-- A stored definition is written for another table with the same text after the name. So a table
that was created from its declaration is created from the same one under the other name. -/
theorem previousDefinition_keeps (c : Catalog) (table target : String) :
    (∀ (head : Head) (rest : List Char), EndsName rest →
      c.definitions.lookup table = some (String.ofList (head.text ++ rest)) →
      c.previousDefinition table target =
        .ok ("CREATE TABLE " ++ Sql.quote target ++ String.ofList rest)) ∧
    ∀ (t : Sql.Table) (ifNotExists : Bool),
      c.definitions.lookup table = some (t.sql ifNotExists) →
      c.previousDefinition table target = .ok ({ t with name := target }.sql false) := by
  have verbatim (head : Head) (rest : List Char) (ends : EndsName rest)
      (stored : c.definitions.lookup table = some (String.ofList (head.text ++ rest))) :
      c.previousDefinition table target =
        .ok ("CREATE TABLE " ++ Sql.quote target ++ String.ofList rest) := by
    simp [Catalog.previousDefinition, stored, renamed?, afterHead_text head ends]
  constructor
  · exact verbatim
  · intro t ifNotExists stored
    have split : t.sql ifNotExists =
        String.ofList ((Head.created t ifNotExists).text ++ (body t).toList) := by
      rw [← toList_sql, String.ofList_toList]
    rw [split] at stored
    rw [verbatim _ _ (endsName_body t) stored, String.ofList_toList]
    unfold Sql.Table.sql
    simp [Sql.Table.parts, body, String.append_assoc]

/-- A head in mixed letters with a name in backticks that holds a quote and a parenthesis. -/
private def mixed : Head where
  lead := ⟨['\n', ' '], by decide⟩
  create := ⟨"Create".toList, by decide⟩
  afterCreate := ⟨['\t'], by decide⟩
  table := ⟨"tABLE".toList, by decide⟩
  afterTable := ⟨[' ', ' '], by decide⟩
  condition := none
  name := .backticked "a\" (b".toList (by decide) (by decide)

private def orders : Sql.Table where
  name := "or\"ders"
  columns := [⟨"id", "INTEGER"⟩, ⟨"no te", "TEXT"⟩]
  primaryKey := ["id"]

private def archive : Catalog where
  definitions := [
    ("a\" (b", "\n Create\ttABLE  \x60a\" (b\x60(\"x\" TEXT)"),
    ("or\"ders", orders.sql true)]
  columns _ := []
  indexes _ := []
  indexEntries _ := []
  foreignKeys _ := []

theorem archive_keeps :
    (EndsName "(\"x\" TEXT)".toList ∧
      archive.definitions.lookup "a\" (b" =
        some (String.ofList (mixed.text ++ "(\"x\" TEXT)".toList)) ∧
      archive.previousDefinition "a\" (b" "_$1_old" =
        .ok ("CREATE TABLE " ++ Sql.quote "_$1_old" ++ String.ofList "(\"x\" TEXT)".toList)) ∧
    archive.definitions.lookup "or\"ders" = some (orders.sql true) ∧
    archive.previousDefinition "or\"ders" "_or\"ders_old" =
      .ok ({ orders with name := "_or\"ders_old" }.sql false) := by
  have ends : EndsName "(\"x\" TEXT)".toList := ⟨'(', rfl, .inr rfl⟩
  have text : archive.definitions.lookup "a\" (b" =
      some (String.ofList (mixed.text ++ "(\"x\" TEXT)".toList)) := by decide +kernel
  have written : archive.definitions.lookup "or\"ders" = some (orders.sql true) := by
    decide +kernel
  exact ⟨⟨ends, text, (previousDefinition_keeps _ _ _).1 mixed _ ends text⟩, written,
    (previousDefinition_keeps _ _ _).2 orders true written⟩

end Conform.Sqlite
