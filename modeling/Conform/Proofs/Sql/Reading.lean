import Conform.Proofs.Sql.Written

/-! What is read in the text of a statement: the names that it is about, in their order, and between
them a text that is the same for all names. -/
namespace Conform.Sql

section names

@[simp] theorem namesOf_nil : namesOf [] = [] := rfl

@[simp] theorem namesOf_append (ls others : List Lexeme) :
    namesOf (ls ++ others) = namesOf ls ++ namesOf others :=
  List.flatMap_append

@[simp] theorem namesOf_identifier (name : String) (ls : List Lexeme) :
    namesOf (.identifier name :: ls) = name :: namesOf ls := rfl

@[simp] theorem namesOf_plainText (s : String) : namesOf (plainText s) = [] := by
  simp [namesOf, plainText, List.flatMap_map, Lexeme.names]

theorem namesOf_intercalate (sep : String) (parts : List (List Lexeme)) :
    namesOf ((plainText sep).intercalate parts) = parts.flatMap namesOf := by
  cases parts with
  | nil => rfl
  | cons first rest =>
    have separated (part : List Lexeme) : namesOf (plainText sep ++ part) = namesOf part := by simp
    rw [intercalate_cons, namesOf_append, List.flatMap_cons, namesOf, namesOf, List.flatMap_assoc]
    exact congrArg _ (List.flatMap_congr fun part _ => separated part)

@[simp] theorem namesOf_nameList (names : List String) : namesOf (nameList names) = names := by
  rw [nameList, namesOf_intercalate, List.flatMap_map]
  simp [namesOf, Lexeme.names]

@[simp] theorem namesOf_actionLexemes (words : String) (action : Option Schema.ReferentialAction) :
    namesOf (actionLexemes words action) = [] := by
  cases action with
  | none => rfl
  | some action => exact namesOf_plainText _

theorem Column.namesOf_lexemes (c : Column) : namesOf c.lexemes = [c.name] := by
  simp [lexemes]

def ForeignKey.names (key : ForeignKey) : List String :=
  key.name :: key.columns ++ key.table :: key.references

theorem ForeignKey.namesOf_lexemes (key : ForeignKey) : namesOf key.lexemes = key.names := by
  simp [lexemes, names]

def Table.names (t : Table) : List String :=
  t.name :: t.columns.map (·.name) ++ t.primaryKey ++ t.foreignKeys.flatMap (·.names)

theorem Table.namesOf_declared (t : Table) :
    t.name :: t.declared.flatMap (fun clause => namesOf clause.lexemes) = t.names := by
  have columns : t.columns.flatMap (fun c => namesOf (Clause.column c).lexemes) =
      t.columns.map (·.name) := by
    rw [List.map_eq_flatMap]
    exact List.flatMap_congr fun c _ => c.namesOf_lexemes
  have foreignKeys : t.foreignKeys.flatMap (fun key => namesOf (Clause.foreignKey key).lexemes) =
      t.foreignKeys.flatMap (·.names) :=
    List.flatMap_congr fun key _ => key.namesOf_lexemes
  have primaryKey : (if t.primaryKey.isEmpty then [] else [Clause.primaryKey t.primaryKey]).flatMap
      (fun clause => namesOf clause.lexemes) = t.primaryKey := by
    cases t.primaryKey with
    | nil => rfl
    | cons first rest => simp [Clause.lexemes]
  rw [declared, List.flatMap_append, List.flatMap_append, List.flatMap_map, List.flatMap_map,
    columns, primaryKey, foreignKeys]
  rfl

theorem Table.namesOf_lexemes (t : Table) (ifNotExists : Bool) :
    namesOf (t.lexemes ifNotExists) = t.names := by
  rw [← t.namesOf_declared]
  simp [lexemes, namesOf_intercalate, List.flatMap_map]

def Index.names (i : Index) : List String := i.name :: i.table :: i.columns

theorem Index.namesOf_lexemes (i : Index) : namesOf i.lexemes = i.names := by
  simp [lexemes, names]

end names

section outline

/-- As many names, all of them empty. -/
def unnamed (names : List String) : List String := names.map fun _ => ""

def Column.outline (c : Column) : Column := { c with name := "" }

def ForeignKey.outline (key : ForeignKey) : ForeignKey :=
  { key with
    name := "", columns := unnamed key.columns, table := "", references := unnamed key.references }

def Table.outline (t : Table) : Table where
  name := ""
  columns := t.columns.map (·.outline)
  primaryKey := unnamed t.primaryKey
  foreignKeys := t.foreignKeys.map (·.outline)

def Index.outline (i : Index) : Index :=
  { i with name := "", table := "", columns := unnamed i.columns }

def Clause.outline : Clause → Clause
  | column c => .column c.outline
  | primaryKey columns => .primaryKey (unnamed columns)
  | foreignKey key => .foreignKey key.outline

@[simp] theorem outline_plainText (s : String) :
    (plainText s).map (·.outline) = plainText s := by
  simp [plainText]

theorem outline_intercalate (sep : String) (parts : List (List Lexeme)) :
    ((plainText sep).intercalate parts).map (·.outline) =
      (plainText sep).intercalate (parts.map (·.map (·.outline))) := by
  have outlined := flatMap_intercalate (fun l => [Lexeme.outline l]) (plainText sep) parts
  simp only [← List.map_eq_flatMap, outline_plainText] at outlined
  exact outlined

@[simp] theorem outline_nameList (names : List String) :
    (nameList names).map (·.outline) = nameList (unnamed names) := by
  rw [nameList, outline_intercalate, nameList, unnamed, List.map_map, List.map_map]
  rfl

@[simp] theorem outline_actionLexemes (words : String)
    (action : Option Schema.ReferentialAction) :
    (actionLexemes words action).map (·.outline) = actionLexemes words action := by
  cases action with
  | none => rfl
  | some action => exact outline_plainText _

theorem Column.lexemes_outline (c : Column) :
    c.outline.lexemes = c.lexemes.map (·.outline) := by
  simp only [lexemes, outline, List.map_cons, Lexeme.outline_identifier, outline_plainText]

theorem ForeignKey.lexemes_outline (key : ForeignKey) :
    key.outline.lexemes = key.lexemes.map (·.outline) := by
  simp only [lexemes, outline, List.map_append, List.map_cons, Lexeme.outline_identifier,
    outline_plainText, outline_nameList, outline_actionLexemes]

theorem Clause.lexemes_outline (clause : Clause) :
    clause.outline.lexemes = clause.lexemes.map (·.outline) := by
  cases clause with
  | column c => exact c.lexemes_outline
  | primaryKey columns =>
    simp only [outline, lexemes, List.map_append, outline_plainText, outline_nameList]
  | foreignKey key => exact key.lexemes_outline

theorem Table.declared_outline (t : Table) : t.outline.declared = t.declared.map (·.outline) := by
  have primaryKey : (unnamed t.primaryKey).isEmpty = t.primaryKey.isEmpty := List.isEmpty_map
  simp only [declared, outline, primaryKey, List.map_append, List.map_map]
  congr 2
  split
  · rfl
  · rfl

theorem Table.lexemes_outline (t : Table) (ifNotExists : Bool) :
    t.outline.lexemes ifNotExists = (t.lexemes ifNotExists).map (·.outline) := by
  have clauses : t.outline.declared.map (·.lexemes) =
      (t.declared.map (·.lexemes)).map (·.map (·.outline)) := by
    rw [t.declared_outline, List.map_map, List.map_map]
    exact List.map_congr_left fun clause _ => clause.lexemes_outline
  simp only [lexemes, clauses, List.map_append, List.map_cons, Lexeme.outline_identifier,
    outline_plainText, outline_intercalate]
  rfl

theorem Index.lexemes_outline (i : Index) : i.outline.lexemes = i.lexemes.map (·.outline) := by
  simp only [lexemes, outline, List.map_append, List.map_cons, Lexeme.outline_identifier,
    outline_plainText, outline_nameList]
  rfl

end outline

section legible

theorem Legible.plainText (unquoted : '"' ∉ s.toList) (rest : Legible ls) :
    Legible (plainText s ++ ls) := by
  unfold Sql.plainText
  generalize s.toList = chars at unquoted ⊢
  induction chars with
  | nil => exact rest
  | cons c chars ih =>
    rw [List.mem_cons, not_or] at unquoted
    exact .plain (Ne.symm unquoted.1) (ih unquoted.2)

theorem Legible.last : Legible [.identifier name] := .identifier nofun .nil

theorem apart_plainText (written : s.toList ≠ []) : Apart (plainText s ++ ls) := by
  unfold plainText
  cases chars : s.toList with
  | nil => exact absurd chars written
  | cons c rest => simp [Apart]

/-- A text that can stand between two names. -/
def Separates (s : String) : Prop := s.toList ≠ [] ∧ '"' ∉ s.toList

instance : Decidable (Separates s) := inferInstanceAs (Decidable (_ ∧ _))

theorem Separates.append (first : Separates s) (second : '"' ∉ t.toList) : Separates (s ++ t) := by
  unfold Separates
  rw [String.toList_append, List.mem_append, not_or]
  exact ⟨List.append_ne_nil_of_left_ne_nil first.1 _, first.2, second⟩

theorem Legible.named (separates : Separates s) (rest : Legible ls) :
    Legible (.identifier name :: (Sql.plainText s ++ ls)) :=
  .identifier (apart_plainText separates.1) (.plainText separates.2 rest)

/-- Parts that can be told from what follows can be told between separators. -/
theorem Legible.intercalate {parts : List (List Lexeme)} (separates : Separates sep)
    (each : ∀ part ∈ parts, ∀ s ls, Separates s → Legible ls →
      Legible (part ++ (Sql.plainText s ++ ls)))
    (stop : Separates s) (rest : Legible ls) :
    Legible ((Sql.plainText sep).intercalate parts ++ (Sql.plainText s ++ ls)) := by
  induction parts with
  | nil => exact .plainText stop.2 rest
  | cons first others ih =>
    have later := ih fun part among => each part (List.mem_cons_of_mem _ among)
    have here := each first List.mem_cons_self
    cases others with
    | nil =>
      rw [List.intercalate_singleton]
      exact here s ls stop rest
    | cons second others =>
      rw [List.intercalate_cons_cons, List.append_assoc, List.append_assoc]
      exact here sep _ separates later

theorem Legible.listed (stop : Separates s) (rest : Legible ls) :
    Legible (nameList names ++ (Sql.plainText s ++ ls)) := by
  refine .intercalate (by decide) ?_ stop rest
  intro part among s ls separates rest
  obtain ⟨name, _, rfl⟩ := List.mem_map.mp among
  exact .named separates rest

theorem Column.legible {c : Column} (unquoted : '"' ∉ c.type.toList) (rest : Legible ls) :
    Legible (c.lexemes ++ ls) :=
  .named (.append (by decide) unquoted) rest

theorem legible_actionLexemes (separates : Separates words) (rest : Legible ls) :
    Legible (actionLexemes words action ++ ls) := by
  cases action with
  | none => exact rest
  | some action =>
    have keywords : '"' ∉ action.keywords.toList := by cases action <;> decide
    exact .plainText (separates.append keywords).2 rest

theorem ForeignKey.legible {key : ForeignKey} (rest : Legible ls) :
    Legible (key.lexemes ++ ls) := by
  unfold lexemes
  simp only [List.append_assoc, List.cons_append]
  apply Legible.plainText (by decide)
  apply Legible.named (by decide)
  apply Legible.listed (by decide)
  apply Legible.named (by decide)
  apply Legible.listed (by decide)
  apply legible_actionLexemes (by decide)
  exact legible_actionLexemes (by decide) rest

theorem Clause.legible {clause : Clause} (types : ∀ c, clause = .column c → '"' ∉ c.type.toList)
    (rest : Legible ls) : Legible (clause.lexemes ++ ls) := by
  cases clause with
  | column c => exact c.legible (types c rfl) rest
  | primaryKey columns =>
    simp only [lexemes, List.append_assoc]
    exact .plainText (by decide) (.listed (by decide) rest)
  | foreignKey key => exact key.legible rest

theorem Table.mem_declared {t : Table} (declared : .column c ∈ t.declared) : c ∈ t.columns := by
  unfold Table.declared at declared
  rw [List.mem_append, List.mem_append] at declared
  rcases declared with (column | primaryKey) | foreignKey
  · simpa using column
  · split at primaryKey
    · cases primaryKey
    · cases List.mem_singleton.mp primaryKey
  · simp at foreignKey

theorem Table.legible {t : Table} (types : ∀ c ∈ t.columns, '"' ∉ c.type.toList)
    (rest : Legible ls) : Legible (t.lexemes ifNotExists ++ ls) := by
  have each : ∀ part ∈ t.declared.map (·.lexemes), ∀ s ls, Separates s → Legible ls →
      Legible (part ++ (plainText s ++ ls)) := by
    intro part among s ls separates rest
    obtain ⟨clause, declared, rfl⟩ := List.mem_map.mp among
    refine clause.legible ?_ (.plainText separates.2 rest)
    intro c same
    exact types c (mem_declared (same ▸ declared))
  unfold lexemes
  simp only [List.append_assoc, List.cons_append]
  apply Legible.plainText (by cases ifNotExists <;> decide)
  apply Legible.named (by decide)
  exact .intercalate (by decide) each (by decide) rest

theorem Index.legible {i : Index} (rest : Legible ls) : Legible (i.lexemes ++ ls) := by
  unfold lexemes
  simp only [List.append_assoc, List.cons_append]
  apply Legible.plainText (by cases i.unique <;> decide)
  apply Legible.named (by decide)
  apply Legible.named (by decide)
  exact .listed (by decide) rest

/-- The words that a statement has from the types of columns. -/
def Statement.types : Statement → List String
  | createTable table _ => table.columns.map (·.type)
  | addColumn _ column => [column.type]
  | alterColumnType _ _ type => [type]
  | _ => []

/-- Is the text of the statement its own, and not one that was given? -/
def Statement.isComposed : Statement → Bool
  | createLike _ _ _ | comment _ | given _ => false
  | _ => true

/-- A statement is read as it was made, whatever its names are. -/
theorem Statement.legible {s : Statement} (composed : s.isComposed = true)
    (types : ∀ type ∈ s.types, '"' ∉ type.toList) : Legible s.lexemes := by
  suffices whole : Legible (s.lexemes ++ []) by simpa only [List.append_nil] using whole
  unfold lexemes
  cases s with
  | createTable table ifNotExists =>
    exact table.legible (fun c among => types c.type (List.mem_map_of_mem among)) .nil
  | createIndex index => exact index.legible .nil
  | createLike | comment | given => cases composed
  | dropTable name ifExists cascade =>
    simp only [List.append_assoc, List.cons_append]
    apply Legible.plainText (by cases ifExists <;> decide)
    cases cascade with
    | false => exact .last
    | true => exact .named (by decide) .nil
  | addColumn table column =>
    simp only [List.append_assoc, List.cons_append]
    apply Legible.plainText (by decide)
    apply Legible.named (by decide)
    exact column.legible (types _ List.mem_cons_self) .nil
  | alterColumnType table column type =>
    have unquoted := types type List.mem_cons_self
    simp only [List.append_assoc, List.cons_append]
    apply Legible.plainText (by decide)
    apply Legible.named (by decide)
    apply Legible.named (.append (.append (by decide) unquoted) (by decide))
    exact .named (.append (by decide) unquoted) .nil
  | dropIndex name ifExists =>
    simp only [List.append_assoc, List.cons_append, List.nil_append]
    exact .plainText (by cases ifExists <;> decide) .last
  | dropConstraint table name | copyRows source target =>
    simp only [List.append_assoc, List.cons_append, List.nil_append]
    exact .plainText (by decide) (.named (by decide) .last)
  | addPrimaryKey table columns =>
    simp only [List.append_assoc, List.cons_append]
    exact .plainText (by decide) (.named (by decide) (.listed (by decide) .nil))
  | addForeignKey table key =>
    simp only [List.append_assoc, List.cons_append]
    exact .plainText (by decide) (.named (by decide) (key.legible .nil))
  | copyColumns source target columns =>
    simp only [List.append_assoc, List.cons_append, List.nil_append]
    apply Legible.plainText (by decide)
    apply Legible.named (by decide)
    apply Legible.listed (by decide)
    exact .listed (by decide) .last

/-- The text that is sent, read by the rule for quoted identifiers. -/
def Statement.read (s : Statement) : Option (List Lexeme) := lexemes? none s.sql.toList

theorem Statement.read_eq {s : Statement} (composed : s.isComposed = true)
    (types : ∀ type ∈ s.types, '"' ∉ type.toList) : s.read = some s.lexemes := by
  rw [read, ← s.spell_lexemes]
  exact (s.legible composed types).lexemes?_spell

end legible

end Conform.Sql
