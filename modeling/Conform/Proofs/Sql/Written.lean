import Conform.Proofs.Sql.Lexeme
import Conform.Sql.Statement
import Mathlib.Data.List.Basic

/-! Statements as lexemes: names are identifiers, and what stands between them are fixed words. The
lexemes make up the text that is sent. -/
namespace Conform.Sql

/-- A separator stands before every member but the first. -/
theorem intercalate_cons (sep first : List α) (rest : List (List α)) :
    sep.intercalate (first :: rest) = first ++ rest.flatMap (sep ++ ·) := by
  induction rest generalizing first with
  | nil => simp
  | cons second rest ih =>
    rw [List.intercalate_cons_cons, ih, List.flatMap_cons]
    simp only [List.append_assoc]

/-- What is done with each member is done with what stands between. -/
theorem flatMap_intercalate (f : α → List β) (sep : List α) (parts : List (List α)) :
    (sep.intercalate parts).flatMap f = (sep.flatMap f).intercalate (parts.map (·.flatMap f)) := by
  cases parts with
  | nil => rfl
  | cons first rest =>
    rw [intercalate_cons, List.map_cons, intercalate_cons, List.flatMap_append, List.flatMap_assoc,
      List.flatMap_map]
    simp only [List.flatMap_append]

/-- Characters outside of identifiers. -/
def plainText (s : String) : List Lexeme := s.toList.map .plain

/-- Identifiers between commas. -/
def nameList (names : List String) : List Lexeme :=
  (plainText ", ").intercalate (names.map fun name => [.identifier name])

def Column.lexemes (c : Column) : List Lexeme := .identifier c.name :: plainText (" " ++ c.type)

def actionLexemes (words : String) (action : Option Schema.ReferentialAction) : List Lexeme :=
  action.elim [] fun action => plainText (words ++ action.keywords)

def ForeignKey.lexemes (key : ForeignKey) : List Lexeme :=
  plainText "CONSTRAINT " ++ .identifier key.name :: plainText " FOREIGN KEY (" ++
    nameList key.columns ++ plainText ") REFERENCES " ++ .identifier key.table :: plainText " (" ++
    nameList key.references ++ plainText ")" ++ actionLexemes " ON DELETE " key.onDelete ++
    actionLexemes " ON UPDATE " key.onUpdate

/-- What stands between the commas of a table's declaration. -/
inductive Clause where
  | column (c : Column)
  | primaryKey (columns : List String)
  | foreignKey (key : ForeignKey)

def Clause.lexemes : Clause → List Lexeme
  | column c => c.lexemes
  | primaryKey columns => plainText "PRIMARY KEY (" ++ nameList columns ++ plainText ")"
  | foreignKey key => key.lexemes

def Table.declared (t : Table) : List Clause :=
  t.columns.map .column ++ (if t.primaryKey.isEmpty then [] else [.primaryKey t.primaryKey]) ++
    t.foreignKeys.map .foreignKey

def Table.lexemes (t : Table) (ifNotExists : Bool) : List Lexeme :=
  plainText ("CREATE TABLE " ++ if ifNotExists then "IF NOT EXISTS " else "") ++
    .identifier t.name :: plainText " (\n  " ++
    (plainText ",\n  ").intercalate (t.declared.map (·.lexemes)) ++ plainText "\n)"

def Index.lexemes (i : Index) : List Lexeme :=
  plainText ("CREATE " ++ (if i.unique then "UNIQUE " else "") ++ "INDEX ") ++
    .identifier i.name :: plainText " ON " ++ .identifier i.table :: plainText " (" ++
    nameList i.columns ++ plainText ")"

def Statement.lexemes : Statement → List Lexeme
  | createTable table ifNotExists => table.lexemes ifNotExists
  | createLike _ _ text => plainText text
  | dropTable name ifExists cascade =>
    plainText ("DROP TABLE " ++ if ifExists then "IF EXISTS " else "") ++
      .identifier name :: plainText (if cascade then " CASCADE" else "")
  | addColumn table column =>
    plainText "ALTER TABLE " ++ .identifier table :: plainText " ADD COLUMN " ++ column.lexemes
  | alterColumnType table column type =>
    plainText "ALTER TABLE " ++ .identifier table :: plainText " ALTER COLUMN " ++
      .identifier column :: plainText (" TYPE " ++ type ++ " USING ") ++
      .identifier column :: plainText ("::" ++ type)
  | createIndex index => index.lexemes
  | dropIndex name ifExists =>
    plainText ("DROP INDEX " ++ if ifExists then "IF EXISTS " else "") ++ [.identifier name]
  | dropConstraint table name =>
    plainText "ALTER TABLE " ++ .identifier table :: plainText " DROP CONSTRAINT " ++
      [.identifier name]
  | addPrimaryKey table columns =>
    plainText "ALTER TABLE " ++ .identifier table :: plainText " ADD PRIMARY KEY (" ++
      nameList columns ++ plainText ")"
  | addForeignKey table key =>
    plainText "ALTER TABLE " ++ .identifier table :: plainText " ADD " ++ key.lexemes
  | copyRows source target =>
    plainText "INSERT INTO " ++ .identifier target :: plainText " SELECT * FROM " ++
      [.identifier source]
  | copyColumns source target columns =>
    plainText "INSERT INTO " ++ .identifier target :: plainText " (" ++ nameList columns ++
      plainText ") SELECT " ++ nameList columns ++ plainText " FROM " ++ [.identifier source]
  | comment text => plainText ("-- " ++ text)
  | given text => plainText text

section spelling

theorem spell_nil : spell [] = [] := rfl

theorem spell_append (ls others : List Lexeme) : spell (ls ++ others) = spell ls ++ spell others :=
  List.flatMap_append

theorem spell_identifier (name : String) (ls : List Lexeme) :
    spell (.identifier name :: ls) = (quote name).toList ++ spell ls :=
  spell_cons _ _

theorem spell_plainText (s : String) : spell (plainText s) = s.toList := by
  simp [spell, plainText, List.flatMap_map, Lexeme.spelling]

theorem spell_nameList (names : List String) :
    spell (nameList names) = (columnList names).toList := by
  rw [nameList, spell, flatMap_intercalate]
  simp [columnList, plainText, Lexeme.spelling, Function.comp_def]

theorem Column.spell_lexemes (c : Column) : spell c.lexemes = c.sql.toList := by
  simp only [lexemes, Column.sql, spell_identifier, spell_plainText, String.toList_append,
    List.append_assoc]

theorem spell_actionLexemes (words : String) (action : Option Schema.ReferentialAction) :
    spell (actionLexemes words action) = (action.elim "" (words ++ ·.keywords)).toList := by
  cases action with
  | none => rfl
  | some action => exact spell_plainText _

theorem ForeignKey.spell_lexemes (key : ForeignKey) : spell key.lexemes = key.sql.toList := by
  unfold lexemes ForeignKey.sql
  simp only [spell_append, spell_identifier, spell_plainText,
    spell_nameList, spell_actionLexemes, String.toList_append, List.append_assoc]

theorem spell_primaryKey (columns : List String) : spell (Clause.primaryKey columns).lexemes =
    ("PRIMARY KEY (" ++ columnList columns ++ ")").toList := by
  simp only [Clause.lexemes, spell_append, spell_plainText, spell_nameList, String.toList_append]

theorem spell_intercalate (sep : String) (parts : List (List Lexeme)) :
    spell ((plainText sep).intercalate parts) = sep.toList.intercalate (parts.map spell) := by
  rw [spell, flatMap_intercalate]
  exact congrArg (List.intercalate · _) (spell_plainText sep)

theorem Table.spell_declared (t : Table) :
    t.declared.map (fun clause => spell clause.lexemes) = t.parts.map (·.toList) := by
  have columns : t.columns.map (fun c => spell (Clause.column c).lexemes) =
      t.columns.map (·.sql.toList) :=
    List.map_congr_left fun c _ => c.spell_lexemes
  have foreignKeys : t.foreignKeys.map (fun key => spell (Clause.foreignKey key).lexemes) =
      t.foreignKeys.map (·.sql.toList) :=
    List.map_congr_left fun key _ => key.spell_lexemes
  simp only [declared, parts, List.map_append, List.map_map, Function.comp_def, columns,
    foreignKeys]
  split
  · rfl
  · simp only [List.map_cons, List.map_nil, spell_primaryKey]

theorem Table.spell_lexemes (t : Table) (ifNotExists : Bool) :
    spell (t.lexemes ifNotExists) = (t.sql ifNotExists).toList := by
  have joined : spell ((plainText ",\n  ").intercalate (t.declared.map (·.lexemes))) =
      (",\n  ".intercalate t.parts).toList := by
    rw [spell_intercalate, List.map_map, String.toList_intercalate]
    exact congrArg _ t.spell_declared
  unfold lexemes Table.sql
  simp only [spell_append, spell_identifier, spell_plainText, joined, String.toList_append,
    List.append_assoc]

theorem Index.spell_lexemes (i : Index) : spell i.lexemes = i.sql.toList := by
  unfold lexemes Index.sql
  simp only [spell_append, spell_identifier, spell_plainText, spell_nameList, String.toList_append,
    List.append_assoc]

/-- The lexemes of a statement make up its text. -/
theorem Statement.spell_lexemes (s : Statement) : spell s.lexemes = s.sql.toList := by
  cases s with
  | createTable table ifNotExists => exact table.spell_lexemes ifNotExists
  | createIndex index => exact index.spell_lexemes
  | _ =>
    unfold lexemes Statement.sql
    simp only [Column.spell_lexemes, ForeignKey.spell_lexemes, spell_append, spell_identifier,
      spell_plainText, spell_nameList, spell_nil, String.toList_append, List.append_assoc,
      List.append_nil]

end spelling

end Conform.Sql
