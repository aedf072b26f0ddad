import Conform.Sql.Identifier
import Conform.Text.Blank

/-! How a statement is read by the rule for quoted identifiers. A text in which no two identifiers
touch is read as it was written, whatever the names are. -/
namespace Conform.Sql

/-- An identifier, or a character outside of all identifiers. -/
inductive Lexeme where
  | plain (c : Char)
  | identifier (name : String)
  deriving DecidableEq, Repr

/-- Reads a text: a double quote opens an identifier, inside it two of them stand for one, and one
that no other follows closes it. `opened` is what has been read of an identifier that is open. A
text that ends inside of one is not read. -/
def lexemes? : (opened : Option (List Char)) → List Char → Option (List Lexeme)
  | none, [] => some []
  | some _, [] => none
  | none, c :: rest =>
    if c = '"' then lexemes? (some []) rest else (lexemes? none rest).map (.plain c :: ·)
  | some name, '"' :: '"' :: rest => lexemes? (some (name ++ ['"'])) rest
  | some name, '"' :: rest => (lexemes? none rest).map (.identifier (String.ofList name) :: ·)
  | some name, c :: rest => lexemes? (some (name ++ [c])) rest

namespace Lexeme

def spelling : Lexeme → List Char
  | plain c => [c]
  | identifier name => (quote name).toList

def names : Lexeme → List String
  | plain _ => []
  | identifier name => [name]

def isIdentifier : Lexeme → Bool
  | plain _ => false
  | identifier _ => true

/-- The same lexeme without its name. -/
def outline : Lexeme → Lexeme
  | plain c => plain c
  | identifier _ => identifier ""

@[simp] theorem isIdentifier_outline (l : Lexeme) : l.outline.isIdentifier = l.isIdentifier := by
  cases l <;> rfl

@[simp] theorem outline_plain (c : Char) : (plain c).outline = plain c := rfl

@[simp] theorem outline_identifier (name : String) :
    (identifier name).outline = identifier "" := rfl

end Lexeme

/-- The names that are read, in order. -/
def namesOf (ls : List Lexeme) : List String := ls.flatMap (·.names)

/-- What is read before, between and after the names. -/
def textsBetween (ls : List Lexeme) : List (List Lexeme) := Text.pieces (·.isIdentifier) ls

/-- The characters of lexemes. -/
def spell (ls : List Lexeme) : List Char := ls.flatMap (·.spelling)

/-- The texts around the names do not depend on them. -/
theorem textsBetween_outline (ls : List Lexeme) :
    textsBetween (ls.map (·.outline)) = textsBetween ls := by
  unfold textsBetween
  induction ls with
  | nil => rfl
  | cons l ls ih =>
    rw [List.map_cons, Text.pieces, Text.pieces, Lexeme.isIdentifier_outline, ih]
    cases l <;> rfl

/-- The lexemes do not begin with an identifier. -/
def Apart (ls : List Lexeme) : Prop := ∀ name, ls.head? ≠ some (.identifier name)

/-- The lexemes can be told apart when they are written one after another. -/
inductive Legible : List Lexeme → Prop where
  | nil : Legible []
  | plain (unquoted : c ≠ '"') (rest : Legible ls) : Legible (.plain c :: ls)
  | identifier (apart : Apart ls) (rest : Legible ls) : Legible (.identifier name :: ls)

/-- A name is read up to the quote that closes it. -/
theorem lexemes?_escapeName (name read : List Char) {rest : List Char}
    (apart : rest.head? ≠ some '"') :
    lexemes? (some read) (escapeName name ++ '"' :: rest) =
      (lexemes? none rest).map (.identifier (String.ofList (read ++ name)) :: ·) := by
  induction name generalizing read with
  | nil =>
    rw [escapeName, List.nil_append, lexemes?, List.append_nil]
    intro _ same
    exact apart (by simp [same])
  | cons c name ih =>
    by_cases quote : c = '"'
    · subst quote
      rw [escapeName, if_pos rfl, List.cons_append, List.cons_append, lexemes?, ih]
      simp
    · rw [escapeName, if_neg quote, List.cons_append, lexemes?, ih]
      · simp
      · exact fun _ same _ => quote same
      · exact quote

theorem spell_cons (l : Lexeme) (ls : List Lexeme) : spell (l :: ls) = l.spelling ++ spell ls :=
  List.flatMap_cons

theorem Legible.head?_spell (legible : Legible ls) (apart : Apart ls) :
    (spell ls).head? ≠ some '"' := by
  cases legible with
  | nil => simp [spell]
  | plain unquoted => simpa [spell_cons, Lexeme.spelling] using unquoted
  | identifier => exact absurd rfl (apart _)

/-- Lexemes are read back from their characters. -/
theorem Legible.lexemes?_spell (legible : Legible ls) : lexemes? none (spell ls) = some ls := by
  induction legible with
  | nil => rfl
  | plain unquoted _ ih =>
    rw [spell_cons, Lexeme.spelling, List.singleton_append, lexemes?, if_neg unquoted, ih]
    rfl
  | @identifier ls name apart rest ih =>
    have opened : spell (.identifier name :: ls) =
        '"' :: (escapeName name.toList ++ '"' :: spell ls) := by
      simp [spell_cons, Lexeme.spelling, quote]
    rw [opened, lexemes?, if_pos rfl, lexemes?_escapeName _ _ (rest.head?_spell apart), ih]
    simp

example : (lexemes? none "DROP TABLE \"a\"\"; --\"".toList).map namesOf = some ["a\"; --"] := by
  decide

end Conform.Sql
