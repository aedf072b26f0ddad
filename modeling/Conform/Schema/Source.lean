import Conform.Schema.Normal
import Conform.Text.Scan
import Conform.Text.Word

/-! Schemas as text. A source is a sequence of blocks; models and enumerations are read line by
line, other blocks are passed over. A line ends where a `//` outside a string literal starts, and
attributes are found wherever they stand in their line. -/
namespace Conform.Schema.Source

open Text

/-- The line without its comment. `quoted` tells whether a string literal is open, `escaped`
whether a backslash stands right before. -/
def uncomment (quoted escaped : Bool) : List Char → List Char
  | [] => []
  | c :: rest =>
    if c == '/' && !quoted && rest.head? == some '/' then []
    else c :: uncomment (if c == '"' && !escaped then !quoted else quoted) (c == '\\') rest

/-- What counts on a line: no comment, no white space around it. -/
def significant (line : List Char) : List Char := trim (uncomment false false line)

/-- The names of a list. An argument in parentheses after a name is dropped, and so are items
that name nothing. -/
def fieldList (list : List Char) : List String :=
  (((pieces (· == ',') list).map fun item => trim (item.takeWhile (· != '('))).filter
    (!·.isEmpty)).map String.ofList

/-- The text in brackets after `opening`. -/
def bracketed (opening s : List Char) : Option (List Char) := do
  upTo ']' (← after ['['] (trimStart (← after opening s)))

/-- The bracketed text of a block attribute, which may not be empty. -/
def blockArgument (opening s : List Char) : Option (List Char) :=
  (bracketed opening s).filter (!·.isEmpty)

/-- Does the attribute stand in the text as a word of its own, or before a parenthesis? `fresh`
tells whether a word may begin here. -/
def hasAttribute (name : List Char) (fresh : Bool) (s : List Char) : Bool :=
  (fresh && (after name s).any fun rest => rest.head?.all fun c => isBlank c || c == '(') ||
    match s with
    | [] => false
    | c :: rest => hasAttribute name (isBlank c) rest

/-- The word after `opening` and any white space. -/
def wordAfter (opening s : List Char) : Option (List Char) := do
  let word := (trimStart (← after opening s)).takeWhile isWordChar
  if word.isEmpty then none else some word

/-- The arguments of a relation attribute, which reach to the last closing parenthesis. -/
def relationArguments (attributes : List Char) : Option (List Char) :=
  firstIn (fun s => do upToLast ')' (← after "@relation(".toList s)) attributes

def namesIn (opening : String) (arguments : List Char) : List String :=
  (firstIn (bracketed opening.toList) arguments).elim [] fieldList

def actionIn (opening : String) (arguments : List Char) : Option ReferentialAction := do
  ReferentialAction.ofName? (String.ofList (← firstIn (wordAfter opening.toList) arguments))

def readRelation (arguments : List Char) : Relation where
  fields := namesIn "fields:" arguments
  references := namesIn "references:" arguments
  onDelete := actionIn "onDelete:" arguments
  onUpdate := actionIn "onUpdate:" arguments

/-- The text after its first word. -/
def afterWord (s : List Char) : List Char := (trimStart s).dropWhile (!isBlank ·)

def readField (name type : List Char) (attributes : List Char) : Field where
  name := String.ofList name
  type := String.ofList type
  isId := hasAttribute "@id".toList true attributes
  isUnique := hasAttribute "@unique".toList true attributes
  isObjectId := Text.contains "@db.ObjectId".toList attributes
  relation := (relationArguments attributes).map readRelation

/-- A block attribute: the key, a unique constraint or an index. Others change nothing. -/
def readBlockAttribute (t : Table) (line : List Char) : Table :=
  match firstIn (blockArgument "@@id(".toList) line with
  | some list => { t with idFields := fieldList list }
  | none => match firstIn (blockArgument "@@unique(".toList) line with
    | some list => { t with uniqueConstraints := t.uniqueConstraints ++ [⟨fieldList list⟩] }
    | none => match firstIn (blockArgument "@@index(".toList) line with
      | some list => { t with indexes := t.indexes ++ [⟨fieldList list⟩] }
      | none => t

/-- A line of a model, without comment or white space around it. -/
def readModelLine (t : Table) (number : Nat) (line : List Char) : Except Fault Table :=
  if (after ['@', '@'] line).isSome then .ok (readBlockAttribute t line)
  else match words line with
    | name :: type :: _ =>
      let field := readField name type (trim (afterWord (afterWord line)))
      .ok { t with
        fields := t.fields ++ [field]
        idFields := if field.isId then addOnce t.idFields field.name else t.idFields }
    | _ => .error (.fieldWithoutType t.name number (String.ofList line))

/-- A line of an enumeration: its first word is a value, unless the line is an attribute. -/
def readEnumLine (e : Enumeration) (line : List Char) : Enumeration :=
  if line.head? == some '@' then e
  else match words line with
    | value :: _ => { e with values := e.values ++ [String.ofList value] }
    | [] => e

/-- A block whose closing brace is still to come. -/
inductive Block where
  | model (table : Table)
  | enumeration (value : Enumeration)
  | other (name : String)
  deriving DecidableEq, Repr

def Block.kind : Block → BlockKind
  | model _ => .model
  | enumeration _ => .enumeration
  | other _ => .other

def Block.name : Block → String
  | model table => table.name
  | enumeration value => value.name
  | other name => name

/-- What has been read so far, and the open block with the line that opened it. -/
structure Progress where
  tables : List Table := []
  enums : List Enumeration := []
  block : Option (Block × Nat) := none
  deriving DecidableEq, Repr

/-- The block that a line opens: a key word, a name and a brace at the end. -/
def openBlock (number : Nat) (line : List Char) : Except Fault Block :=
  let name := match words line with
    | _ :: second :: _ => String.ofList (dropEndWhile (· == '\x7b') second)
    | _ => ""
  if line.getLast? != some '\x7b' || name.isEmpty then
    .error (.notABlock number (String.ofList line))
  else match (words line).head?.map String.ofList with
    | some "model" => .ok (.model { name })
    | some "enum" => .ok (.enumeration { name, values := [] })
    | _ => .ok (.other name)

def Progress.close (p : Progress) : Block → Progress
  | .model table => { p with tables := p.tables ++ [table], block := none }
  | .enumeration value => { p with enums := p.enums ++ [value], block := none }
  | .other _ => { p with block := none }

/-- Takes in one line; `line` is what counts on it. -/
def Progress.step (p : Progress) (number : Nat) (line : List Char) : Except Fault Progress :=
  if line.isEmpty then .ok p
  else match p.block with
    | none => (openBlock number line).map fun block => { p with block := some (block, number) }
    | some (block, opened) =>
      if line == ['\x7d'] then .ok (p.close block)
      else match block with
        | .model table =>
          (readModelLine table number line).map fun table =>
            { p with block := some (.model table, opened) }
        | .enumeration value =>
          .ok { p with block := some (.enumeration (readEnumLine value line), opened) }
        | .other _ => .ok p

/-- Takes in lines from line `number` on. -/
def Progress.run (p : Progress) (number : Nat) : List (List Char) → Except Fault Progress
  | [] => .ok p
  | line :: rest => do (← p.step number (significant line)).run (number + 1) rest

/-- The declarations of a source, as written. -/
def read (source : String) : Except Fault (List Table × List Enumeration) := do
  let p ← Progress.run {} 1 (lines source.toList)
  match p.block with
  | some (block, opened) => throw (.unterminated opened block.kind block.name)
  | none => return (p.tables, p.enums)

end Conform.Schema.Source

namespace Conform.Schema

/-- The schema that a source declares. -/
def Model.ofSource (source : String) : Except Fault Model := do
  let (tables, enums) ← Source.read source
  normalize tables enums

end Conform.Schema
