import Conform.Schema.Basic
import Conform.Text.Word

/-! Declarations in canonical form. They are written one line each, with one space between the parts
of a line, and every name is an identifier. -/
namespace Conform.Schema.Canonical

def IsNameChar (c : Char) : Prop := c.isAlphanum = true ∨ c = '_'

instance : DecidablePred IsNameChar := fun c => inferInstanceAs (Decidable (_ ∨ c = '_'))

/-- A letter, then letters, digits and underscores. -/
structure Identifier where
  first : Char
  rest : List Char
  letter : first.isAlpha = true
  others : ∀ c ∈ rest, IsNameChar c
  deriving DecidableEq

def Identifier.text (x : Identifier) : List Char := x.first :: x.rest

def Identifier.name (x : Identifier) : String := String.ofList x.text

section characters
variable {c d : Char}

/-- All of them stand between the digit zero and the small letter z. -/
theorem IsNameChar.bounds (named : IsNameChar c) : 0x30 ≤ c.toNat ∧ c.toNat ≤ 0x7A := by
  have range {low high : Char} (inside : low.val ≤ c.val ∧ c.val ≤ high.val) :
      low.toNat ≤ c.toNat ∧ c.toNat ≤ high.toNat :=
    ⟨UInt32.le_iff_toNat_le.mp inside.1, UInt32.le_iff_toNat_le.mp inside.2⟩
  rcases named with letter | rfl
  · rcases Bool.or_eq_true_iff.mp letter with letter | digit
    · rcases Bool.or_eq_true_iff.mp letter with upper | lower
      · obtain ⟨least, most⟩ := range (of_decide_eq_true upper)
        exact ⟨Nat.le_trans (by decide) least, Nat.le_trans most (by decide)⟩
      · obtain ⟨first, last⟩ := Bool.and_eq_true_iff.mp lower
        obtain ⟨least, most⟩ := range ⟨of_decide_eq_true first, of_decide_eq_true last⟩
        exact ⟨Nat.le_trans (by decide) least, Nat.le_trans most (by decide)⟩
    · obtain ⟨least, most⟩ := Char.isDigit_iff_toNat.mp digit
      exact ⟨least, Nat.le_trans most (by decide)⟩
  · decide

theorem IsNameChar.not_isBlank (named : IsNameChar c) : Text.isBlank c = false := by
  obtain ⟨least, most⟩ := named.bounds
  simp only [Text.isBlank, Bool.or_eq_false_iff, Bool.and_eq_false_iff, decide_eq_false_iff_not,
    beq_eq_false_iff_ne]
  omega

theorem IsNameChar.isWordChar (named : IsNameChar c) : Text.isWordChar c = true := by
  rcases named with letter | rfl
  · simp [Text.isWordChar, letter]
  · rfl

end characters

namespace Identifier

variable (x : Identifier)

theorem isNameChar_of_mem : ∀ c ∈ x.text, IsNameChar c := by
  refine List.forall_mem_cons.mpr ⟨.inl ?_, x.others⟩
  simp [Char.isAlphanum, x.letter]

theorem not_mem_text (special : ¬IsNameChar c) : c ∉ x.text :=
  fun member => special (x.isNameChar_of_mem c member)

theorem first_ne (special : ¬IsNameChar c) : x.first ≠ c := by
  rintro rfl
  exact special (x.isNameChar_of_mem _ List.mem_cons_self)

theorem text_ne_nil : x.text ≠ [] := List.cons_ne_nil _ _

theorem not_isBlank_of_mem : ∀ c ∈ x.text, Text.isBlank c = false :=
  fun c member => (x.isNameChar_of_mem c member).not_isBlank

end Identifier

def listText (list : List Identifier) : List Char :=
  ", ".toList.intercalate (list.map (·.text))

inductive Marker where
  | optional
  | array
  deriving DecidableEq

def Marker.text : Marker → List Char
  | optional => ['?']
  | array => ['[', ']']

inductive Label where
  | fields
  | references
  | onDelete
  | onUpdate
  deriving DecidableEq

def Label.text : Label → List Char
  | fields => "fields:".toList
  | references => "references:".toList
  | onDelete => "onDelete:".toList
  | onUpdate => "onUpdate:".toList

/-- The argument of a relation after its label. -/
inductive Value where
  | names (list : List Identifier)
  | action (name : Identifier)
  deriving DecidableEq

/-- The text of a value without its brackets. -/
def Value.content : Value → List Char
  | names list => listText list
  | action name => name.text

def Value.text : Value → List Char
  | names list => '[' :: (listText list ++ [']'])
  | action name => name.text

/-- A relation, which may leave out any of its arguments. An action may be an unknown one. -/
structure RelationAttribute where
  fields : Option (List Identifier) := none
  references : Option (List Identifier) := none
  onDelete : Option Identifier := none
  onUpdate : Option Identifier := none
  deriving DecidableEq

namespace RelationAttribute

def arguments (r : RelationAttribute) : List (Label × Value) :=
  [(Label.fields, r.fields.map Value.names), (.references, r.references.map .names),
    (.onDelete, r.onDelete.map .action), (.onUpdate, r.onUpdate.map .action)].filterMap
      fun argument => argument.2.map (argument.1, ·)

def argumentsText (arguments : List (Label × Value)) : List Char :=
  ", ".toList.intercalate (arguments.map fun argument => argument.1.text ++ ' ' :: argument.2.text)

/-- The action of that name, if there is one. -/
def action? (name : Identifier) : Option ReferentialAction :=
  ReferentialAction.all.find? (·.name = name.name)

def relation (r : RelationAttribute) : Relation where
  fields := (r.fields.getD []).map (·.name)
  references := (r.references.getD []).map (·.name)
  onDelete := r.onDelete.bind action?
  onUpdate := r.onUpdate.bind action?

end RelationAttribute

inductive AttributeKind where
  | id
  | unique
  | objectId
  | relation
  deriving DecidableEq

/-- What an attribute is told by, after its first character. -/
def AttributeKind.word : AttributeKind → List Char
  | id => "id".toList
  | unique => "unique".toList
  | objectId => "db.ObjectId".toList
  | relation => "relation(".toList

inductive Attribute where
  | id
  | unique
  | objectId
  | relation (r : RelationAttribute)
  deriving DecidableEq

namespace Attribute

def kind : Attribute → AttributeKind
  | id => .id
  | unique => .unique
  | objectId => .objectId
  | relation _ => .relation

/-- The text after the word. -/
def ending : Attribute → List Char
  | relation r => RelationAttribute.argumentsText r.arguments ++ [')']
  | _ => []

def text (a : Attribute) : List Char := '@' :: (a.kind.word ++ a.ending)

def relation? : Attribute → Option Relation
  | relation r => some r.relation
  | _ => none

end Attribute

/-- A field with a type, markers behind it and attributes in any order, of which at most one is a
relation. -/
structure FieldLine where
  name : Identifier
  base : Identifier
  markers : List Marker
  attributes : List Attribute
  single : (attributes.filterMap (·.relation?)).length ≤ 1

namespace FieldLine

def typeText (f : FieldLine) : List Char := f.base.text ++ f.markers.flatMap (·.text)

def attributesText (attributes : List Attribute) : List Char :=
  attributes.flatMap fun a => ' ' :: a.text

def text (f : FieldLine) : List Char :=
  f.name.text ++ ' ' :: (f.typeText ++ attributesText f.attributes)

def field (f : FieldLine) : Field where
  name := f.name.name
  type := String.ofList f.typeText
  isId := .id ∈ f.attributes
  isUnique := .unique ∈ f.attributes
  isObjectId := .objectId ∈ f.attributes
  relation := f.attributes.findSome? (·.relation?)

end FieldLine

inductive Kind where
  | id
  | unique
  | index
  deriving DecidableEq

def Kind.word : Kind → List Char
  | id => "id(".toList
  | unique => "unique(".toList
  | index => "index(".toList

def Kind.opening (kind : Kind) : List Char := '@' :: '@' :: kind.word

/-- A block attribute names at least one field. -/
structure BlockAttribute where
  kind : Kind
  first : Identifier
  others : List Identifier

namespace BlockAttribute

def list (a : BlockAttribute) : List Identifier := a.first :: a.others

def text (a : BlockAttribute) : List Char :=
  a.kind.opening ++ '[' :: (listText a.list ++ "])".toList)

/-- The fields that an attribute of the kind names. -/
def namesOf (kind : Kind) (a : BlockAttribute) : Option (List String) :=
  if a.kind = kind then some (a.list.map (·.name)) else none

end BlockAttribute

/-- The line that opens a block. -/
def header (keyword : List Char) (name : Identifier) : List Char :=
  keyword ++ ' ' :: (name.text ++ [' ', '\x7b'])

structure ModelBlock where
  name : Identifier
  fields : List FieldLine
  attributes : List BlockAttribute

namespace ModelBlock

def lines (m : ModelBlock) : List (List Char) :=
  header "model".toList m.name ::
    (m.fields.map (·.text) ++ (m.attributes.map (·.text) ++ [['\x7d']]))

/-- The names of the fields with an `@id`, each one once. -/
def idNames (m : ModelBlock) : List String :=
  ((m.fields.filter (·.field.isId)).map (·.name.name)).eraseDups

def table (m : ModelBlock) : Table where
  name := m.name.name
  fields := m.fields.map (·.field)
  uniqueConstraints := (m.attributes.filterMap (·.namesOf .unique)).map .mk
  indexes := (m.attributes.filterMap (·.namesOf .index)).map .mk
  idFields := (m.attributes.filterMap (·.namesOf .id)).getLast?.getD m.idNames

end ModelBlock

structure EnumerationBlock where
  name : Identifier
  values : List Identifier

namespace EnumerationBlock

def lines (e : EnumerationBlock) : List (List Char) :=
  header "enum".toList e.name :: (e.values.map (·.text) ++ [['\x7d']])

def enumeration (e : EnumerationBlock) : Enumeration where
  name := e.name.name
  values := e.values.map (·.name)

end EnumerationBlock

inductive Declaration where
  | model (block : ModelBlock)
  | enumeration (block : EnumerationBlock)

namespace Declaration

def lines : Declaration → List (List Char)
  | model block => block.lines
  | enumeration block => block.lines

def table? : Declaration → Option Table
  | model block => some block.table
  | enumeration _ => none

def enumeration? : Declaration → Option Enumeration
  | model _ => none
  | enumeration block => some block.enumeration

end Declaration

/-- The canonical text, in which every line ends with a line break. -/
def source (declarations : List Declaration) : String :=
  String.ofList ((declarations.flatMap (·.lines)).flatMap (· ++ ['\n']))

end Conform.Schema.Canonical
