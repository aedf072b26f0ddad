/-! The ways in which a schema can be malformed, each with the place it names and its wording. -/
namespace Conform.Schema

inductive BlockKind where
  | model
  | enumeration
  | other
  deriving DecidableEq, Repr

def BlockKind.word : BlockKind → String
  | model => "model"
  | enumeration => "enum"
  | other => "block"

/-- The part of a table that names fields. -/
inductive Mention where
  | id
  | uniqueConstraint
  | index
  | relation
  deriving DecidableEq, Repr

def Mention.word : Mention → String
  | id => "id"
  | uniqueConstraint => "unique constraint"
  | index => "index"
  | relation => "relation"

/-- The two documents that together hold a schema. -/
inductive DocumentKind where
  | tables
  | enums
  deriving DecidableEq, Repr

def DocumentKind.word : DocumentKind → String
  | tables => "table definitions"
  | enums => "enum definitions"

inductive Fault where
  | notABlock (line : Nat) (found : String)
  | unterminated (line : Nat) (kind : BlockKind) (name : String)
  | fieldWithoutType (table : String) (line : Nat) (found : String)
  | declaredTwice (table : String)
  | unpairedRelation (table field : String) (localFields references : Nat)
  | relationToNoModel (table field target : String)
  | unknownField (table : String) (mention : Mention) (field : String)
  | relationHasNoColumn (table : String) (mention : Mention) (field : String)
  | uniqueRelation (table field : String)
  | relationColumnIsRelation (table column : String)
  | unknownModel (table target : String)
  | unknownReference (table field target missing : String)
  | undecodable (document : DocumentKind)
  /-- A fault found elsewhere, in the words of its finder. -/
  | stated (place finding : String)
  deriving DecidableEq, Repr

namespace Fault

/-- Where the fault is. -/
def context : Fault → String
  | notABlock line _ => s!"line {line}"
  | unterminated line _ _ => s!"line {line}"
  | fieldWithoutType table line _ => s!"{table} line {line}"
  | declaredTwice table => table
  | unpairedRelation table field _ _ => table ++ "." ++ field
  | relationToNoModel table field _ => table ++ "." ++ field
  | unknownField table _ _ => table
  | relationHasNoColumn table _ _ => table
  | uniqueRelation table field => table ++ "." ++ field
  | relationColumnIsRelation table _ => table
  | unknownModel table _ => table
  | unknownReference table field _ _ => table ++ "." ++ field
  | undecodable document => document.word
  | stated place _ => place

/-- What is wrong. -/
def message : Fault → String
  | notABlock _ found => "expected a block declaration, found '" ++ found ++ "'"
  | unterminated _ kind name => "unterminated " ++ kind.word ++ " '" ++ name ++ "'"
  | fieldWithoutType _ _ found => "expected '<name> <type>', found '" ++ found ++ "'"
  | declaredTwice _ => "model declared more than once"
  | unpairedRelation _ _ localFields references =>
    s!"relation has {localFields} local field(s) but {references} referenced column(s)"
  | relationToNoModel _ _ target =>
    "relation declared on '" ++ target ++ "', which is not a model"
  | unknownField _ mention field => mention.word ++ " references unknown field '" ++ field ++ "'"
  | relationHasNoColumn _ mention field =>
    mention.word ++ " names relation field '" ++ field ++ "', which has no column"
  | uniqueRelation _ _ => "@unique on a relation field, which has no column"
  | relationColumnIsRelation _ column =>
    "relation column '" ++ column ++ "' is itself a relation field"
  | unknownModel _ target => "unknown model '" ++ target ++ "'"
  | unknownReference _ _ target missing =>
    "references unknown field '" ++ target ++ "." ++ missing ++ "'"
  | undecodable _ => "not a list of definitions"
  | stated _ finding => finding

end Fault

end Conform.Schema
