import Conform.Error
import Conform.Operation
import Conform.Text.Case

/-! A dialect is what planning needs to know of a backend: its types, what it can change in an
existing table, and its statements. -/
namespace Conform

structure Dialect where
  name : String
  /-- The backend's type for a declared type, if it has one. -/
  nativeType? : String → Option String
  /-- One spelling for the catalog's spellings of a type. -/
  canonicalType : String → String
  /-- Can the type of a column change in place? -/
  altersColumns : Bool
  /-- Can keys be added to an existing table? -/
  addsConstraints : Bool
  render : Operation → List Sql.Statement

namespace Dialect

/-- A type without surrounding white space, in capital letters. -/
def capitals (type : String) : String := String.ofList (Text.upper (Text.trim type.toList))

/-- A type without surrounding white space, in small letters. -/
def smallLetters (type : String) : String := String.ofList (Text.lower (Text.trim type.toList))

def mapType (d : Dialect) (type : String) : Except Error String :=
  match d.nativeType? type with
  | some native => .ok native
  | none => .error (.unsupportedType d.name type)

/-- The type of a field's column. Enumerations and lists are stored as text. -/
def columnType (d : Dialect) (f : Schema.Field) : Except Error String :=
  if f.isEnum || f.isArray then .ok "TEXT" else d.mapType f.type

/-- The type changes that lose no data, from the left type to the right one. -/
def safeConversions : List (String × String) :=
  [("TEXT", "VARCHAR"),
   ("VARCHAR", "TEXT"),
   ("INTEGER", "BIGINT"),
   ("SMALLINT", "INTEGER"),
   ("NUMERIC", "DECIMAL"),
   ("DATETIME", "TIMESTAMP"),
   ("TIMESTAMP", "TIMESTAMPTZ")]

def canConvert (oldType newType : String) : Bool :=
  safeConversions.contains (capitals oldType, capitals newType)

end Dialect

end Conform
