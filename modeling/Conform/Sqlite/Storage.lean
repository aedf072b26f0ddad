import Conform.Json.Parser
import Conform.Json.Printer
import Conform.Sqlite.Execute

/-! A database as the text of a file: a header, and then one document with the definition, the
indexes and the rows of every table. -/
namespace Conform.Sqlite

/-- Reals, bytes and texts that are not well formed are written by their bits, each in a list of its
own kind. -/
def Value.toJson : Value → Json
  | null => .null
  | integer n => .number (toString n).toList
  | real x => .array [.number (toString x.bits.toNat).toList]
  | text s => match Text.ofUtf8 s with
    | .ok chars => .string (String.ofList chars)
    | .error _ => .array (.bool true :: numbers s)
  | blob bytes => .array (.null :: numbers bytes)
where
  numbers (bytes : List UInt8) : List Json :=
    bytes.map fun b => .number (toString b.toNat).toList

def naturalOf? : Json → Option Nat
  | .number spelling => (String.ofList spelling).toNat?
  | _ => none

def bytesOf? (numbers : List Json) : Option (List UInt8) :=
  (numbers.mapM naturalOf?).map fun ns => ns.map UInt8.ofNat

def Value.ofJson? : Json → Option Value
  | .null => some .null
  | .number spelling => (String.ofList spelling).toInt?.map .integer
  | .string s => some (.ofString s)
  | .array (.null :: bytes) => (bytesOf? bytes).map .blob
  | .array [bits] => (naturalOf? bits).map fun n => .real ⟨UInt64.ofNat n⟩
  | .array (.bool true :: bytes) => (bytesOf? bytes).map .text
  | .bool _ | .array _ | .object _ | .misspelt _ => none

/-- A row is its number and then its values. -/
def Row.toJson (r : Row) : Json :=
  .array (.number (toString r.id).toList :: r.values.map (·.toJson))

def Row.ofJson? (j : Json) : Option Row := do
  match ← j.listOf? Value.ofJson? with
  | .integer id :: values => some { id, values }
  | _ => none

/-- An index that no constraint makes, with the rows that it holds by keys of before. -/
def Index.toJson (i : Index) : Json :=
  let d := i.declared.getD default
  .array [.string d.name, .string d.table, .bool d.unique, .array (d.columns.map .string),
    .array (i.stale.map fun (id, key) => Row.toJson ⟨id, key⟩)]

def Index.ofJson? (t : Table) : Json → Option Index
  | .array [.string name, .string table, .bool unique, columns, stale] => do
    let columns ← columns.listOf? Json.string?
    let index := t.indexOf { name, table, columns, unique }
    return { index with stale := (← stale.listOf? Row.ofJson?).map fun r => (r.id, r.values) }
  | _ => none

def Table.toJson (t : Table) : Json :=
  .array [.string t.definition.text,
    .array ((t.indexes.filter (!·.ofConstraint)).reverse.map (·.toJson)),
    .array (t.allRows.map (·.toJson))]

def Table.ofJson? : Json → Option Table
  | .array [.string definition, indexes, rows] => do
    let t ← (Table.ofDefinition (← Definition.ofText? definition)).toOption
    let declared ← indexes.listOf? (Index.ofJson? t)
    let t := declared.foldl (fun (t : Table) i =>
      { t with indexes := Table.withIndex i t.indexes }) t
    return (← rows.listOf? Row.ofJson?).foldl Table.put t
  | _ => none

namespace Database

/-- What a file of a database begins with. -/
def header : String := "SQLite format 3\x00"

def toText (db : Database) : String :=
  header ++ (Json.array (db.tables.map (·.toJson))).document

/-- The database in a file. A file of at most one byte holds an empty one. -/
def ofText? (text : String) : Option Database :=
  if text.utf8ByteSize ≤ 1 then some {} else do
    let document ← Text.after header.toList text.toList
    return { tables := ← (← Json.parse? (String.ofList document)).listOf? Table.ofJson? }

end Database

end Conform.Sqlite
