import Conform.Sqlite.Execute
import Conform.Sqlite.Fixed

/-! What queries read: the rows of tables, and what the database tells of itself. Its catalog has a
row for every table and every index with the page on which it begins; the other tables of that
kind are read by the names of settings. -/
namespace Conform.Sqlite

namespace Database

def catalogRows (db : Database) : List (List Value) :=
  db.tables.flatMap fun t =>
    entry "table" t.name t.name t.root (.ofString t.definition.text) ::
      t.listedIndexes.map fun i =>
        entry "index" i.name t.name i.root (i.declared.elim .null fun d => .ofString d.sql)
where
  entry (kind name table : String) (root : Nat) (text : Value) : List Value :=
    [.ofString kind, .ofString name, .ofString table, .integer root, text]

/-- The tables with their numbers of columns, the two catalogs among them. -/
def tableRows (db : Database) : List (List Value) :=
  entry "main" "sqlite_schema" 5 false false :: entry "temp" "sqlite_temp_schema" 5 false false ::
    db.tables.map fun t => entry "main" t.name t.columns.length (!t.isNumbered) t.isStrict
where
  entry (schema name : String) (columns : Nat) (isUnnumbered isStrict : Bool) : List Value :=
    [.ofString schema, .ofString name, .ofString "table", .integer columns,
      .integer isUnnumbered.toNat, .integer isStrict.toNat]

/-- All rows that lack a parent, each with the key by which it does. -/
def orphanRows (db : Database) : Except Refusal (List (List Value)) := do
  let found ← db.tables.mapM fun t => t.foreignKeys.zipIdx.mapM fun (k, id) => do
    let rows ← db.orphans t k
    return rows.map fun r =>
      [.ofString t.name, if t.isNumbered then .integer r.id else .null,
        .ofString k.reference.table, .integer id]
  return found.flatten.flatten

/-- What the database tells of itself under the name of a setting. -/
def ownRows? (db : Database) (setting : String) : Option (Except Refusal (List (List Value))) :=
  match setting with
  | "page_count" => number db.pages.count
  | "freelist_count" => number db.pages.freeCount
  | "schema_version" => number db.version
  | "table_list" => some (.ok db.tableRows)
  | "foreign_key_check" => some db.orphanRows
  | _ => none
where
  number (n : Nat) : Option (Except Refusal (List (List Value))) := some (.ok [[.integer n]])

/-- All rows that a query for a table answers. -/
def rows (db : Database) (name : String) : Except Refusal (List (List Value)) :=
  if isCatalog name then .ok db.catalogRows
  else match db.table? name with
    | some t => .ok (t.allRows.map (·.values))
    | none =>
      let own := (settingOf? name).bind db.ownRows?
      (own.or ((fixedRows? name).map .ok)).getD (.error (.noSuchTable name))

/-- The number of rows of a table. -/
def rowCount (db : Database) (name : String) : Except Refusal Nat :=
  match db.table? name with
  | some t => .ok t.rows.size
  | none => (db.rows name).map (·.length)

/-- The number of columns that a query for a table answers, if statements have made the table. -/
def width? (db : Database) (name : String) : Option Nat :=
  (db.table? name).map (·.columns.length)

end Database

end Conform.Sqlite
