import Conform.Sqlite.Value
import Conform.Text.Scan

/-! Tables that are there without having been made, as long as no other table has the name: settings
with one value each, and tables that stay empty unless they are asked with arguments. No statement
can change them. -/
namespace Conform.Sqlite

/-- The beginning of the name of a table that holds a setting or a list. -/
def settingPrefix : String := "pragma_"

/-- Settings that are numbers. -/
def numericSettings : List (String × Int) := [
  ("analysis_limit", 0), ("application_id", 0), ("auto_vacuum", 0), ("automatic_index", 1),
  ("busy_timeout", 5000), ("cache_size", -2000), ("cache_spill", 483), ("cell_size_check", 0),
  ("checkpoint_fullfsync", 0), ("count_changes", 0), ("data_version", 1),
  ("default_cache_size", -2000), ("defer_foreign_keys", 0), ("empty_result_callbacks", 0),
  ("foreign_keys", 1), ("full_column_names", 0), ("fullfsync", 0), ("hard_heap_limit", 0),
  ("ignore_check_constraints", 0), ("journal_size_limit", -1), ("legacy_alter_table", 0),
  ("max_page_count", 4294967294), ("page_size", 4096), ("query_only", 0), ("read_uncommitted", 0),
  ("recursive_triggers", 0), ("reverse_unordered_selects", 0), ("secure_delete", 0),
  ("short_column_names", 1), ("soft_heap_limit", 0), ("synchronous", 2), ("temp_store", 0),
  ("threads", 0), ("trusted_schema", 1), ("user_version", 0), ("writable_schema", 0)]

/-- Settings that are words. -/
def verbalSettings : List (String × String) := [
  ("encoding", "UTF-8"), ("integrity_check", "ok"), ("journal_mode", "memory"),
  ("locking_mode", "normal"), ("quick_check", "ok")]

/-- Lists that need an argument. -/
def askedLists : List String := [
  "foreign_key_list", "index_info", "index_list", "index_xinfo", "optimize", "table_info",
  "table_xinfo"]

/-- Tables without a row of their own. -/
def vacantTables : List String := [
  "json_each", "json_tree", "sqlite_temp_master", "sqlite_temp_schema"]

/-- The rows of a setting or a list. -/
def settingRows? (setting : String) : Option (List (List Value)) :=
  match setting with
  | "collation_list" => some [[.integer 0, .ofString "RTRIM"], [.integer 1, .ofString "NOCASE"],
      [.integer 2, .ofString "BINARY"]]
  | "database_list" => some [[.integer 0, .ofString "main", .ofString ""]]
  | _ =>
    if askedLists.contains setting then some []
    else
      let number := (numericSettings.lookup setting).map Value.integer
      (number.or ((verbalSettings.lookup setting).map .ofString)).map fun v => [[v]]

/-- The setting that the name of a table is the name of. -/
def settingOf? (table : String) : Option String :=
  (Text.after settingPrefix.toList (table.toList.map Char.toLower)).map String.ofList

/-- The rows of a table that is there without having been made. -/
def fixedRows? (table : String) : Option (List (List Value)) :=
  if vacantTables.contains (String.ofList (table.toList.map Char.toLower)) then some []
  else (settingOf? table).bind settingRows?

end Conform.Sqlite
