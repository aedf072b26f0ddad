import Conform.Dialect.Basic

/-! The SQLite dialect. It refuses types it does not know, and it cannot change keys or column
types of an existing table: such operations come out as comments. -/
namespace Conform.Dialect

def sqliteTypes : List (String × String) :=
  [("string", "TEXT"), ("text", "TEXT"),
   ("int", "INTEGER"), ("integer", "INTEGER"), ("bigint", "INTEGER"),
   ("boolean", "INTEGER"), ("bool", "INTEGER"),
   ("datetime", "DATETIME"),
   ("float", "REAL"), ("real", "REAL"),
   ("decimal", "NUMERIC"), ("numeric", "NUMERIC"),
   ("json", "TEXT"),
   ("bytes", "BLOB"), ("blob", "BLOB")]

def renderSqlite : Operation → List Sql.Statement
  | .createTable table ifNotExists => [.createTable table ifNotExists]
  | .dropTable name ifExists => [.dropTable name ifExists false]
  | .addColumn table column => [.addColumn table column]
  | .alterColumnType table column _ _ =>
    [.comment ("ALTER COLUMN not supported in SQLite. Table recreation required for: " ++
      table ++ "." ++ column)]
  | .createIndex index => [.createIndex index]
  | .dropIndex name ifExists => [.dropIndex name ifExists]
  | .setPrimaryKey table _ _ =>
    [.comment ("Primary key of " ++ table ++
      " cannot be changed in SQLite. Table recreation required.")]
  | .addForeignKey _ key =>
    [.comment ("Foreign key " ++ key.name ++
      " cannot be added after table creation in SQLite. Table recreation required.")]

def sqlite : Dialect where
  name := "sqlite"
  nativeType? type := sqliteTypes.lookup (smallLetters type)
  canonicalType := capitals
  altersColumns := false
  addsConstraints := false
  render := renderSqlite

end Conform.Dialect
