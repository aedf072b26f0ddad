import Conform.Dialect.Basic

/-! The PostgreSQL dialect. Types it does not know are stored as text, and all changes can be made
in place. -/
namespace Conform.Dialect

def postgresTypes : List (String × String) :=
  [("int", "INTEGER"), ("integer", "INTEGER"),
   ("bigint", "BIGINT"),
   ("string", "TEXT"), ("text", "TEXT"),
   ("boolean", "BOOLEAN"), ("bool", "BOOLEAN"),
   ("datetime", "TIMESTAMP"),
   ("float", "REAL"), ("real", "REAL"),
   ("decimal", "NUMERIC"), ("numeric", "NUMERIC"),
   ("json", "JSONB"),
   ("bytes", "BYTEA")]

/-- The catalog's spellings and what they are called here. -/
def postgresSpellings : List (String × String) :=
  [("integer", "INTEGER"), ("int", "INTEGER"), ("int4", "INTEGER"),
   ("bigint", "BIGINT"), ("int8", "BIGINT"),
   ("smallint", "SMALLINT"), ("int2", "SMALLINT"),
   ("text", "TEXT"),
   ("character varying", "VARCHAR"), ("varchar", "VARCHAR"),
   ("character", "CHAR"), ("char", "CHAR"), ("bpchar", "CHAR"),
   ("boolean", "BOOLEAN"), ("bool", "BOOLEAN"),
   ("timestamp without time zone", "TIMESTAMP"), ("timestamp", "TIMESTAMP"),
   ("timestamp with time zone", "TIMESTAMPTZ"), ("timestamptz", "TIMESTAMPTZ"),
   ("real", "REAL"), ("float4", "REAL"),
   ("double precision", "DOUBLE PRECISION"), ("float8", "DOUBLE PRECISION"),
   ("numeric", "NUMERIC"),
   ("decimal", "DECIMAL"),
   ("jsonb", "JSONB"),
   ("json", "JSON"),
   ("bytea", "BYTEA"),
   ("date", "DATE")]

def canonicalPostgres (type : String) : String :=
  let small := smallLetters type
  (postgresSpellings.lookup small).getD (String.ofList (Text.upper small.toList))

def renderPostgres : Operation → List Sql.Statement
  | .createTable table ifNotExists => [.createTable table ifNotExists]
  | .dropTable name ifExists => [.dropTable name ifExists true]
  | .addColumn table column => [.addColumn table column]
  | .alterColumnType table column _ newType => [.alterColumnType table column newType]
  | .createIndex index => [.createIndex index]
  | .dropIndex name ifExists => [.dropIndex name ifExists]
  | .setPrimaryKey table columns replaces =>
    (replaces.map (.dropConstraint table)).toList ++
      (if columns.isEmpty then [] else [.addPrimaryKey table columns])
  | .addForeignKey table key => [.addForeignKey table key]

def postgres : Dialect where
  name := "postgresql"
  nativeType? type := some ((postgresTypes.lookup (smallLetters type)).getD "TEXT")
  canonicalType := canonicalPostgres
  altersColumns := true
  addsConstraints := true
  render := renderPostgres

end Conform.Dialect
