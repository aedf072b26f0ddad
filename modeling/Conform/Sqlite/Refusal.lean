import Conform.Sqlite.Function.Basic

/-! Why the database refuses a statement. -/
namespace Conform.Sqlite

inductive Refusal where
  | unreadable (statement : String)
  | readOnly
  | tableExists (name : String)
  | indexExists (name : String)
  | reservedName (name : String)
  | systemTable (name : String)
  | noSuchTable (name : String)
  | noSuchIndex (name : String)
  | noSuchColumn (table column : String)
  | duplicateColumn (name : String)
  | secondPrimaryKey (table : String)
  | noPrimaryKey (table : String)
  | unknownDatatype (table column : String)
  | wrongDatatype (table column : String)
  | autoincrementMisplaced
  | conflictingResolutions
  | defaultNotConstant (column : String)
  | misplacedGenerated (column : String)
  | noPlainColumn
  | generatedLoop (column : String)
  | expressionInKey (table : String)
  | noSuchCollation (table : String)
  | meaninglessCheck (table : String)
  | unusableExpression (table : String)
  | failedFunction (fault : FunctionFault)
  | unknownForeignKeyColumn (column : String)
  | unevenForeignKey (table : String)
  | constraintIndex (name : String)
  | valueCount (table : String) (expected given : Nat)
  | notNull (table column : String)
  | failedCheck (table : String)
  | notUnique (table : String) (columns : List String)
  | noRowNumber (table : String)
  | full
  | orphan
  | foreignKeyMismatch (table references : String)
  | tooDeep
  | malformed
  deriving DecidableEq, Repr

def Refusal.message : Refusal → String
  | unreadable statement => "syntax error in: " ++ statement
  | readOnly => "attempt to write a readonly database"
  | tableExists name => "table " ++ name ++ " already exists"
  | indexExists name => "index " ++ name ++ " already exists"
  | reservedName name => "object name reserved for internal use: " ++ name
  | systemTable name => "table " ++ name ++ " may not be altered"
  | noSuchTable name => "no such table: " ++ name
  | noSuchIndex name => "no such index: " ++ name
  | noSuchColumn table column => "table " ++ table ++ " has no column named " ++ column
  | duplicateColumn name => "duplicate column name: " ++ name
  | secondPrimaryKey table => "table " ++ table ++ " has more than one primary key"
  | noPrimaryKey table => "PRIMARY KEY missing on table " ++ table
  | unknownDatatype table column => "unknown datatype for " ++ table ++ "." ++ column
  | wrongDatatype table column => "cannot store value in " ++ table ++ "." ++ column
  | autoincrementMisplaced => "AUTOINCREMENT is only allowed on an INTEGER PRIMARY KEY"
  | conflictingResolutions => "conflicting ON CONFLICT clauses specified"
  | defaultNotConstant column => "default value of column [" ++ column ++ "] is not constant"
  | misplacedGenerated column => "error in generated column " ++ column
  | noPlainColumn => "must have at least one non-generated column"
  | generatedLoop column => "generated column loop on " ++ column
  | expressionInKey table => "expressions prohibited in the keys of " ++ table
  | noSuchCollation table => "no such collation sequence in the definition of " ++ table
  | meaninglessCheck table => "meaningless expression in the definition of " ++ table
  | unusableExpression table => "row value misused in the definition of " ++ table
  | failedFunction fault => fault.message
  | unknownForeignKeyColumn column =>
    "unknown column " ++ column ++ " in foreign key definition"
  | unevenForeignKey table =>
    "number of columns in foreign key does not match the number of columns in " ++ table
  | constraintIndex name =>
    "index " ++ name ++ " belongs to a UNIQUE or PRIMARY KEY constraint and cannot be dropped"
  | valueCount table expected given =>
    s!"table {table} has {expected} columns but {given} values were supplied"
  | notNull table column => "NOT NULL constraint failed: " ++ table ++ "." ++ column
  | failedCheck table => "CHECK constraint failed: " ++ table
  | notUnique table columns =>
    "UNIQUE constraint failed: " ++ ", ".intercalate (columns.map ((table ++ ".") ++ ·))
  | noRowNumber table => "datatype mismatch in the key of " ++ table
  | full => "database or disk is full"
  | orphan => "FOREIGN KEY constraint failed"
  | foreignKeyMismatch table references =>
    "foreign key mismatch - " ++ table ++ " referencing " ++ references
  | tooDeep => "too many levels of trigger recursion"
  | malformed => "database disk image is malformed"

end Conform.Sqlite
