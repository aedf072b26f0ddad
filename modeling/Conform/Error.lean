import Conform.Schema.Fault

/-! What can go wrong between a schema and a database. A failure is what a backend reports; an
error is what a run makes of it. -/
namespace Conform

inductive Failure where
  /-- The database itself refused. -/
  | reported (finding : String)
  /-- The connection cannot be made or used. -/
  | io (finding : String)
  | tls
  | protocol
  | poolTimedOut
  | poolClosed
  | workerCrashed
  | rowNotFound
  | columnNotFound
  /-- The connection string asks for what cannot be had. -/
  | configuration (finding : String)
  deriving DecidableEq, Repr, Inhabited

namespace Failure

/-- After such a failure the connection is of no more use. -/
def losesConnection : Failure → Bool
  | io _ | tls | protocol | poolTimedOut | poolClosed | workerCrashed => true
  | reported _ | rowNotFound | columnNotFound | configuration _ => false

def message : Failure → String
  | reported finding => "error returned from database: " ++ finding
  | io finding => "error communicating with database: " ++ finding
  | tls => "error occurred while attempting to establish a TLS connection"
  | protocol => "encountered unexpected or invalid data"
  | poolTimedOut => "pool timed out while waiting for an open connection"
  | poolClosed => "attempted to acquire a connection on a closed pool"
  | workerCrashed => "attempted to communicate with a crashed background worker"
  | rowNotFound => "no rows returned by a query that expected to return at least one row"
  | columnNotFound => "no column found for name"
  | configuration finding => "error with configuration: " ++ finding

end Failure

/-- Tables of this many rows or more are never dropped or rebuilt. -/
def rowLimit : Nat := 10000

inductive Error where
  | malformedSchema (fault : Schema.Fault)
  | unsupportedType (dialect type : String)
  | lossyConversion (table column oldType newType : String)
  | tableTooLarge (table : String) (rows : Nat)
  /-- The database refused the statement. -/
  | refused (sql finding : String)
  /-- A check found the outcome of the statement to break a constraint. -/
  | violation (sql finding : String)
  | database (failure : Failure)
  | unknownBackend (url : String)
  deriving DecidableEq, Repr, Inhabited

namespace Error

/-- A failed statement: a refusal names the statement, any other failure stays what it is. -/
def ofStatement (sql : String) : Failure → Error
  | .reported finding => .refused sql finding
  | failure => .database failure

/-- Such an error ends a whole run, and not the work on one table only. -/
def endsRun : Error → Bool
  | database failure => failure.losesConnection
  | _ => false

def message : Error → String
  | malformedSchema fault => "Malformed schema (" ++ fault.context ++ "): " ++ fault.message
  | unsupportedType dialect type => "Unsupported type '" ++ type ++ "' for " ++ dialect
  | lossyConversion table column oldType newType =>
    "Cannot safely convert column " ++ table ++ "." ++ column ++ " from " ++ oldType ++ " to " ++
      newType
  | tableTooLarge table rows =>
    s!"Table '{table}' has {rows} rows; rebuilds are refused at {rowLimit} rows or more"
  | refused sql finding =>
    "Statement rejected: " ++ (Failure.reported finding).message ++ "\n  SQL: " ++ sql
  | violation sql finding => "Statement rejected: " ++ finding ++ "\n  SQL: " ++ sql
  | database failure => "Database error: " ++ failure.message
  | unknownBackend url => "Unsupported database URL: " ++ url

end Error

end Conform
