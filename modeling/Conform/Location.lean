import Conform.Error
import Conform.Text.Blank
import Conform.Text.Scan

/-! Which kind of backend a connection string names. -/
namespace Conform

inductive BackendKind where
  | sqlite
  | postgres
  deriving DecidableEq, Repr

open Text in
/-- A `sqlite:` string or a bare path names an SQLite database. -/
def BackendKind.ofUrl (url : String) : Except Error BackendKind :=
  let url := trim url.toList
  let starts (scheme : String) : Bool := (after scheme.toList url).isSome
  if starts "postgres://" || starts "postgresql://" then .ok .postgres
  else if starts "sqlite:" || (!url.isEmpty && !Text.contains "://".toList url) then .ok .sqlite
  else .error (.unknownBackend (String.ofList url))

end Conform
