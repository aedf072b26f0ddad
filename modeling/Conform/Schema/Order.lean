import Conform.Schema.Basic

/-! The order in which tables are brought in line: a table comes after the tables it references.
Ties keep the order of declaration, and a cycle is broken at its first table. -/
namespace Conform.Schema

/-- Every table that `t` references is `t` itself or no longer waiting. -/
def Table.isReady (t : Table) (waiting : List Table) : Bool :=
  t.referencedTables.all fun name => name == t.name || !waiting.any (·.name == name)

/-- The position of the table that goes next. -/
def nextIndex (waiting : List Table) : Nat :=
  (waiting.findIdx? (·.isReady waiting)).getD 0

/-- Places `count` of the waiting tables. -/
def arrange : (count : Nat) → (waiting : List Table) → List Table
  | 0, _ => []
  | count + 1, waiting =>
    let i := nextIndex waiting
    match waiting[i]? with
    | none => []
    | some t => t :: arrange count (waiting.eraseIdx i)

def Model.ordered (m : Model) : List Table := arrange m.tables.length m.tables

end Conform.Schema
