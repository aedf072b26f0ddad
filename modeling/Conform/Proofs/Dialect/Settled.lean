import Conform.Dialect.Postgres
import Conform.Dialect.Sqlite

/-! The types that the dialects write. Each of them is read back from the catalog as it was written,
so that a column that has just been made has the type it was to have. -/
namespace Conform

/-- The catalog's spelling of a type that the dialect writes is the dialect's own. -/
def Dialect.Settled (d : Dialect) : Prop :=
  ∀ field type, d.columnType field = .ok type → Text.sameLetters (d.canonicalType type) type = true

/-- Columns have one of the types that the dialect has for declared types. -/
theorem Dialect.columnType_mem {d : Dialect} {types : List String}
    (native : ∀ type written, d.nativeType? type = some written → written ∈ types)
    (text : "TEXT" ∈ types) (typed : d.columnType field = .ok type) : type ∈ types := by
  unfold Dialect.columnType Dialect.mapType at typed
  split at typed
  · cases typed
    exact text
  · cases found : d.nativeType? field.type with
    | none => simp [found] at typed
    | some written =>
      rw [found] at typed
      cases typed
      exact native _ _ found

private theorem mem_of_lookup {table : List (String × String)}
    (found : table.lookup key = some value) : value ∈ table.map (·.2) := by
  induction table with
  | nil => cases found
  | cons entry rest ih =>
    rw [List.lookup_cons] at found
    split at found
    · cases found
      exact List.mem_cons_self
    · exact List.mem_cons_of_mem _ (ih found)

theorem Dialect.sqlite_columnType (typed : sqlite.columnType field = .ok type) :
    type ∈ sqliteTypes.map (·.2) :=
  columnType_mem (fun _ _ found => mem_of_lookup found) (by decide +kernel) typed

theorem Dialect.postgres_columnType (typed : postgres.columnType field = .ok type) :
    type ∈ postgresTypes.map (·.2) := by
  have text : "TEXT" ∈ postgresTypes.map (·.2) := by decide +kernel
  refine columnType_mem (fun type written found => ?_) text typed
  obtain rfl := Option.some.inj found
  cases listed : postgresTypes.lookup (smallLetters type) with
  | none => exact text
  | some native => exact mem_of_lookup listed

theorem Dialect.sqlite_settled : sqlite.Settled := by
  intro field type typed
  have all : ∀ type ∈ sqliteTypes.map (·.2),
      Text.sameLetters (sqlite.canonicalType type) type = true := by decide +kernel
  exact all type (sqlite_columnType typed)

theorem Dialect.postgres_settled : postgres.Settled := by
  intro field type typed
  have all : ∀ type ∈ postgresTypes.map (·.2),
      Text.sameLetters (postgres.canonicalType type) type = true := by decide +kernel
  exact all type (postgres_columnType typed)

end Conform
