import Conform.Postgres.Catalog
import Conform.Proofs.Plan.Effect

/-! What is read of a table that has just been created. The catalog lists the table as the
statements declared it, with types in the spelling of the information schema. -/
namespace Conform.Postgres

/-- The types that tables are created with, and what the information schema calls them. -/
def schemaSpellings : List (String × String) :=
  [("INTEGER", "integer"),
   ("BIGINT", "bigint"),
   ("TEXT", "text"),
   ("BOOLEAN", "boolean"),
   ("TIMESTAMP", "timestamp without time zone"),
   ("REAL", "real"),
   ("NUMERIC", "numeric"),
   ("JSONB", "jsonb"),
   ("BYTEA", "bytea")]

def schemaSpelling (type : String) : String := (schemaSpellings.lookup type).getD type

def IndexRow.declared (i : Sql.Index) : IndexRow := ⟨i.name, i.columns, i.unique⟩

def ForeignKeyRow.declared (key : Sql.ForeignKey) : ForeignKeyRow :=
  ⟨key.name, key.columns, key.table, key.references⟩

/-- The rows list the table as a statement declared it, with the indexes made for it. -/
structure Lists (key : List KeyRow) (columns : List ColumnRow) (indexes : List IndexRow)
    (foreignKeys : List ForeignKeyRow) (table : Sql.Table) (made : List Sql.Index) : Prop where
  key : ∃ constraint, key = table.primaryKey.map fun column => ⟨constraint, column⟩
  columns : columns.map (fun row => (row.name, row.dataType)) =
    table.columns.map fun column => (column.name, schemaSpelling column.type)
  indexes : indexes.Perm (made.map .declared)
  foreignKeys : foreignKeys.Perm (table.foreignKeys.map .declared)

namespace Lists

variable {key : List KeyRow} {columns : List ColumnRow} {indexes : List IndexRow}
  {foreignKeys : List ForeignKeyRow} {table : Sql.Table} {made : List Sql.Index}

theorem primaryKey_eq (lists : Lists key columns indexes foreignKeys table made) :
    (readTable table.name key columns indexes foreignKeys).primaryKey = table.primaryKey := by
  obtain ⟨constraint, rfl⟩ := lists.key
  rw [readTable, List.map_map]
  exact List.map_id _

theorem typeOf?_eq (lists : Lists key columns indexes foreignKeys table made)
    (distinct : (table.columns.map (·.name)).Nodup) (member : column ∈ table.columns) :
    (readTable table.name key columns indexes foreignKeys).typeOf? column.name =
      some (Dialect.postgres.canonicalType (schemaSpelling column.type)) := by
  have read : (readTable table.name key columns indexes foreignKeys).typeOf? column.name =
      ((columns.find? (·.name == column.name)).map (·.dataType)).map
        Dialect.postgres.canonicalType := by
    simp only [Live.Table.typeOf?, Live.Table.column?, readTable, List.find?_map, Option.map_map,
      Function.comp_def, readColumn]
  rw [read, find?_listed lists.columns distinct member]
  rfl

theorem index?_eq (lists : Lists key columns indexes foreignKeys table made)
    (distinct : (made.map (·.name)).Nodup) (member : i ∈ made) :
    (readTable table.name key columns indexes foreignKeys).index? i.name =
      some (.written i) := by
  have own : indexes.find? (·.name == i.name) = some (.declared i) := by
    refine find?_unique ?_ (by simp [IndexRow.declared]) fun row among named => ?_
    · exact lists.indexes.mem_iff.mpr (List.mem_map_of_mem member)
    · obtain ⟨j, made, rfl⟩ := List.mem_map.mp (lists.indexes.mem_iff.mp among)
      have named : j.name = i.name := by simpa [IndexRow.declared] using named
      rw [List.inj_on_of_nodup_map distinct made member named]
  calc (readTable table.name key columns indexes foreignKeys).index? i.name
      = (indexes.find? (·.name == i.name)).map readIndex := List.find?_map ..
    _ = some (.written i) := by rw [own]; rfl

/-- A declared foreign key is among those that are read. -/
theorem mem_foreignKeys (lists : Lists key columns indexes foreignKeys table made)
    (member : foreignKey ∈ table.foreignKeys) :
    .written foreignKey ∈
      (readTable table.name key columns indexes foreignKeys).foreignKeys :=
  List.mem_map.mpr
    ⟨.declared foreignKey, lists.foreignKeys.mem_iff.mpr (List.mem_map_of_mem member), rfl⟩

end Lists

end Conform.Postgres
