import Conform.Proofs.Sqlite.ReadBack

/-! The rows of a catalog come in any order. Ranks and sequence numbers put them right, so that the
same rows in another order are read as the same table, but for the order of its columns. -/
namespace Conform.Sqlite

/-- The catalog numbers the columns of each key, the entries of each index and the columns of each
foreign key, and no number twice. -/
structure Catalog.IsNumbered (c : Catalog) : Prop where
  ranks : ∀ table, (((c.columns table).filter (0 < ·.rank)).map (·.rank)).Nodup
  entries : ∀ index, ((c.indexEntries index).map (·.position)).Nodup
  places : ∀ table, ((c.foreignKeys table).map fun row => (row.id, row.position)).Nodup

/-- The same rows, those of columns, index entries and foreign keys in any order. -/
structure Catalog.Rearranged (c other : Catalog) : Prop where
  columns : ∀ table, (other.columns table).Perm (c.columns table)
  indexes : ∀ table, other.indexes table = c.indexes table
  entries : ∀ index, (other.indexEntries index).Perm (c.indexEntries index)
  foreignKeys : ∀ table, (other.foreignKeys table).Perm (c.foreignKeys table)

/-- Rows with places of their own have an order in which the places increase. -/
theorem exists_sorted (place : α → Nat) {rows : List α} (distinct : (rows.map place).Nodup) :
    ∃ sorted : List α, rows.Perm sorted ∧ (sorted.map place).Pairwise (· < ·) := by
  let le (a b : α) : Bool := place a ≤ place b
  have trans (a b c : α) (ab : le a b = true) (bc : le b c = true) : le a c = true := by
    simp only [le, decide_eq_true_eq] at ab bc ⊢
    exact Nat.le_trans ab bc
  have total (a b : α) : (le a b || le b a) = true := by
    simpa [le] using Nat.le_total (place a) (place b)
  have listed : rows.Perm (rows.mergeSort le) := (List.mergeSort_perm rows le).symm
  have ordered : ((rows.mergeSort le).map place).Pairwise (· ≤ ·) := by
    refine List.pairwise_map.mpr ((List.pairwise_mergeSort trans total rows).imp ?_)
    intro a b ab
    simpa [le] using ab
  have apart : ((rows.mergeSort le).map place).Pairwise (· ≠ ·) :=
    (listed.map place).nodup_iff.mp distinct
  refine ⟨_, listed, (ordered.and apart).imp ?_⟩
  rintro a b ⟨atMost, other⟩
  exact Nat.lt_of_le_of_ne atMost other

/-- Names with ranks of their own are read in one order, whatever order they are listed in. -/
theorem byRank_perm {ranked other : List (Nat × String)} (distinct : (ranked.map (·.1)).Nodup)
    (listed : other.Perm ranked) : byRank other = byRank ranked := by
  obtain ⟨sorted, same, ranks⟩ := exists_sorted Prod.fst distinct
  rw [byRank_eq_of_perm (listed.trans same) ranks, byRank_eq_of_perm same ranks]

section keys
variable {rows other : List ColumnRow}

/-- The key columns by increasing rank. -/
theorem primaryKeyOf_sorted (distinct : ((rows.filter (0 < ·.rank)).map (·.rank)).Nodup) :
    ∃ sorted : List ColumnRow, sorted.Perm (rows.filter (0 < ·.rank)) ∧
      (sorted.map (·.rank)).Pairwise (· < ·) ∧ primaryKeyOf rows = sorted.map (·.name) := by
  obtain ⟨sorted, same, ranks⟩ := exists_sorted ColumnRow.rank distinct
  refine ⟨sorted, same.symm, ranks, ?_⟩
  have listed := same.map fun row => (row.rank, row.name)
  rw [primaryKeyOf, byRank_eq_of_perm listed, List.map_map]
  · rfl
  · rw [List.map_map]
    exact ranks

theorem primaryKeyOf_perm (distinct : ((rows.filter (0 < ·.rank)).map (·.rank)).Nodup)
    (listed : other.Perm rows) : primaryKeyOf other = primaryKeyOf rows := by
  refine byRank_perm ?_ ((listed.filter _).map _)
  rw [List.map_map]
  exact distinct

end keys

/-- The foreign key that the rows make up, which are given by increasing place. -/
structure Catalog.MakesUp (c : Catalog) (parts : List ForeignKeyRow) (key : Live.ForeignKey) :
    Prop where
  name : key.name = none
  table : ∀ first ∈ parts.head?, key.table = first.table
  columns : key.columns = parts.map (·.source)
  /-- Targets stand beside the columns that they belong to. -/
  given : ∀ targets : List String, parts.map (·.target) = targets.map some →
    key.references = targets
  /-- Without a target the key references the key of its table. -/
  implied : none ∈ parts.map (·.target) → key.references = (c.readTable key.table).primaryKey

section foreignKeys
variable {rows other : List ForeignKeyRow}

/-- The rows of one foreign key have places of their own. -/
theorem nodup_places (distinct : (rows.map fun row => (row.id, row.position)).Nodup) (id : Nat) :
    ((rows.filter (·.id == id)).map (·.position)).Nodup := by
  have own : (rows.filter (·.id == id)).map (fun row => (row.id, row.position)) =
      ((rows.filter (·.id == id)).map (·.position)).map (id, ·) := by
    rw [List.map_map]
    refine List.map_congr_left fun row member => ?_
    have same : row.id = id := by simpa using (List.mem_filter.mp member).2
    rw [Function.comp_apply, same]
  have kept := (List.filter_sublist (p := (·.id == id)) (l := rows)).map
    fun row => (row.id, row.position)
  rw [own] at kept
  exact (distinct.sublist kept).of_map _

/-- The rows of a foreign key by increasing place. -/
theorem sorted_places (distinct : (rows.map (·.position)).Nodup) :
    ∃ parts : List ForeignKeyRow, rows.Perm parts ∧ (parts.map (·.position)).Pairwise (· < ·) ∧
      ∀ other : List ForeignKeyRow, other.Perm rows →
        other.mergeSort (fun a b => a.position ≤ b.position) = parts := by
  obtain ⟨parts, same, places⟩ := exists_sorted ForeignKeyRow.position distinct
  refine ⟨parts, same, places, fun other listed => ?_⟩
  exact mergeSort_eq_of_places (·.position) (listed.trans same) places fun _ _ _ _ => rfl

theorem mapM_target_eq_none {parts : List ForeignKeyRow} (absent : none ∈ parts.map (·.target)) :
    parts.mapM ForeignKeyRow.target = none := by
  cases found : parts.mapM ForeignKeyRow.target with
  | none => rfl
  | some targets =>
    rw [mapM_some_iff] at found
    have listed : none ∈ parts.map ForeignKeyRow.target := absent
    rw [found] at listed
    simp at listed

theorem Catalog.readForeignKey_makesUp (c : Catalog) (distinct : (rows.map (·.position)).Nodup) :
    ∃ parts : List ForeignKeyRow, rows.Perm parts ∧ (parts.map (·.position)).Pairwise (· < ·) ∧
      c.MakesUp parts (c.readForeignKey rows) := by
  obtain ⟨parts, same, places, sorted⟩ := sorted_places distinct
  refine ⟨parts, same, places, ?_⟩
  rw [readForeignKey, sorted rows (List.Perm.refl rows)]
  constructor
  case name => rfl
  case columns => rfl
  case table =>
    intro first head
    have found : parts.head? = some first := head
    simp [found]
  case given =>
    intro targets listed
    simp [mapM_some_iff.mpr listed]
  case implied =>
    intro absent
    simp only [mapM_target_eq_none absent, Option.getD_none]
    rfl

theorem nodup_eraseDups (numbers : List Nat) : numbers.eraseDups.Nodup := by
  induction size : numbers.length using Nat.strongRecOn generalizing numbers with
  | ind size' ih =>
    cases numbers with
    | nil => exact List.nodup_nil
    | cons number rest =>
      have shorter : (rest.filter fun other => !other == number).length < size' := by
        have atMost := List.length_filter_le (fun other => !other == number) rest
        simp only [List.length_cons] at size
        omega
      rw [List.eraseDups_cons, List.nodup_cons]
      refine ⟨?_, ih _ shorter _ rfl⟩
      simp [List.mem_eraseDups]

/-- The numbers of foreign keys, from the least one on. -/
theorem sorted_ids (rows : List ForeignKeyRow) :
    ∃ ids : List Nat, ids.Pairwise (· < ·) ∧ (∀ id, id ∈ ids ↔ ∃ row ∈ rows, row.id = id) ∧
      ∀ other : List ForeignKeyRow, other.Perm rows →
        (other.map (·.id)).eraseDups.mergeSort (· ≤ ·) = ids := by
  have distinct : (((rows.map (·.id)).eraseDups).map id).Nodup := by
    rw [List.map_id]
    exact nodup_eraseDups _
  obtain ⟨ids, same, ordered⟩ := exists_sorted id distinct
  rw [List.map_id] at ordered
  refine ⟨ids, ordered, fun id => ?_, fun other listed => ?_⟩
  · rw [← same.mem_iff, List.mem_eraseDups, List.mem_map]
  · have numbers : (other.map (·.id)).eraseDups.Perm (rows.map (·.id)).eraseDups := by
      refine (List.perm_ext_iff_of_nodup (nodup_eraseDups _) (nodup_eraseDups _)).mpr ?_
      intro id
      rw [List.mem_eraseDups, List.mem_eraseDups]
      exact (listed.map (·.id)).mem_iff
    refine mergeSort_eq_of_places id (numbers.trans same) ?_ fun _ _ _ _ => rfl
    rwa [List.map_id]

end foreignKeys

/-- What is read of a table, said without the order of the rows. -/
structure Catalog.Reads (c : Catalog) (name : String) (read : Live.Table) : Prop where
  /-- The key has the ranked columns, by increasing rank. -/
  key : ∃ rows : List ColumnRow, rows.Perm ((c.columns name).filter (0 < ·.rank)) ∧
    (rows.map (·.rank)).Pairwise (· < ·) ∧ read.primaryKey = rows.map (·.name)
  flagged : read.primaryKey.Perm ((read.columns.filter (·.primaryKey)).map (·.name))
  /-- There is a foreign key for each number, from the rows of that number by increasing place. -/
  foreignKeys : ∃ ids : List Nat, ids.Pairwise (· < ·) ∧
    (∀ id, id ∈ ids ↔ ∃ row ∈ c.foreignKeys name, row.id = id) ∧
    List.Forall₂ (fun id key => ∃ parts : List ForeignKeyRow,
      parts.Perm ((c.foreignKeys name).filter (·.id == id)) ∧
      (parts.map (·.position)).Pairwise (· < ·) ∧ c.MakesUp parts key) ids read.foreignKeys

namespace Catalog

variable {c other : Catalog}

theorem readIndex_rearranged (numbered : c.IsNumbered) (rearranged : c.Rearranged other)
    (row : IndexRow) : other.readIndex row = c.readIndex row := by
  have distinct : (((c.indexEntries row.name).filterMap fun entry =>
      entry.name.map (entry.position, ·)).map (·.1)).Nodup := by
    refine (numbered.entries row.name).sublist ?_
    induction c.indexEntries row.name with
    | nil => exact .slnil
    | cons entry rest ih =>
      cases named : entry.name with
      | none => simpa [named] using ih.cons _
      | some name => simpa [named] using ih
  have columns := byRank_perm distinct ((rearranged.entries row.name).filterMap fun entry =>
    entry.name.map (entry.position, ·))
  rw [readIndex, readIndex, columns]

theorem readForeignKey_rearranged (numbered : c.IsNumbered) (rearranged : c.Rearranged other)
    {rows listed : List ForeignKeyRow} (distinct : (rows.map (·.position)).Nodup)
    (same : listed.Perm rows) : other.readForeignKey listed = c.readForeignKey rows := by
  obtain ⟨parts, _, _, sorted⟩ := sorted_places distinct
  have keys (table : String) :
      primaryKeyOf (other.columns table) = primaryKeyOf (c.columns table) :=
    primaryKeyOf_perm (numbered.ranks table) (rearranged.columns table)
  rw [readForeignKey, readForeignKey, sorted listed same, sorted rows (List.Perm.refl rows)]
  simp only [keys]

theorem readForeignKeys_rearranged (numbered : c.IsNumbered) (rearranged : c.Rearranged other)
    (name : String) :
    other.readForeignKeys (other.foreignKeys name) = c.readForeignKeys (c.foreignKeys name) := by
  have listed := rearranged.foreignKeys name
  obtain ⟨ids, _, _, sorted⟩ := sorted_ids (c.foreignKeys name)
  rw [readForeignKeys, readForeignKeys, sorted _ listed, sorted _ (List.Perm.refl _)]
  refine List.map_congr_left fun id _ => ?_
  exact readForeignKey_rearranged numbered rearranged (nodup_places (numbered.places name) id)
    (listed.filter _)

theorem reads_readTable (numbered : c.IsNumbered) (name : String) :
    c.Reads name (c.readTable name) := by
  obtain ⟨rows, listed, ranks, key⟩ := primaryKeyOf_sorted (numbered.ranks name)
  obtain ⟨ids, ordered, numbers, sorted⟩ := sorted_ids (c.foreignKeys name)
  constructor
  case key => exact ⟨rows, listed, ranks, key⟩
  case flagged =>
    have flags : ((c.readTable name).columns.filter (·.primaryKey)).map (·.name) =
        ((c.columns name).filter (0 < ·.rank)).map (·.name) := by
      simp [readTable, readColumn, List.filter_map, Function.comp_def]
    rw [flags]
    exact List.Perm.trans (.of_eq key) (listed.map (·.name))
  case foreignKeys =>
    refine ⟨ids, ordered, numbers, ?_⟩
    have keys : (c.readTable name).foreignKeys =
        ids.map fun id => c.readForeignKey ((c.foreignKeys name).filter (·.id == id)) := by
      rw [readTable, readForeignKeys, sorted _ (List.Perm.refl _)]
    rw [keys, List.forall₂_map_right_iff, List.forall₂_same]
    intro id _
    obtain ⟨parts, same, places, makesUp⟩ :=
      c.readForeignKey_makesUp (nodup_places (numbered.places name) id)
    exact ⟨parts, same.symm, places, makesUp⟩

/-- The order of rows does not matter to what is read of a table, but for the order of its columns:
rows of indexes and foreign keys in another order are read as the same table. Keys have their
columns by rank and by place. -/
theorem reads_in_any_order (numbered : c.IsNumbered) (name : String) :
    c.Reads name (c.readTable name) ∧
      ∀ other : Catalog, c.Rearranged other →
        (other.readTable name).columns.Perm (c.readTable name).columns ∧
        other.readTable name = { c.readTable name with columns := (other.readTable name).columns } ∧
        (other.columns name = c.columns name → other.readTable name = c.readTable name) := by
  refine ⟨reads_readTable numbered name, fun other rearranged => ?_⟩
  have indexes : (other.indexes name).map other.readIndex = (c.indexes name).map c.readIndex := by
    rw [rearranged.indexes]
    exact List.map_congr_left fun row _ => readIndex_rearranged numbered rearranged row
  have key := primaryKeyOf_perm (numbered.ranks name) (rearranged.columns name)
  have foreignKeys := readForeignKeys_rearranged numbered rearranged name
  have whole : other.readTable name =
      { c.readTable name with columns := (other.readTable name).columns } := by
    simp only [readTable, indexes, key, foreignKeys]
  refine ⟨(rearranged.columns name).map readColumn, whole, fun same => ?_⟩
  rw [whole]
  simp only [readTable, same]

/-- Tickets for seats, which have a key of two columns. Some rows are turned round if `turned`, and
those of the two foreign keys are mixed. -/
def seats (turned : Bool) : Catalog where
  definitions := []
  columns table := arranged <| match table with
    | "seat" => [⟨"row", "TEXT", true, none, 2⟩, ⟨"hall", "TEXT", true, none, 1⟩]
    | "ticket" => [⟨"id", "INTEGER", true, none, 1⟩, ⟨"hall", "TEXT", false, none, 0⟩,
        ⟨"row", "TEXT", false, none, 0⟩, ⟨"first", "TEXT", false, none, 0⟩,
        ⟨"last", "TEXT", false, none, 0⟩]
    | _ => []
  indexes table := match table with
    | "ticket" => [⟨"placed", true⟩]
    | _ => []
  indexEntries index := arranged <| match index with
    | "placed" => [⟨1, some "row"⟩, ⟨2, none⟩, ⟨0, some "hall"⟩]
    | _ => []
  foreignKeys table := arranged <| match table with
    | "ticket" => [⟨1, 1, "seat", "row", none⟩, ⟨0, 1, "buyer", "last", some "family"⟩,
        ⟨1, 0, "seat", "hall", none⟩, ⟨0, 0, "buyer", "first", some "given"⟩]
    | _ => []
where
  arranged {α : Type} (rows : List α) : List α := if turned then rows.reverse else rows

theorem seats_read :
    (seats false).IsNumbered ∧ (seats false).Rearranged (seats true) ∧
      (seats false).Reads "ticket" ((seats false).readTable "ticket") ∧
      ((seats true).readTable "ticket").foreignKeys =
        ((seats false).readTable "ticket").foreignKeys := by
  have numbered : (seats false).IsNumbered := by
    constructor
    case ranks =>
      intro table
      simp only [seats, seats.arranged, Bool.false_eq_true, if_false]
      split <;> decide
    case entries =>
      intro index
      simp only [seats, seats.arranged, Bool.false_eq_true, if_false]
      split <;> decide
    case places =>
      intro table
      simp only [seats, seats.arranged, Bool.false_eq_true, if_false]
      split <;> decide
  have rearranged : (seats false).Rearranged (seats true) :=
    ⟨fun _ => List.reverse_perm _, fun _ => rfl, fun _ => List.reverse_perm _,
      fun _ => List.reverse_perm _⟩
  obtain ⟨reads, same⟩ := reads_in_any_order numbered "ticket"
  obtain ⟨_, whole, _⟩ := same _ rearranged
  exact ⟨numbered, rearranged, reads, congrArg (·.foreignKeys) whole⟩

end Catalog

end Conform.Sqlite
