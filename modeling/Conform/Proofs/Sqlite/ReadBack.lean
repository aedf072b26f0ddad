import Conform.Proofs.Plan.Effect
import Conform.Sqlite.Catalog
import Mathlib.Data.List.Sort

/-! What is read of a table that has just been created. The catalog lists the table as the
statements declared it, with most rows in any order, and reading puts them right. -/
namespace Conform.Sqlite

/-- The place of a column in a key, counted from one; zero is outside. -/
def rankIn (key : List String) (column : String) : Nat := (key.idxOf? column).elim 0 (· + 1)

def IndexRow.declared (i : Sql.Index) : IndexRow := ⟨i.name, i.unique⟩

/-- The entries of an index over the columns. -/
def IndexEntryRow.declared (columns : List String) : List IndexEntryRow :=
  columns.zipIdx.map fun (column, position) => ⟨position, some column⟩

/-- The columns of a foreign key that the catalog numbers `id`. -/
def ForeignKeyRow.declared (id : Nat) (key : Sql.ForeignKey) : List ForeignKeyRow :=
  (key.columns.zip key.references).zipIdx.map fun ((source, target), position) =>
    ⟨id, position, key.table, source, some target⟩

/-- The catalog lists the table as a statement declared it, and as many indexes. It has more of them
for keys, and gives foreign keys numbers of its own. -/
structure Catalog.Lists (c : Catalog) (table : Sql.Table) (made : List Sql.Index) : Prop where
  columns : (c.columns table.name).map (fun row => (row.name, row.type, row.rank)) =
    table.columns.map fun column =>
      (column.name, column.type, rankIn table.primaryKey column.name)
  indexes : ∃ automatic : List IndexRow,
    (∀ row ∈ automatic, ∀ i ∈ made, row.name ≠ i.name) ∧
      (c.indexes table.name).Perm (automatic ++ made.map .declared)
  entries : ∀ i ∈ made, (c.indexEntries i.name).Perm (IndexEntryRow.declared i.columns)
  foreignKeys : ∃ ids : List Nat, ids.Nodup ∧ ids.length = table.foreignKeys.length ∧
    (c.foreignKeys table.name).Perm
      ((ids.zip table.foreignKeys).flatMap fun (id, key) => ForeignKeyRow.declared id key)

/-- Rows in any order are sorted into the one order in which their places increase. -/
theorem mergeSort_eq_of_places {le : α → α → Bool} (place : α → Nat) {rows sorted : List α}
    (listed : rows.Perm sorted) (places : (sorted.map place).Pairwise (· < ·))
    (agrees : ∀ a ∈ sorted, ∀ b ∈ sorted, le a b = decide (place a ≤ place b)) :
    rows.mergeSort le = sorted := by
  have byPlace : rows.mergeSort le = rows.mergeSort fun a b => place a ≤ place b := by
    have same : (rows.mergeSort le).map id =
        (rows.map id).mergeSort fun a b => place a ≤ place b :=
      List.map_mergeSort fun a member b member' =>
        agrees a (listed.subset member) b (listed.subset member')
    rwa [List.map_id, List.map_id] at same
  have distinct : (sorted.map place).Nodup := places.imp fun less => Nat.ne_of_lt less
  have ordered : sorted.Pairwise fun a b => decide (place a ≤ place b) = true :=
    (List.pairwise_map.mp places).imp fun less => by simpa using Nat.le_of_lt less
  have trans (a b c : α) (ab : decide (place a ≤ place b) = true)
      (bc : decide (place b ≤ place c) = true) : decide (place a ≤ place c) = true := by
    simp only [decide_eq_true_eq] at ab bc ⊢
    exact Nat.le_trans ab bc
  have total (a b : α) : (decide (place a ≤ place b) || decide (place b ≤ place a)) = true := by
    simpa using Nat.le_total (place a) (place b)
  rw [byPlace]
  refine List.Perm.eq_of_pairwise ?_ (List.pairwise_mergeSort trans total rows) ordered
    ((List.mergeSort_perm rows _).trans listed)
  intro a b first last ab ba
  simp only [decide_eq_true_eq] at ab ba
  have among : a ∈ sorted := listed.mem_iff.mp (List.mem_mergeSort.mp first)
  exact List.inj_on_of_nodup_map distinct among last (Nat.le_antisymm ab ba)

theorem byRank_eq_of_perm {ranked sorted : List (Nat × String)} (listed : ranked.Perm sorted)
    (ranks : (sorted.map (·.1)).Pairwise (· < ·)) : byRank ranked = sorted.map (·.2) := by
  have distinct : (sorted.map (·.1)).Nodup := ranks.imp fun less => Nat.ne_of_lt less
  refine congrArg (List.map (·.2)) (mergeSort_eq_of_places (·.1) listed ranks ?_)
  intro a member b member'
  rcases Nat.lt_trichotomy a.1 b.1 with less | same | more
  · simp [less, Nat.le_of_lt less]
  · -- of one rank there is one column, and no name is less than itself
    obtain rfl := List.inj_on_of_nodup_map distinct member member' same
    simp
  · simp [Nat.not_lt_of_gt more, Nat.ne_of_gt more, Nat.not_le_of_gt more]

/-- Columns that are listed with their places in a list come back in the order of that list. -/
theorem byRank_of_zipIdx {ranked : List (Nat × String)} {columns : List String} (first : Nat)
    (listed : ranked.Perm ((columns.zipIdx first).map Prod.swap)) : byRank ranked = columns := by
  have places : ((columns.zipIdx first).map Prod.swap).map (·.1) =
      List.range' first columns.length := by
    rw [List.map_map]
    exact List.zipIdx_map_snd first columns
  rw [byRank_eq_of_perm listed, List.map_map]
  · exact List.zipIdx_map_fst first columns
  · rw [places]
    exact List.pairwise_lt_range'

theorem rankIn_eq_succ_iff {key : List String} (distinct : key.Nodup) :
    rankIn key column = place + 1 ↔ key[place]? = some column := by
  rw [rankIn]
  cases found : key.idxOf? column with
  | none =>
    have outside : column ∉ key := List.idxOf?_eq_none_iff.mp found
    exact iff_of_false nofun fun inside => outside (List.mem_of_getElem? inside)
  | some i =>
    obtain ⟨inside, same, _⟩ := List.idxOf?_eq_some_iff.mp found
    rw [Option.elim_some, Nat.add_right_cancel_iff]
    constructor
    · rintro rfl
      rw [List.getElem?_eq_getElem inside, same]
    · intro there
      obtain ⟨within, same'⟩ := List.getElem?_eq_some_iff.mp there
      exact distinct.getElem_inj_iff.mp (same.trans same'.symm)

/-- A key is read back from the ranks of its columns. -/
theorem primaryKeyOf_eq {rows : List ColumnRow} {key columns : List String}
    (listed : rows.map (fun row => (row.name, row.rank)) =
      columns.map fun column => (column, rankIn key column))
    (distinctColumns : columns.Nodup) (distinctKey : key.Nodup)
    (among : ∀ column ∈ key, column ∈ columns) : primaryKeyOf rows = key := by
  have ranked : (rows.filter (0 < ·.rank)).map (fun row => (row.rank, row.name)) =
      (columns.filter (0 < rankIn key ·)).map fun column => (rankIn key column, column) := by
    have same := congrArg (fun pairs => (pairs.filter (0 < ·.2)).map Prod.swap) listed
    simpa only [List.filter_map, List.map_map, Function.comp_def, Prod.swap_prod_mk] using same
  have places : ((key.zipIdx 1).map Prod.swap).Nodup := by
    refine List.Nodup.map Prod.swap_injective (List.Nodup.of_map Prod.fst ?_)
    rwa [List.zipIdx_map_fst]
  have names : ((columns.filter (0 < rankIn key ·)).map
      fun column => (rankIn key column, column)).Nodup := by
    refine List.Nodup.map (fun a b same => ?_) (distinctColumns.filter _)
    exact congrArg Prod.snd same
  refine byRank_of_zipIdx 1 (ranked ▸ (List.perm_ext_iff_of_nodup names places).mpr ?_)
  rintro ⟨rank, column⟩
  simp only [List.mem_map, List.mem_filter, decide_eq_true_eq, Prod.mk.injEq, Prod.exists,
    Prod.swap_prod_mk, List.mk_mem_zipIdx_iff_le_and_getElem?_sub]
  constructor
  · rintro ⟨_, ⟨_, inside⟩, rfl, rfl⟩
    refine ⟨_, _, ⟨inside, ?_⟩, rfl, rfl⟩
    exact (rankIn_eq_succ_iff distinctKey).mp (Nat.succ_pred_eq_of_pos inside).symm
  · rintro ⟨_, _, ⟨first, there⟩, rfl, rfl⟩
    have rank := (rankIn_eq_succ_iff distinctKey).mpr there
    rw [Nat.sub_add_cancel first] at rank
    refine ⟨_, ⟨among _ (List.mem_of_getElem? there), ?_⟩, rank, rfl⟩
    rw [rank]
    exact first

/-- Of lists that are joined, the elements of one can be told by their label. -/
theorem filter_flatMap_own {xs : List α} (key : α → Nat) {f : α → List β} {label : β → Nat}
    (labels : ∀ x, ∀ y ∈ f x, label y = key x) (distinct : (xs.map key).Nodup) (member : x ∈ xs) :
    (xs.flatMap f).filter (label · == key x) = f x := by
  obtain ⟨before, after, rfl, left, right⟩ := split_at distinct member
  have others {ys : List α} (differ : ∀ y ∈ ys, key y ≠ key x) :
      (ys.flatMap f).filter (label · == key x) = [] := by
    refine List.filter_eq_nil_iff.mpr fun b among => ?_
    obtain ⟨y, member, own⟩ := List.mem_flatMap.mp among
    simpa [labels y b own] using differ y member
  have own : (f x).filter (label · == key x) = f x :=
    List.filter_eq_self.mpr fun b among => by simpa using labels x b among
  rw [List.flatMap_append, List.flatMap_cons, List.filter_append, List.filter_append, others left,
    others right, own, List.nil_append, List.append_nil]

section
variable (number : Nat) {key : Sql.ForeignKey}

theorem ForeignKeyRow.places_declared :
    (ForeignKeyRow.declared number key).map (·.position) =
      List.range' 0 (key.columns.zip key.references).length := by
  rw [declared, List.map_map]
  exact List.zipIdx_map_snd 0 _

theorem ForeignKeyRow.sources_declared (paired : key.columns.length = key.references.length) :
    (ForeignKeyRow.declared number key).map (·.source) = key.columns := by
  have sources : (ForeignKeyRow.declared number key).map (·.source) =
      ((key.columns.zip key.references).zipIdx.map (·.1)).map (·.1) := by
    rw [declared, List.map_map, List.map_map]
    rfl
  rw [sources, List.zipIdx_map_fst, List.map_fst_zip (Nat.le_of_eq paired)]

theorem ForeignKeyRow.targets_declared (paired : key.columns.length = key.references.length) :
    (ForeignKeyRow.declared number key).map (·.target) = key.references.map some := by
  have targets : (ForeignKeyRow.declared number key).map (·.target) =
      (((key.columns.zip key.references).zipIdx.map (·.1)).map (·.2)).map some := by
    rw [declared, List.map_map, List.map_map, List.map_map]
    rfl
  rw [targets, List.zipIdx_map_fst, List.map_snd_zip (Nat.le_of_eq paired.symm)]

variable {number} in
theorem ForeignKeyRow.of_mem_declared (member : row ∈ ForeignKeyRow.declared number key) :
    row.id = number ∧ row.table = key.table := by
  obtain ⟨_, _, rfl⟩ := List.mem_map.mp member
  exact ⟨rfl, rfl⟩

theorem ForeignKeyRow.exists_mem_declared (paired : key.columns.length = key.references.length)
    (owns : key.columns ≠ []) : ∃ row, row ∈ ForeignKeyRow.declared number key := by
  refine List.exists_mem_of_ne_nil _ fun none => owns ?_
  rw [← sources_declared number paired, none]
  rfl

variable {number} in
/-- The rows of a foreign key, in any order, are read as that key. -/
theorem Catalog.readForeignKey_eq (c : Catalog) {rows : List ForeignKeyRow}
    (listed : rows.Perm (ForeignKeyRow.declared number key))
    (paired : key.columns.length = key.references.length) (owns : key.columns ≠ []) :
    c.readForeignKey rows = ⟨none, key.columns, key.table, key.references⟩ := by
  have parts : rows.mergeSort (fun a b => a.position ≤ b.position) =
      ForeignKeyRow.declared number key := by
    refine mergeSort_eq_of_places (·.position) listed ?_ fun _ _ _ _ => rfl
    rw [ForeignKeyRow.places_declared]
    exact List.pairwise_lt_range'
  have sources : (ForeignKeyRow.declared number key).map (·.source) = key.columns :=
    ForeignKeyRow.sources_declared number paired
  have targets : (ForeignKeyRow.declared number key).mapM ForeignKeyRow.target =
      some key.references := mapM_some_iff.mpr (ForeignKeyRow.targets_declared number paired)
  have table : ((ForeignKeyRow.declared number key).head?.map (·.table)).getD "" = key.table := by
    obtain ⟨row, member⟩ := ForeignKeyRow.exists_mem_declared number paired owns
    obtain ⟨first, rest, split⟩ := List.exists_cons_of_ne_nil (List.ne_nil_of_mem member)
    rw [split]
    exact (ForeignKeyRow.of_mem_declared (split ▸ List.mem_cons_self)).2
  rw [readForeignKey]
  simp only [parts, sources, targets, table, Option.getD_some]

end

namespace Catalog.Lists

variable {c : Catalog} {table : Sql.Table} {made : List Sql.Index}

theorem primaryKey_eq (lists : c.Lists table made)
    (distinctColumns : (table.columns.map (·.name)).Nodup) (distinctKey : table.primaryKey.Nodup)
    (among : ∀ column ∈ table.primaryKey, column ∈ table.columns.map (·.name)) :
    (c.readTable table.name).primaryKey = table.primaryKey := by
  refine primaryKeyOf_eq ?_ distinctColumns distinctKey among
  have same := congrArg (List.map fun row => (row.1, row.2.2)) lists.columns
  simpa only [List.map_map, Function.comp_def] using same

theorem typeOf?_eq (lists : c.Lists table made)
    (distinctColumns : (table.columns.map (·.name)).Nodup) (member : column ∈ table.columns) :
    (c.readTable table.name).typeOf? column.name =
      some (Dialect.sqlite.canonicalType column.type) := by
  have listed : (c.columns table.name).map (fun row => (row.name, row.type)) =
      table.columns.map fun column => (column.name, id column.type) := by
    have same := congrArg (List.map fun row => (row.1, row.2.1)) lists.columns
    simpa only [List.map_map, Function.comp_def, id_eq] using same
  have read : (c.readTable table.name).typeOf? column.name =
      (((c.columns table.name).find? (·.name == column.name)).map (·.type)).map
        Dialect.sqlite.canonicalType := by
    simp only [Live.Table.typeOf?, Live.Table.column?, readTable, List.find?_map, Option.map_map]
    rfl
  have own := find?_listed listed distinctColumns member
  rw [read, own]
  rfl

/-- An index has its columns in the order in which they were declared. -/
theorem readIndex_eq (lists : c.Lists table made) (member : i ∈ made) :
    c.readIndex (.declared i) = .written i := by
  have entries := (lists.entries i member).filterMap fun entry =>
    entry.name.map (entry.position, ·)
  have columns : byRank ((c.indexEntries i.name).filterMap fun entry =>
      entry.name.map (entry.position, ·)) = i.columns := by
    refine byRank_of_zipIdx 0 (entries.trans (List.Perm.of_eq ?_))
    rw [IndexEntryRow.declared, List.filterMap_map, ← List.filterMap_eq_map]
    rfl
  rw [readIndex]
  simp only [IndexRow.declared, columns, Live.Index.written]

theorem index?_eq (lists : c.Lists table made) (distinct : (made.map (·.name)).Nodup)
    (member : i ∈ made) : (c.readTable table.name).index? i.name = some (.written i) := by
  obtain ⟨automatic, others, listed⟩ := lists.indexes
  have own : (c.indexes table.name).find? (·.name == i.name) = some (.declared i) := by
    refine find?_unique ?_ (by simp [IndexRow.declared]) fun row among named => ?_
    · exact listed.mem_iff.mpr (List.mem_append_right _ (List.mem_map_of_mem member))
    · have named : row.name = i.name := by simpa using named
      rcases List.mem_append.mp (listed.mem_iff.mp among) with automatic | declared
      · exact absurd named (others row automatic i member)
      · obtain ⟨j, made, rfl⟩ := List.mem_map.mp declared
        rw [List.inj_on_of_nodup_map distinct made member named]
  calc (c.readTable table.name).index? i.name
      = ((c.indexes table.name).find? (·.name == i.name)).map c.readIndex := List.find?_map ..
    _ = some (.written i) := by rw [own, Option.map_some, lists.readIndex_eq member]

/-- A declared foreign key is among those that are read. -/
theorem mem_foreignKeys (lists : c.Lists table made) (member : key ∈ table.foreignKeys)
    (paired : key.columns.length = key.references.length) (owns : key.columns ≠ []) :
    ⟨none, key.columns, key.table, key.references⟩ ∈ (c.readTable table.name).foreignKeys := by
  obtain ⟨numbers, distinct, length, listed⟩ := lists.foreignKeys
  obtain ⟨number, numbered⟩ : ∃ number, (number, key) ∈ numbers.zip table.foreignKeys := by
    have second : key ∈ (numbers.zip table.foreignKeys).map (·.2) := by
      rwa [List.map_snd_zip (Nat.le_of_eq length.symm)]
    obtain ⟨⟨number, _⟩, among, rfl⟩ := List.mem_map.mp second
    exact ⟨number, among⟩
  have distinct : ((numbers.zip table.foreignKeys).map (·.1)).Nodup := by
    rwa [List.map_fst_zip (Nat.le_of_eq length)]
  have own := listed.filter (·.id == number)
  rw [filter_flatMap_own (·.1) (fun pair row among => (ForeignKeyRow.of_mem_declared among).1)
    distinct numbered] at own
  rw [← c.readForeignKey_eq own paired owns]
  have listedNumber : number ∈ (c.foreignKeys table.name).map (·.id) := by
    obtain ⟨row, among⟩ := ForeignKeyRow.exists_mem_declared number paired owns
    have kept := List.mem_filter.mp (own.mem_iff.mpr among)
    exact List.mem_map.mpr ⟨row, kept.1, by simpa using kept.2⟩
  refine List.mem_map.mpr ⟨number, ?_, rfl⟩
  rwa [List.mem_mergeSort, List.mem_eraseDups]

end Catalog.Lists

end Conform.Sqlite
