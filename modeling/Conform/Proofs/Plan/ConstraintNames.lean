import Conform.Proofs.Postgres.Effect
import Conform.Proofs.Schema.Accepted

/-! When a foreign key is added under a name that is taken. A live foreign key is found by its
columns and its target, but a new one is named by the table and the field, and none is dropped. -/
namespace Conform

/-- The foreign key that an operation adds, as the table has it then. -/
def Operation.addedKey? : Operation → Option Live.ForeignKey
  | addForeignKey _ key => some (.written key)
  | _ => none

/-- A foreign key of the table has the name. -/
def Live.Table.NamesKey (live : Live.Table) (name : String) : Prop :=
  ∃ key ∈ live.foreignKeys, key.name = some name

/-- A foreign key is added under the name when another one of the table has it. -/
def Plan.Reuses (p : Plan) (live : Live.Table) (name : String) : Prop :=
  ∃ before table key after, p = .alter (before ++ .addForeignKey table key :: after) ∧
    key.name = name ∧ (Operation.alters live before).NamesKey name

namespace Operation

theorem foreignKeys_alter (live : Live.Table) (operation : Operation) :
    (alter live operation).foreignKeys = live.foreignKeys ++ operation.addedKey?.toList := by
  cases operation <;> simp [alter, addedKey?]

/-- The foreign keys that are added come after those that were there. -/
theorem foreignKeys_alters (live : Live.Table) (operations : List Operation) :
    (alters live operations).foreignKeys =
      live.foreignKeys ++ operations.filterMap (·.addedKey?) := by
  induction operations generalizing live with
  | nil => simp [alters]
  | cons operation rest ih =>
    have step : alters live (operation :: rest) = alters (alter live operation) rest := rfl
    rw [step, ih, foreignKeys_alter, List.append_assoc]
    cases added : operation.addedKey? <;> simp [added]

theorem addedKeys_of_spared {operations : List Operation}
    (spared : Part.foreignKeys.Spared operations) :
    operations.filterMap (·.addedKey?) = [] := by
  apply List.filterMap_eq_nil_iff.mpr
  intro operation among
  cases operation with
  | addForeignKey => exact absurd rfl (spared _ among)
  | _ => rfl

end Operation

/-- What is collected from a list keeps its order, and so do the names of what is collected. -/
theorem names_filterMap_sublist {xs : List α} {collect : α → Option β} {key : β → γ} {name : α → γ}
    (named : ∀ x ∈ xs, ∀ y, collect x = some y → key y = name x) :
    ((xs.filterMap collect).map key).Sublist (xs.map name) := by
  induction xs with
  | nil => simp
  | cons x rest ih =>
    obtain ⟨own, others⟩ := List.forall_mem_cons.mp named
    cases found : collect x with
    | none =>
      rw [List.filterMap_cons_none found]
      exact (ih others).cons _
    | some y =>
      rw [List.filterMap_cons_some found, List.map_cons, own y found]
      exact (ih others).cons_cons _

namespace Schema

variable {m : Model} {t : Table}

theorem Field.IsNormal.field_of_foreignKey? {f : Field} (normal : f.IsNormal m)
    (brought : f.foreignKey? = some r) : r.field = f.name := by
  unfold Field.foreignKey? at brought
  split at brought
  · have present := (Option.filter_eq_some_iff.mp brought).1
    exact (normal.related r present).1
  · cases brought

/-- The foreign keys of a table are named apart when its fields are. -/
theorem Table.IsNormal.nodup_foreignKeyNames (normal : t.IsNormal m)
    (distinct : (t.fields.map (·.name)).Nodup) : (t.foreignKeys.map t.foreignKeyName).Nodup := by
  have fields : (t.foreignKeys.map (·.field)).Sublist (t.fields.map (·.name)) := by
    apply names_filterMap_sublist
    intro f member r brought
    exact (normal.fields f member).field_of_foreignKey? brought
  have apart : Function.Injective fun field => "fk_" ++ t.name ++ "_" ++ field := by
    intro first second same
    have letters := congrArg String.toList same
    simp only [String.toList_append, List.append_cancel_left_eq] at letters
    exact String.toList_inj.mp letters
  have names := (fields.nodup distinct).map apart
  rw [List.map_map] at names
  exact names

end Schema

/-- Where keys are added under different names, one finds its name taken only by a key that was
there at first. -/
theorem Operation.namesKey_of_before {live : Live.Table} {before after : List Operation}
    (apart : (((before ++ addForeignKey table key :: after).filterMap (·.addedKey?)).map
      (·.name)).Nodup)
    (taken : (alters live before).NamesKey key.name) : live.NamesKey key.name := by
  obtain ⟨held, among, named⟩ := taken
  rw [foreignKeys_alters] at among
  rcases List.mem_append.mp among with old | new
  · exact ⟨held, old, named⟩
  · -- a key that was added before has another name
    rw [List.filterMap_append, List.map_append, List.nodup_append] at apart
    have own : some key.name ∈
        ((addForeignKey table key :: after).filterMap (·.addedKey?)).map (·.name) := by
      simp [addedKey?, Live.ForeignKey.written]
    exact absurd named (apart.2.2 held.name (List.mem_map_of_mem new) _ own)

/-- A key that was there at first keeps its name. -/
theorem Operation.namesKey_alters {live : Live.Table} (operations : List Operation)
    (taken : live.NamesKey name) : (alters live operations).NamesKey name := by
  obtain ⟨held, among, named⟩ := taken
  refine ⟨held, ?_, named⟩
  rw [foreignKeys_alters]
  exact List.mem_append_left _ among

/-- In PostgreSQL foreign keys are added after all else is done. -/
theorem Postgres.operations_split (t : Schema.Table) (live : Live.Table)
    (columns : List Sql.Column) : ∃ others, Part.foreignKeys.Spared others ∧
    Dialect.postgres.operations t live columns =
      others ++ (t.foreignKeys.filter (!live.hasForeignKey ·)).map fun r =>
        .addForeignKey t.name (t.foreignKeyDefinition r) := by
  obtain ⟨others, spared, whole⟩ := operations_eq_append .postgres t columns live
  rw [foreignKeyOperations_eq] at whole
  exact ⟨others, spared, whole⟩

section
variable {t : Schema.Table} {m : Schema.Model} (live : Live.Table) (columns : List Sql.Column)

theorem mem_operations_addForeignKey :
    .addForeignKey table key ∈ Dialect.postgres.operations t live columns ↔ table = t.name ∧
      ∃ r ∈ t.foreignKeys, live.hasForeignKey r = false ∧ t.foreignKeyDefinition r = key := by
  obtain ⟨others, spared, whole⟩ := Postgres.operations_split t live columns
  have elsewhere : .addForeignKey table key ∉ others := fun among => spared _ among rfl
  rw [whole, List.mem_append, List.mem_map]
  constructor
  · intro among
    obtain ⟨r, kept, same⟩ := among.resolve_left elsewhere
    obtain ⟨declared, missing⟩ := List.mem_filter.mp kept
    cases same
    exact ⟨rfl, r, declared, by simpa using missing, rfl⟩
  · intro ⟨own, r, declared, missing, same⟩
    refine .inr ⟨r, List.mem_filter.mpr ⟨declared, by simp [missing]⟩, ?_⟩
    rw [own, same]

/-- The keys that are added to a table of different fields have different names. -/
theorem nodup_addedNames (normal : t.IsNormal m) (distinct : (t.fields.map (·.name)).Nodup) :
    (((Dialect.postgres.operations t live columns).filterMap (·.addedKey?)).map
      (·.name)).Nodup := by
  obtain ⟨others, spared, whole⟩ := Postgres.operations_split t live columns
  have names : ((Dialect.postgres.operations t live columns).filterMap (·.addedKey?)).map (·.name) =
      ((t.foreignKeys.filter (!live.hasForeignKey ·)).map t.foreignKeyName).map some := by
    rw [whole, List.filterMap_append, Operation.addedKeys_of_spared spared]
    simp [List.filterMap_map, Function.comp_def, Operation.addedKey?, Live.ForeignKey.written,
      Schema.Table.foreignKeyDefinition]
  have declared := normal.nodup_foreignKeyNames distinct
  rw [names]
  apply List.Nodup.map
  · exact fun _ _ => Option.some.inj
  · exact (List.filter_sublist.map t.foreignKeyName).nodup declared

end

/-- A foreign key of PostgreSQL is added under a name that is taken exactly when a live foreign key
has the name of a declared one that no live key stands for. -/
theorem reuses_name_iff {tables : List Schema.Table} {enums : List Schema.Enumeration}
    {m : Schema.Model} {t : Schema.Table} {live : Live.Table}
    (accepted : Schema.normalize tables enums = .ok m) (member : t ∈ m.tables)
    (distinct : (t.fields.map (·.name)).Nodup)
    (plan : Dialect.postgres.plan t (some live) = .ok p) (name : String) :
    p.Reuses live name ↔ live.NamesKey name ∧
      ∃ r ∈ t.foreignKeys, t.foreignKeyName r = name ∧ live.hasForeignKey r = false := by
  have normal := Schema.Table.isNormal_of_normalize accepted member
  obtain ⟨columns, ⟨absent, _⟩ | ⟨_, ⟨⟩, rfl⟩⟩ := Postgres.plan_cases plan
  · cases absent
  constructor
  · intro ⟨before, table, key, after, whole, named, taken⟩
    have operations := Plan.alter.inj whole
    have apart := nodup_addedNames live columns normal distinct
    have among : .addForeignKey table key ∈ Dialect.postgres.operations t live columns := by
      rw [operations]
      exact List.mem_append_right _ List.mem_cons_self
    obtain ⟨_, r, declared, missing, rfl⟩ := (mem_operations_addForeignKey live columns).mp among
    rw [operations] at apart
    subst named
    exact ⟨Operation.namesKey_of_before apart taken, r, declared, rfl, missing⟩
  · intro ⟨taken, r, declared, named, missing⟩
    have among := (mem_operations_addForeignKey live columns).mpr ⟨rfl, r, declared, missing, rfl⟩
    obtain ⟨before, after, whole⟩ := List.append_of_mem among
    refine ⟨before, t.name, t.foreignKeyDefinition r, after, by rw [whole], named, ?_⟩
    exact Operation.namesKey_alters before taken

/-- The author of a post is kept in another column than before. -/
private def posts : Schema.Table where
  name := "Post"
  fields := [
    { name := "writerId", type := "Int" },
    { name := "author", type := "User", isRelation := true,
      relation := some {
        field := "author"
        referencedTable := "User"
        fields := ["writerId"]
        references := ["id"] } }]

private def users : Schema.Table where
  name := "User"
  fields := [{ name := "id", type := "Int", isId := true }]
  idFields := ["id"]

private def oldPosts : Live.Table where
  name := "Post"
  columns := [{ name := "authorId", type := "integer" }]
  foreignKeys := [{
    name := some "fk_Post_author"
    columns := ["authorId"]
    table := "User"
    references := ["id"] }]

private def movedAuthor : Sql.ForeignKey where
  name := "fk_Post_author"
  columns := ["writerId"]
  table := "User"
  references := ["id"]

private def moving : Plan :=
  .alter [.addColumn "Post" ⟨"writerId", "INTEGER"⟩, .addForeignKey "Post" movedAuthor]

private theorem moving_planned : Dialect.postgres.plan posts (some oldPosts) = .ok moving := by
  decide +kernel

/-- The new key of the posts has the name of the old one, which is still there. -/
theorem moved_author_reuses_name :
    Schema.normalize [posts, users] [] = .ok { tables := [posts, users] } ∧
      (posts.fields.map (·.name)).Nodup ∧
      Dialect.postgres.plan posts (some oldPosts) = .ok moving ∧
      moving.Reuses oldPosts "fk_Post_author" := by
  refine ⟨rfl, by simp [posts], moving_planned, ?_⟩
  refine ⟨[.addColumn "Post" ⟨"writerId", "INTEGER"⟩], "Post", movedAuthor, [], rfl, rfl, ?_⟩
  exact ⟨_, List.mem_singleton_self _, rfl⟩

/-- The key of the posts is one that no live key stands for. -/
theorem moved_author_unmatched : moving.Reuses oldPosts "fk_Post_author" ↔
    oldPosts.NamesKey "fk_Post_author" ∧ ∃ r ∈ posts.foreignKeys,
      posts.foreignKeyName r = "fk_Post_author" ∧ oldPosts.hasForeignKey r = false := by
  have accepted : Schema.normalize [posts, users] [] = .ok { tables := [posts, users] } := rfl
  have distinct : (posts.fields.map (·.name)).Nodup := by simp [posts]
  exact reuses_name_iff accepted List.mem_cons_self distinct moving_planned "fk_Post_author"

end Conform
