import Conform.Proofs.Dialect.Settled
import Conform.Proofs.Postgres.Effect
import Conform.Proofs.Sql.Told

/-! Names are data. Whatever they are, a dialect's statements are read as having just these names
and the same words around them, and statements are the same only if the names are. -/
namespace Conform

/-- Lists are told by what is said of their members, if each member is. -/
theorem eq_of_map_eq {f : α → β} {xs ys : List α} (told : ∀ x ∈ xs, ∀ y ∈ ys, f x = f y → x = y)
    (same : xs.map f = ys.map f) : xs = ys := by
  induction xs generalizing ys with
  | nil => exact (List.map_eq_nil_iff.mp same.symm).symm
  | cons x xs ih =>
    cases ys with
    | nil => cases same
    | cons y ys =>
      obtain ⟨here, later⟩ := List.cons.inj same
      rw [told x List.mem_cons_self y List.mem_cons_self here]
      rw [ih (fun x among y among' =>
        told x (List.mem_cons_of_mem _ among) y (List.mem_cons_of_mem _ among')) later]

namespace Operation

/-- The types that the operation gives to columns. -/
def types : Operation → List String
  | createTable table _ => table.columns.map (·.type)
  | addColumn _ column => [column.type]
  | alterColumnType _ _ _ newType => [newType]
  | _ => []

/-- The names in each statement of the operation, as they follow one another. -/
def names : Operation → List (List String)
  | createTable table _ => [table.names]
  | dropTable name _ | dropIndex name _ => [[name]]
  | addColumn table column => [[table, column.name]]
  | alterColumnType table column _ _ => [[table, column, column]]
  | createIndex index => [index.names]
  | setPrimaryKey table columns replaces =>
    (replaces.map ([table, ·])).toList ++ if columns.isEmpty then [] else [table :: columns]
  | addForeignKey table key => [table :: key.names]

/-- The operation without its names. Its kind is left and the lengths of its lists, the types that
it gives, its flags and its actions. -/
def outline : Operation → Operation
  | createTable table ifNotExists => .createTable table.outline ifNotExists
  | dropTable _ ifExists => .dropTable "" ifExists
  | addColumn _ column => .addColumn "" column.outline
  | alterColumnType _ _ _ newType => .alterColumnType "" "" "" newType
  | createIndex index => .createIndex index.outline
  | dropIndex _ ifExists => .dropIndex "" ifExists
  | setPrimaryKey _ columns replaces =>
    .setPrimaryKey "" (Sql.unnamed columns) (replaces.map fun _ => "")
  | addForeignKey _ key => .addForeignKey "" key.outline

/-- The operation without the type that a column had, which no statement tells. -/
def told : Operation → Operation
  | alterColumnType table column _ newType => .alterColumnType table column "" newType
  | o => o

/-- Operations of one kind. -/
def Alike (o other : Operation) : Prop := o.ctorIdx = other.ctorIdx

/-- The statements of an operation, where they are not comments. -/
def statements (cascade : Bool) : Operation → List Sql.Statement
  | createTable table ifNotExists => [.createTable table ifNotExists]
  | dropTable name ifExists => [.dropTable name ifExists cascade]
  | addColumn table column => [.addColumn table column]
  | alterColumnType table column _ newType => [.alterColumnType table column newType]
  | createIndex index => [.createIndex index]
  | dropIndex name ifExists => [.dropIndex name ifExists]
  | setPrimaryKey table columns replaces =>
    (replaces.map (.dropConstraint table)).toList ++
      if columns.isEmpty then [] else [.addPrimaryKey table columns]
  | addForeignKey table key => [.addForeignKey table key]

theorem types_of_statements (rendered : s ∈ statements cascade o) :
    s.isComposed = true ∧ ∀ type ∈ s.types, type ∈ o.types := by
  cases o with
  | setPrimaryKey table columns replaces =>
    rcases Postgres.mem_render_setPrimaryKey rendered with ⟨name, rfl⟩ | rfl
    · exact ⟨rfl, nofun⟩
    · exact ⟨rfl, nofun⟩
  | _ =>
    obtain rfl := List.mem_singleton.mp rendered
    exact ⟨rfl, fun _ among => among⟩

theorem namesOf_statements (cascade : Bool) (o : Operation) :
    (o.statements cascade).map (Sql.namesOf ·.lexemes) = o.names := by
  cases o with
  | createTable table ifNotExists => exact congrArg (fun names => [names]) (table.namesOf_lexemes _)
  | createIndex index => exact congrArg (fun names => [names]) index.namesOf_lexemes
  | setPrimaryKey table columns replaces =>
    have dropped (name : String) :
        Sql.namesOf (Sql.Statement.dropConstraint table name).lexemes = [table, name] := by
      simp [Sql.Statement.lexemes]
    have added : Sql.namesOf (Sql.Statement.addPrimaryKey table columns).lexemes =
        table :: columns := by
      simp [Sql.Statement.lexemes]
    rw [statements, names, List.map_append]
    congr 1
    · cases replaces with
      | none => rfl
      | some name => exact congrArg (fun names => [names]) (dropped name)
    · split
      · rfl
      · exact congrArg (fun names => [names]) added
  | dropTable | dropIndex | addColumn | alterColumnType | addForeignKey =>
    simp [statements, names, Sql.Statement.lexemes, Sql.Column.namesOf_lexemes,
      Sql.ForeignKey.namesOf_lexemes]

theorem statements_outline (cascade : Bool) (o : Operation) :
    (o.outline.statements cascade).map (·.lexemes) =
      (o.statements cascade).map (·.lexemes.map (·.outline)) := by
  cases o with
  | createTable table ifNotExists =>
    exact congrArg (fun ls => [ls]) (table.lexemes_outline ifNotExists)
  | createIndex index => exact congrArg (fun ls => [ls]) index.lexemes_outline
  | setPrimaryKey table columns replaces =>
    have listed : (Sql.unnamed columns).isEmpty = columns.isEmpty := List.isEmpty_map
    rw [statements, outline, statements, listed, List.map_append, List.map_append]
    congr 1
    · cases replaces with
      | none => rfl
      | some name => simp [Sql.Statement.lexemes]
    · split
      · rfl
      · simp [Sql.Statement.lexemes]
  | dropTable | dropIndex | addColumn | alterColumnType | addForeignKey =>
    simp [statements, outline, Sql.Statement.lexemes, Sql.Column.lexemes_outline,
      Sql.ForeignKey.lexemes_outline]

theorem types_outline (o : Operation) : o.outline.types = o.types := by
  cases o with
  | createTable table ifNotExists => simp [outline, types, Sql.Table.outline, Sql.Column.outline]
  | _ => rfl

theorem alike_outline (o : Operation) : o.Alike o.outline := by
  cases o <;> rfl

/-- Operations of one kind are told by their statements, if they have any. -/
theorem Alike.told_of_statements {o other : Operation} (alike : o.Alike other)
    (some : o.statements cascade ≠ [])
    (same : o.statements cascade = other.statements cascade) : o.told = other.told := by
  cases o with
  | setPrimaryKey table columns replaces =>
    cases other with
    | setPrimaryKey table' columns' replaces' =>
      -- the key is dropped, added, both or neither, and each by a statement of its own
      cases replaces <;> cases replaces' <;> cases columns <;> cases columns' <;>
        simp_all [statements]
    | _ => cases alike
  | _ =>
    cases other <;> cases alike
    simp_all [statements, told]

end Operation

namespace Dialect

/-- The types that the operation gives to columns are the dialect's own for some fields. -/
def Types (d : Dialect) (o : Operation) : Prop :=
  ∀ type ∈ o.types, ∃ field, d.columnType field = .ok type

/-- Names stay data in the statements of an operation. -/
structure Quotes (d : Dialect) (o : Operation) : Prop where
  /-- The names that are read are those of the operation. -/
  names : (d.render o).map (·.read.map Sql.namesOf) = o.names.map some
  /-- What is read around them is what is read when all of them are empty. -/
  between : (d.render o).map (·.read.map Sql.textsBetween) =
    (d.render o.outline).map (·.read.map Sql.textsBetween)
  /-- Another operation of the kind is rendered as this one is only if it is the same, unless
  there is nothing to render. -/
  told : ∀ other, o.Alike other → d.Types other → d.render o ≠ [] →
    (d.render o).map (·.sql) = (d.render other).map (·.sql) → o.told = other.told

section known
variable {d : Dialect} (known : d = .sqlite ∨ d = .postgres)
include known

theorem isWord_of_columnType (typed : d.columnType field = .ok type) : Sql.IsWord type := by
  have sqlite : ∀ type ∈ sqliteTypes.map (·.2), type.toList.all Char.isUpper = true := by
    decide +kernel
  have postgres : ∀ type ∈ postgresTypes.map (·.2), type.toList.all Char.isUpper = true := by
    decide +kernel
  apply List.all_eq_true.mp
  rcases known with rfl | rfl
  · exact sqlite type (sqlite_columnType typed)
  · exact postgres type (postgres_columnType typed)

theorem isWord_of_statements (types : d.Types o) (rendered : s ∈ o.statements cascade) :
    ∀ type ∈ s.types, Sql.IsWord type := by
  intro type typed
  obtain ⟨_, among⟩ := Operation.types_of_statements rendered
  obtain ⟨field, columnType⟩ := types type (among type typed)
  exact isWord_of_columnType known columnType

/-- What is no comment is rendered alike by both dialects, but that one of them cascades. -/
theorem render_of_executed (executed : ∀ s ∈ d.render o, s.isComment = false) :
    ∃ cascade, ∀ other, o.Alike other → d.render other = other.statements cascade := by
  rcases known with rfl | rfl
  · refine ⟨false, fun other alike => ?_⟩
    cases o with
    | alterColumnType | setPrimaryKey | addForeignKey =>
      cases executed _ List.mem_cons_self
    | _ => cases other <;> first | rfl | cases alike
  · exact ⟨true, fun other _ => by cases other <;> rfl⟩

/-- The statements of a typed operation are read as they were made. -/
theorem read_of_statements (types : d.Types o) (rendered : s ∈ o.statements cascade) :
    s.read = some s.lexemes :=
  Sql.Statement.read_eq (Operation.types_of_statements rendered).1 fun type typed =>
    (isWord_of_statements known types rendered type typed).unquoted

theorem map_read_statements (types : d.Types o) (cascade : Bool) (f : List Sql.Lexeme → α) :
    (o.statements cascade).map (·.read.map f) =
      (o.statements cascade).map (fun s => some (f s.lexemes)) := by
  apply List.map_congr_left
  intro s rendered
  rw [read_of_statements known types rendered]
  rfl

theorem isTold_of_statements (types : d.Types o) (rendered : s ∈ o.statements cascade) : s.IsTold :=
  Sql.Statement.isTold (Operation.types_of_statements rendered).1
    (isWord_of_statements known types rendered)

end known

/-- No name breaks out of its quotes, in any operation that a dialect renders and can execute. -/
theorem names_stay_quoted {d : Dialect} {o : Operation} (known : d = .sqlite ∨ d = .postgres)
    (types : d.Types o) (executed : ∀ s ∈ d.render o, s.isComment = false) : d.Quotes o := by
  obtain ⟨cascade, render⟩ := render_of_executed known executed
  have own : d.render o = o.statements cascade := render o rfl
  have outline : d.render o.outline = o.outline.statements cascade := render _ o.alike_outline
  have outlineTypes : d.Types o.outline := by
    rw [Types, o.types_outline]
    exact types
  constructor
  case names =>
    rw [own, map_read_statements known types, ← o.namesOf_statements cascade, List.map_map]
    rfl
  case between =>
    rw [own, outline, map_read_statements known types, map_read_statements known outlineTypes]
    have read := congrArg (List.map fun ls => some (Sql.textsBetween ls))
      (o.statements_outline cascade)
    simp only [List.map_map, Function.comp_def, Sql.textsBetween_outline] at read
    exact read.symm
  case told =>
    intro other alike types' some same
    rw [render other alike, own] at same
    rw [own] at some
    apply alike.told_of_statements some
    exact eq_of_map_eq (fun s rendered s' rendered' =>
      (isTold_of_statements known types rendered).eq_of_sql
        (isTold_of_statements known types' rendered')) same

/-- A table with names that would break out, were they not quoted. -/
private def defiant : Operation :=
  .createTable
    { name := "a\" (\"b\" TEXT); --", columns := [⟨"", "INTEGER"⟩, ⟨"x\", \"y", "TEXT"⟩],
      primaryKey := ["", "x\", \"y"],
      foreignKeys := [{
        name := "\n)", columns := [""], table := ",\n  PRIMARY KEY (", references := ["\"\""],
        onDelete := some .noAction }] }
    true

theorem defiant_stays_quoted : sqlite.Types defiant ∧
    (∀ s ∈ sqlite.render defiant, s.isComment = false) ∧ sqlite.Quotes defiant := by
  have types : sqlite.Types defiant := by
    have fields : ∀ type ∈ defiant.types, ∃ name ∈ ["Int", "String"],
        sqlite.columnType { name := "f", type := name } = .ok type := by decide +kernel
    intro type among
    obtain ⟨name, _, columnType⟩ := fields type among
    exact ⟨_, columnType⟩
  have executed : ∀ s ∈ sqlite.render defiant, s.isComment = false := by decide
  exact ⟨types, executed, names_stay_quoted (.inl rfl) types executed⟩

end Dialect

end Conform
