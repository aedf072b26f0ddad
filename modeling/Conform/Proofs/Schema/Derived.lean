import Conform.Proofs.Schema.Document
import Conform.Proofs.Schema.Normal

/-! What a declaration has no say in. Whether a field is a relation, which field a relation belongs
to and which table it references follow from the types and the names of fields. Whatever is declared
of them is overwritten or dropped before anything is made of it. -/
namespace Conform.Schema

/-- The relation without its field and its table, which classification finds for itself. -/
def Relation.stated (r : Relation) : Relation := { r with field := "", referencedTable := "" }

/-- The field without what classification finds for itself. -/
def Field.stated (f : Field) : Field :=
  { f with isRelation := false, relation := f.relation.map (·.stated) }

def Table.stated (t : Table) : Table := { t with fields := t.fields.map (·.stated) }

/-- A field without a relation counts as one with an empty relation, which states nothing. -/
theorem Relation.getD_stated (declared : Option Relation) :
    (declared.map (·.stated)).getD {} = (declared.getD {}).stated := by
  cases declared <;> rfl

theorem Relation.any_ownsForeignKey_stated (declared : Option Relation) :
    (declared.map (·.stated)).any (·.ownsForeignKey) = declared.any (·.ownsForeignKey) := by
  cases declared <;> rfl

/-- Classification reads of a field only what is stated. -/
theorem Field.classify_stated (f : Field) :
    f.stated.classify models enums table = f.classify models enums table := by
  unfold classify
  simp only [stated, Relation.getD_stated, Relation.any_ownsForeignKey_stated]
  -- the field and the table of the relation are set anew in the one branch that keeps a relation
  rfl

theorem Table.classify_stated (t : Table) :
    t.stated.classify models enums = t.classify models enums := by
  have fields : (t.fields.map (·.stated)).mapM (·.classify models enums t.name) =
      t.fields.mapM (·.classify models enums t.name) := by
    rw [List.mapM_map]
    exact congrArg (t.fields.mapM ·) (funext fun f => f.classify_stated)
  rw [classify, classify]
  simp only [stated, fields]

/-- The normal form of a schema is that of what it states. -/
theorem normalize_stated (tables : List Table) (enums : List Enumeration) :
    normalize (tables.map (·.stated)) enums = normalize tables enums := by
  have names : (tables.map (·.stated)).map (·.name) = tables.map (·.name) := by
    rw [List.map_map]
    rfl
  have classified (models enums : List String) :
      (tables.map (·.stated)).mapM (·.classify models enums) =
        tables.mapM (·.classify models enums) := by
    rw [List.mapM_map]
    exact congrArg (tables.mapM ·) (funext fun t => t.classify_stated)
  rw [normalize, normalize]
  simp only [names, classified]

/-- Declarations that state the same have one normal form or one fault, whatever else they claim,
and so have the documents that hold them. -/
theorem normalize_unforged {tables forged : List Table}
    (same : forged.map (·.stated) = tables.map (·.stated)) :
    (∀ enums, normalize forged enums = normalize tables enums) ∧
      ∀ document forgery enums, readTables? document = some tables →
        readTables? forgery = some forged →
          Model.ofDocuments forgery enums = Model.ofDocuments document enums := by
  have normal (enums : List Enumeration) : normalize forged enums = normalize tables enums := by
    rw [← normalize_stated forged, same, normalize_stated]
  refine ⟨normal, fun document forgery enums read readForgery => ?_⟩
  rw [Model.ofDocuments, Model.ofDocuments, readDocuments, readDocuments, read, readForgery]
  cases readEnums? enums with
  | none => rfl
  | some enums => exact normal enums

/-- Posts with their author. With `forged`, a column is declared to be a relation and the relation
to be a column, and the foreign key is given another name and another table. -/
private def signedPosts (forged : Bool) : List Table :=
  [{ name := "Post"
     fields := [
      { name := "authorId", type := "Int", isRelation := forged },
      { name := "author", type := "User", isRelation := !forged
        relation := some {
          field := if forged then "editor" else "author"
          referencedTable := if forged then "Role" else "User"
          fields := ["authorId"]
          references := ["id"] } },
      { name := "note", type := "String?"
        relation := some { field := "note", referencedTable := if forged then "User" else "" } }] },
    { name := "User", fields := [{ name := "id", type := "Int", isId := true }] }]

theorem signedPosts_unforged :
    (signedPosts true).map (·.stated) = (signedPosts false).map (·.stated) ∧
    (∃ m, normalize (signedPosts true) [] = .ok m ∧ normalize (signedPosts false) [] = .ok m ∧
      m.tables.map (·.foreignKeys) = [[⟨"author", "User", ["authorId"], ["id"], none, none⟩], []]) ∧
    ∀ enums, Model.ofDocuments (tableDocument (signedPosts true)) enums =
      Model.ofDocuments (tableDocument (signedPosts false)) enums := by
  have same : (signedPosts true).map (·.stated) = (signedPosts false).map (·.stated) := rfl
  obtain ⟨normal, documents⟩ := normalize_unforged same
  obtain ⟨m, own, keys⟩ : ∃ m, normalize (signedPosts false) [] = .ok m ∧
      m.tables.map (·.foreignKeys) =
        [[⟨"author", "User", ["authorId"], ["id"], none, none⟩], []] := ⟨_, rfl, rfl⟩
  refine ⟨same, ⟨m, (normal []).trans own, own, keys⟩, fun enums => ?_⟩
  exact documents _ _ enums (readTables?_tableDocument _) (readTables?_tableDocument _)

end Conform.Schema
