import Conform.Proofs.Sql.Store

/-! A statement changes one table at most, and a transaction no table that none of its statements
changes. -/
namespace Conform.Sql

/-- The table that a statement may change. -/
def Statement.target? : Statement → Option String
  | createTable table _ => some table.name
  | createLike _ target _ | copyRows _ target | copyColumns _ target _ => some target
  | dropTable table _ _ | addColumn table _ | alterColumnType table _ _ => some table
  | createIndex _ | dropIndex _ _ | dropConstraint _ _ | addPrimaryKey _ _ | addForeignKey _ _
  | comment _ | given _ => none

/-- A statement as a database reads it that knows a table by `key` of its name. To SQLite, names
that differ in the case of their letters are the same; to PostgreSQL no two names are. -/
def Statement.rename (key : String → String) : Statement → Statement
  | createTable table ifNotExists => createTable { table with name := key table.name } ifNotExists
  | createLike source target text => createLike (key source) (key target) text
  | dropTable table ifExists cascade => dropTable (key table) ifExists cascade
  | addColumn table column => addColumn (key table) column
  | alterColumnType table column type => alterColumnType (key table) column type
  | copyRows source target => copyRows (key source) (key target)
  | copyColumns source target columns => copyColumns (key source) (key target) columns
  | other => other

theorem Statement.target?_rename (key : String → String) (statement : Statement) :
    (statement.rename key).target? = statement.target?.map key := by
  cases statement <;> rfl

section
variable {α : Type} {s after : Store α} {other : String}

/-- A statement leaves alone every table but its own. -/
theorem Statement.run_other {statement : Statement} (done : statement.run s = some after)
    (apart : statement.target? ≠ some other) : after other = s other := by
  have differs {table : String} (own : statement.target? = some table) : other ≠ table :=
    fun same => apart (own.trans (congrArg some same.symm))
  cases statement with
  | createTable table ifNotExists =>
    rw [run] at done
    split at done
    · cases done
      exact s.set_other _ (differs rfl)
    · split at done <;> cases done
      rfl
  | createLike source target text =>
    rw [run] at done
    split at done <;> cases done
    exact s.set_other _ (differs rfl)
  | dropTable table ifExists cascade =>
    rw [run] at done
    split at done
    · split at done <;> cases done
      rfl
    · cases done
      exact s.set_other _ (differs rfl)
  | addColumn table column =>
    rw [run] at done
    split at done <;> cases done
    exact s.set_other _ (differs rfl)
  | copyRows source target =>
    rw [run] at done
    split at done
    · split at done <;> cases done
      exact s.set_other _ (differs rfl)
    · cases done
  | copyColumns source target columns =>
    rw [run] at done
    split at done
    · split at done <;> cases done
      exact s.set_other _ (differs rfl)
    · cases done
  | createIndex | dropIndex | dropConstraint | addPrimaryKey | addForeignKey | comment =>
    cases done
    rfl
  | alterColumnType | given => cases done

theorem runAll_other {statements : List Statement} (done : runAll statements s = some after)
    (apart : ∀ statement ∈ statements, statement.target? ≠ some other) :
    after other = s other := by
  induction statements generalizing s with
  | nil =>
    cases done
    rfl
  | cons statement rest ih =>
    obtain ⟨middle, first, last⟩ := Option.bind_eq_some_iff.mp done
    rw [ih last fun later member => apart later (List.mem_cons_of_mem _ member)]
    exact Statement.run_other first (apart statement List.mem_cons_self)

/-- The database after a transaction: all statements have run, or none has. -/
def transact (statements : List Statement) (s : Store α) : Store α :=
  (runAll statements s).getD s

theorem transact_other {statements : List Statement}
    (apart : ∀ statement ∈ statements, statement.target? ≠ some other) (s : Store α) :
    transact statements s other = s other := by
  rw [transact]
  cases done : runAll statements s with
  | none => rfl
  | some after => exact runAll_other done apart

end

end Conform.Sql
