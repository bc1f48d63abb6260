import Mathlib.Data.Option.Basic
import RowGraph.Store.Script

/-!
What statements do to a database. A statement leaves a database as it is, gives
one of its tables other rows, or adds a table without rows under a name that is
free. Whatever these three keep holds of every database that a script makes.
-/

namespace RowGraph

inductive Database.Changes (database : Database) : Database → Prop where
  | same : Changes database database
  /-- Every row was in the table or has a cell for each of its columns. -/
  | rows {name : String} (table : Table) (rows : List (List Cell))
      (found : database.get? name = some table)
      (filled : ∀ cells ∈ rows, cells ∈ table.rows ∨ cells.length = table.columns.length) :
      Changes database (database.setRows name rows)
  | add (table : Table) (free : database.get? table.name = none)
      (distinct : table.DistinctColumns) :
      Changes database (database.add { table with rows := [] })

namespace Table

variable {table : Table} {cells : List Cell}

theorem mem_place {other : List Cell} {rows : List (List Cell)}
    (member : other ∈ table.place cells rows) : other = cells ∨ other ∈ rows := by
  induction rows with
  | nil => exact .inl (List.mem_singleton.mp member)
  | cons first rest ih =>
      rw [place] at member
      split at member
      · exact List.mem_cons.mp member
      · rcases List.mem_cons.mp member with rfl | hlater
        · exact .inr (List.mem_cons_self ..)
        · rcases ih hlater with hhere | hrest
          · exact .inl hhere
          · exact .inr (List.mem_cons_of_mem first hrest)

/-- The number that a row is given takes the place of a cell. -/
theorem length_of_numbered? {numbered : List Cell} (h : table.numbered? cells = some numbered) :
    numbered.length = cells.length := by
  cases hindex : table.key.head?.bind table.columnIndex? with
  | none =>
      simp only [numbered?, hindex, reduceCtorEq] at h
  | some index =>
      cases hfit : Affinity.numeric.fit (cells.getD index .null) with
      | integer number =>
          simp only [numbered?, hindex, hfit, Option.some.injEq] at h
          subst h
          exact List.length_set
      | null =>
          simp only [numbered?, hindex, hfit] at h
          obtain ⟨number, -, rfl⟩ := Option.map_eq_some_iff.mp h
          exact List.length_set
      | _ => simp only [numbered?, hindex, hfit, reduceCtorEq] at h

end Table

namespace Database

variable {database after : Database} {name : String} {table : Table}

theorem insertRow?_eq_some_iff {cells : List Cell} :
    database.insertRow? name cells = some after ↔
      ∃ table placed, database.get? name = some table ∧
        cells.length = table.columns.length ∧
        (if table.isNumbered then table.numbered? cells else some cells) = some placed ∧
        table.hasKeyOf placed = false ∧
        (table.references.all fun reference =>
          isOwnParent table placed reference ||
            database.satisfies table table.rows reference placed) = true ∧
        database.setRows name (table.place placed table.rows) = after := by
  -- what is done with the cells stands in both branches
  have hjoin (table : Table) (rest : List Cell → Option Database) :
      (if table.isNumbered then (table.numbered? cells).bind rest
        else (some cells).bind rest) =
        (if table.isNumbered then table.numbered? cells else some cells).bind rest :=
    (apply_ite (Option.bind · rest) ..).symm
  simp only [insertRow?, Option.bind_eq_bind, hjoin, Option.bind_eq_some_iff,
    Option.guard_eq_some', Option.pure_def, Option.some.injEq, Bool.not_eq_true', exists_const,
    exists_and_left]

theorem changes_of_insertRow? {cells : List Cell}
    (h : database.insertRow? name cells = some after) : database.Changes after := by
  obtain ⟨table, placed, hfound, hlong, hplaced, -, -, rfl⟩ := insertRow?_eq_some_iff.mp h
  have hsame : placed.length = cells.length := by
    split at hplaced
    · exact Table.length_of_numbered? hplaced
    · rw [Option.some.inj hplaced]
  apply Changes.rows table _ hfound
  intro other member
  rcases Table.mem_place member with rfl | hold
  · exact .inr (hsame.trans hlong)
  · exact .inl hold

theorem changes_of_deleteRows? (h : database.deleteRows? name = some after) :
    database.Changes after := by
  unfold deleteRows? at h
  obtain ⟨table, hfound, hleading⟩ := Option.bind_eq_some_iff.mp h
  obtain ⟨_, _, hincoming⟩ := Option.bind_eq_some_iff.mp hleading
  obtain ⟨_, _, hbroken⟩ := Option.bind_eq_some_iff.mp hincoming
  obtain ⟨_, _, hafter⟩ := Option.bind_eq_some_iff.mp hbroken
  obtain rfl := Option.some.inj hafter
  exact .rows table [] hfound (List.forall_mem_nil _)

theorem changes_of_create? (h : database.create? table = some after) :
    database.Changes after := by
  unfold create? at h
  split at h
  · cases h
  · rename_i hfree
    split at h
    · rename_i hdistinct
      obtain rfl := Option.some.inj h
      exact .add table hfree hdistinct
    · cases h

end Database

namespace Statement

variable {database after : Database}

theorem changes_of_run? {statement : Statement} {answer : Option (List Row)}
    (h : statement.run? database = some (answer, after)) : database.Changes after := by
  cases statement with
  | select columns =>
      obtain ⟨-, rfl⟩ : some _ = answer ∧ database = after := by simpa [run?] using h
      exact .same
  | selectFrom name columns =>
      obtain ⟨table, -, hshown⟩ := Option.map_eq_some_iff.mp h
      cases columns with
      | none =>
          obtain rfl := (Prod.mk.inj hshown).2
          exact .same
      | some columns =>
          obtain rfl := (Prod.mk.inj hshown).2
          exact .same
  | insert name cells =>
      obtain ⟨found, hinsert, hfound⟩ := Option.map_eq_some_iff.mp h
      obtain rfl := (Prod.mk.inj hfound).2
      exact Database.changes_of_insertRow? hinsert
  | delete name =>
      obtain ⟨found, hdelete, hfound⟩ := Option.map_eq_some_iff.mp h
      obtain rfl := (Prod.mk.inj hfound).2
      exact Database.changes_of_deleteRows? hdelete
  | create table =>
      obtain ⟨found, hcreate, hfound⟩ := Option.map_eq_some_iff.mp h
      obtain rfl := (Prod.mk.inj hfound).2
      exact Database.changes_of_create? hcreate
  | broken => cases h

/-- What every change keeps is kept by a script, however far it comes. -/
theorem runAll_keeps {holds : Database → Prop}
    (keeps : ∀ before after, holds before → before.Changes after → holds after)
    (start : holds database) (script : List Statement) (answer : List Row) :
    holds (runAll answer script database).2 := by
  induction script generalizing database answer with
  | nil => exact start
  | cons statement rest ih =>
      rw [runAll]
      split
      · exact start
      · rename_i hrun
        exact ih (keeps _ _ start (changes_of_run? hrun)) answer
      · rename_i rows _ hrun
        exact ih (keeps _ _ start (changes_of_run? hrun)) rows

end Statement

end RowGraph
