import Mathlib.Data.List.Forall2
import RowGraph.Proofs.Registry.Lookup

/-!
What the results for a row owe to the registry. A node owes nothing to it. A
pattern asks it only for the tables that foreign keys refer to, one end after
the other, so that a registry with more tables can change the outcome of a
pattern only if that was the fault of an alias whose table was missing. Two
registries that find the same tables give the same outcomes.
-/

namespace RowGraph

variable {registry bigger : Registry} {definition : TableDefinition} {row : Row}

namespace TableDefinition

/-- A fault of an alias that refers to a table which is missing from a registry
and not from a bigger one. -/
inductive Awaits (definition : TableDefinition) (registry bigger : Registry) (row : Row) :
    Fault → Prop where
  | table (fk : ForeignKey) (declared : fk ∈ definition.foreignKeys)
      (missing : registry.get? fk.foreignTable = none)
      (added : fk.foreignTable ∈ bigger.names) :
      Awaits definition registry bigger row
        (definition.badAlias row fk.alias (.unregistered fk.foreignTable))

theorem foreignEndpoint_of_subset (within : registry.tables ⊆ bigger.tables) {fk : ForeignKey}
    (declared : fk ∈ definition.foreignKeys) :
    definition.foreignEndpoint bigger row fk = definition.foreignEndpoint registry row fk ∨
      ∃ fault, definition.foreignEndpoint registry row fk = .error fault ∧
        definition.Awaits registry bigger row fault := by
  unfold foreignEndpoint
  cases hfound : registry.get? fk.foreignTable with
  | some foreign =>
      rw [Registry.get?_of_subset within hfound]
      exact .inl rfl
  | none =>
      cases hbigger : bigger.get? fk.foreignTable with
      | none => exact .inl rfl
      | some foreign =>
          have hadded : fk.foreignTable ∈ bigger.names := by
            by_contra hmissing
            rw [Registry.get?_eq_none_iff.mpr hmissing] at hbigger
            cases hbigger
          exact .inr ⟨_, rfl, .table fk declared hfound hadded⟩

theorem endpoint_of_subset (definition : TableDefinition) (row : Row)
    (within : registry.tables ⊆ bigger.tables) (name : String) :
    definition.endpoint bigger row name = definition.endpoint registry row name ∨
      ∃ fault, definition.endpoint registry row name = .error fault ∧
        definition.Awaits registry bigger row fault := by
  unfold endpoint
  split
  · exact .inl rfl
  · cases hfound : definition.foreignKey? name with
    | none => exact .inl rfl
    | some fk => exact foreignEndpoint_of_subset within (List.mem_of_find?_eq_some hfound)

/-- An outcome stays as it is, unless it is a fault that the bigger registry has
the table for. -/
theorem outcome_of_subset (definition : TableDefinition) (row : Row)
    (within : registry.tables ⊆ bigger.tables) (pattern : Pattern) :
    definition.outcome bigger row pattern = definition.outcome registry row pattern ∨
      ∃ fault, definition.outcome registry row pattern = .failed fault ∧
        definition.Awaits registry bigger row fault := by
  unfold outcome
  cases pattern.read with
  | error problem => exact .inl rfl
  | ok link =>
      unfold relate
      dsimp only
      split
      · exact .inl rfl
      · -- An end that leads nowhere hides the other, so only the first fault matters.
        rcases definition.endpoint_of_subset row within link.source with
          hsource | ⟨fault, hsource, hawaits⟩
        · rw [hsource]
          cases definition.endpoint registry row link.source with
          | error fault => exact .inl rfl
          | ok source =>
              cases source with
              | none => exact .inl rfl
              | some source =>
                  rcases definition.endpoint_of_subset row within link.target with
                    htarget | ⟨fault, htarget, hawaits⟩
                  · rw [htarget]
                    exact .inl rfl
                  · rw [htarget]
                    exact .inr ⟨fault, rfl, hawaits⟩
        · rw [hsource]
          exact .inr ⟨fault, rfl, hawaits⟩

theorem outcome_of_perm (perm : registry.tables.Perm bigger.tables) (pattern : Pattern) :
    definition.outcome bigger row pattern = definition.outcome registry row pattern := by
  rcases definition.outcome_of_subset row perm.subset pattern with
    hsame | ⟨fault, hfailed, hawaits⟩
  · exact hsame
  · cases hawaits with
    | table fk declared missing added =>
        rw [Registry.get?_of_perm perm, Registry.get?_eq_none_iff] at missing
        exact absurd added missing

/-- The order of the tables does not matter to a row. -/
theorem batch_of_perm (perm : registry.tables.Perm bigger.tables) :
    definition.batch registry row = definition.batch bigger row := by
  unfold batch
  simp only [outcome_of_perm perm]

end TableDefinition

namespace Registry

inductive Becomes (registry bigger : Registry) (definition : TableDefinition) (row : Row) :
    Pattern × PatternOutcome → Pattern × PatternOutcome → Prop where
  | same (pattern : Pattern) (outcome : PatternOutcome) :
      Becomes registry bigger definition row (pattern, outcome) (pattern, outcome)
  | found (pattern : Pattern) (fault : Fault) (outcome : PatternOutcome)
      (awaits : definition.Awaits registry bigger row fault) :
      Becomes registry bigger definition row (pattern, .failed fault) (pattern, outcome)

/-- How the results for the rows of registered tables compare with those in a
registry that has more tables. -/
structure GrowsInto (registry bigger : Registry) : Prop where
  node : ∀ definition ∈ registry.tables, ∀ row,
    bigger.node definition.table row = registry.node definition.table row
  batch : ∀ definition ∈ registry.tables, ∀ row, ∃ before after,
    registry.batch definition.table row = .ok before ∧
    bigger.batch definition.table row = .ok after ∧
    after.table = before.table ∧ after.key = before.key ∧
    List.Forall₂ (registry.Becomes bigger definition row) before.outcomes after.outcomes

theorem growsInto_of_subset (within : registry.tables ⊆ bigger.tables) :
    registry.GrowsInto bigger := by
  constructor
  · intro definition member row
    rw [node_of_get? (get?_of_mem member), node_of_get? (get?_of_mem (within member))]
  · intro definition member row
    refine ⟨_, _, batch_of_get? (get?_of_mem member) row,
      batch_of_get? (get?_of_mem (within member)) row, rfl, rfl, ?_⟩
    simp only [TableDefinition.batch, List.forall₂_map_left_iff, List.forall₂_map_right_iff]
    rw [List.forall₂_same]
    intro pattern _
    rcases definition.outcome_of_subset row within pattern with
      hsame | ⟨fault, hfailed, hawaits⟩
    · rw [hsame]
      exact .same pattern _
    · rw [hfailed]
      exact .found pattern fault _ hawaits

/-- The order of the tables does not matter to what is done for a row of a table
by its name. -/
theorem results_of_perm (perm : registry.tables.Perm bigger.tables) (table : String) (row : Row) :
    registry.node table row = bigger.node table row ∧
      registry.batch table row = bigger.batch table row := by
  constructor
  · simp only [node, find, get?_of_perm perm]
  · simp only [batch, find, get?_of_perm perm, TableDefinition.batch_of_perm perm]

end Registry

end RowGraph
