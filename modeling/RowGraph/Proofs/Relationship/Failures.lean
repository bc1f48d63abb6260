import RowGraph.Proofs.Relationship.Endpoints

/-!
Why a row can fail. All faults that are met while the statements of a row are
made are listed once, by `FailsWith`, each with what has to be the case for it:
a pattern that cannot be read, an alias that leads nowhere, labels that come out
empty, or a column that the row does not have.
-/

namespace RowGraph

/-- The faults that a row of a table can fail with in a phase. -/
inductive TableDefinition.FailsWith (definition : TableDefinition) (registry : Registry)
    (row : Row) : Fault → Prop where
  | pattern (problem : Pattern.Malformed) :
      FailsWith definition registry row
        (.pattern definition.table (definition.rowKey row) problem)
  | badAlias (name : String) (problem : AliasProblem) :
      FailsWith definition registry row (definition.badAlias row name problem)
  | ownLabels (unlabelled : definition.labels row = []) :
      FailsWith definition registry row (.noLabels definition.table (definition.rowKey row))
  /-- The row that a foreign key refers to has no labels by its key alone. -/
  | foreignLabels (fk : ForeignKey) (foreign : TableDefinition) (key : Row)
      (declared : fk ∈ definition.foreignKeys)
      (registered : registry.get? fk.foreignTable = some foreign)
      (keyed : definition.foreignKeyRow row fk foreign foreign.primaryKey .empty =
        .ok (some key))
      (unlabelled : foreign.labels key = []) :
      FailsWith definition registry row (.noLabels foreign.table (foreign.rowKey key))
  | missing (column : String)
      (asked : column ∈ definition.primaryKey ∨
        ∃ fk ∈ definition.foreignKeys, fk.column = column)
      (absent : row.get? column = none) :
      FailsWith definition registry row
        (.missingColumn definition.table column (definition.rowKey row))

namespace TableDefinition

variable {definition foreign : TableDefinition} {registry : Registry} {row known : Row}
  {fk : ForeignKey} {columns : List String} {fault : Fault}

theorem absent_of_require {column : String}
    (h : definition.require row column = .error fault) :
    row.get? column = none ∧
      fault = .missingColumn definition.table column (definition.rowKey row) := by
  unfold require at h
  split at h
  · cases h
  · rename_i hget
    exact ⟨hget, (Except.error.inj h).symm⟩

theorem mem_of_paired? {own : ForeignKey} {column : String}
    (declared : fk ∈ definition.foreignKeys) (h : definition.paired? fk column = some own) :
    own ∈ definition.foreignKeys := by
  unfold paired? at h
  split at h
  · rwa [← Option.some.inj h]
  · exact List.mem_of_find?_eq_some h

theorem failsWith_of_ownKey (h : definition.ownKey row columns = .error fault)
    (within : columns ⊆ definition.primaryKey) : definition.FailsWith registry row fault := by
  induction columns with
  | nil => cases h
  | cons column rest ih =>
      rw [ownKey] at h
      split at h
      · rename_i hrequire
        obtain rfl := Except.error.inj h
        obtain ⟨habsent, rfl⟩ := absent_of_require hrequire
        exact .missing column (.inl (within (List.mem_cons_self ..))) habsent
      · split at h
        · rename_i hrest
          obtain rfl := Except.error.inj h
          exact ih hrest (List.subset_of_cons_subset within)
        · cases h

theorem failsWith_of_foreignKeyRow (declared : fk ∈ definition.foreignKeys)
    (h : definition.foreignKeyRow row fk foreign columns known = .error fault) :
    definition.FailsWith registry row fault := by
  -- What is known does not matter to the fault, so the induction is for any of it.
  induction columns generalizing known with
  | nil => cases h
  | cons column rest ih =>
      rw [foreignKeyRow] at h
      split at h
      · obtain rfl := Except.error.inj h
        exact .badAlias fk.alias _
      · rename_i own hpaired
        split at h
        · rename_i hrequire
          obtain rfl := Except.error.inj h
          obtain ⟨habsent, rfl⟩ := absent_of_require hrequire
          exact .missing own.column (.inr ⟨own, mem_of_paired? declared hpaired, rfl⟩) habsent
        · split at h
          · cases h
          · exact ih h

theorem failsWith_of_endpoint {name : String}
    (h : definition.endpoint registry row name = .error fault) :
    definition.FailsWith registry row fault := by
  unfold endpoint at h
  split at h
  · unfold ownEndpoint at h
    dsimp only at h
    split at h
    · rename_i hlabels
      obtain rfl := Except.error.inj h
      exact .ownLabels (List.isEmpty_iff.mp hlabels)
    · split at h
      · rename_i hkey
        obtain rfl := Except.error.inj h
        exact failsWith_of_ownKey hkey (List.Subset.refl _)
      · cases h
  · split at h
    · obtain rfl := Except.error.inj h
      exact .badAlias name _
    · rename_i fk hfound
      have declared : fk ∈ definition.foreignKeys := List.mem_of_find?_eq_some hfound
      unfold foreignEndpoint at h
      split at h
      · obtain rfl := Except.error.inj h
        exact .badAlias fk.alias _
      · rename_i foreign registered
        split at h
        · rename_i hkey
          obtain rfl := Except.error.inj h
          exact failsWith_of_foreignKeyRow declared hkey
        · cases h
        · rename_i key hkey
          dsimp only at h
          split at h
          · rename_i hlabels
            obtain rfl := Except.error.inj h
            exact .foreignLabels fk foreign key declared registered hkey
              (List.isEmpty_iff.mp hlabels)
          · cases h

theorem failsWith_of_outcome {pattern : Pattern}
    (h : definition.outcome registry row pattern = .failed fault) :
    definition.FailsWith registry row fault := by
  unfold outcome at h
  split at h
  · obtain rfl := PatternOutcome.failed.inj h
    exact .pattern _
  · rename_i link _
    unfold relate at h
    split at h
    · obtain rfl := PatternOutcome.failed.inj h
      exact .badAlias link.source _
    · split at h
      · rename_i hsource
        obtain rfl := PatternOutcome.failed.inj h
        exact failsWith_of_endpoint hsource
      · cases h
      · split at h
        · rename_i htarget
          obtain rfl := PatternOutcome.failed.inj h
          exact failsWith_of_endpoint htarget
        · cases h
        · cases h

/-- A row has no node only for want of labels. -/
theorem unlabelled_of_node (h : definition.node row = .error fault) :
    definition.labels row = [] ∧
      fault = .noLabels definition.table (definition.rowKey row) := by
  unfold node at h
  dsimp only at h
  split at h
  · rename_i hlabels
    exact ⟨List.isEmpty_iff.mp hlabels, (Except.error.inj h).symm⟩
  · cases h

theorem failsWith_of_node (h : definition.node row = .error fault) :
    definition.FailsWith registry row fault := by
  obtain ⟨hlabels, rfl⟩ := unlabelled_of_node h
  exact .ownLabels hlabels

theorem failsWith_of_mem_faults (member : fault ∈ (definition.batch registry row).faults) :
    definition.FailsWith registry row fault := by
  simp only [batch, Batch.faults, List.mem_filterMap, List.mem_map] at member
  obtain ⟨_, ⟨pattern, -, rfl⟩, hfailed⟩ := member
  cases houtcome : definition.outcome registry row pattern with
  | linked statement => simp [houtcome] at hfailed
  | skipped => simp [houtcome] at hfailed
  | failed found =>
      obtain rfl : found = fault := by simpa [houtcome] using hfailed
      exact failsWith_of_outcome houtcome

end TableDefinition

end RowGraph
