import RowGraph.Proofs.Relationship.Statements

/-!
References that hold a null. The row that a foreign key refers to is found by
the primary key of its table, with values from the columns that the constraint
pairs with that key. If one of these is null there is no such row, and no
pattern that names a column of the constraint links anything, whichever column
it names and at whichever end.

A constraint may refer to more columns than the primary key of the other table
has. The row is not found by those, and a null in one of them goes unnoticed.
-/

namespace RowGraph

namespace TableDefinition

variable {definition : TableDefinition} {registry : Registry} {row : Row} {fk own : ForeignKey}

/-- That the row which a foreign key refers to is found by a column of the same
constraint: it is the one column of the constraint that refers to some column
of the primary key of the other table. -/
structure FindsBy (definition : TableDefinition) (registry : Registry) (fk own : ForeignKey) :
    Prop where
  declared : own ∈ definition.foreignKeys
  constraint : own.constraint = fk.constraint
  keyed : ∀ foreign, registry.get? fk.foreignTable = some foreign →
    own.foreignColumn ∈ foreign.primaryKey
  single : ∀ other ∈ definition.foreignKeys, other.constraint = fk.constraint →
    other.foreignColumn = own.foreignColumn → other = own

theorem FindsBy.paired (finds : definition.FindsBy registry fk own)
    (declared : fk ∈ definition.foreignKeys) :
    definition.paired? fk own.foreignColumn = some own := by
  rw [paired?]
  by_cases hsame : own.foreignColumn = fk.foreignColumn
  · rw [if_pos hsame, finds.single fk declared rfl hsame.symm]
  · rw [if_neg hsame]
    cases hfound : definition.foreignKeys.find? fun other =>
        other.constraint == fk.constraint && other.foreignColumn == own.foreignColumn with
    | none =>
        have hnone := List.find?_eq_none.mp hfound own finds.declared
        simp [finds.constraint] at hnone
    | some found =>
        have hmatches := List.find?_some hfound
        simp only [Bool.and_eq_true, beq_iff_eq] at hmatches
        have hdeclared := List.mem_of_find?_eq_some hfound
        rw [finds.single found hdeclared hmatches.1 hmatches.2]

/-- An alias that stands for an end stands for the one of its own foreign key. -/
theorem Resolves.exists_key {name : String} {endpoint : Cypher.Endpoint}
    (h : definition.Resolves registry row name endpoint) (declared : fk ∈ definition.foreignKeys)
    (named : name = fk.alias) :
    ∃ foreign key, registry.get? fk.foreignTable = some foreign ∧
      definition.foreignKeyRow row fk foreign foreign.primaryKey .empty = .ok (some key) := by
  cases h with
  | own labelled keyed => exact absurd named.symm (definition.own_not_alias fk declared)
  | foreign found registered keyed labelled =>
      obtain rfl := List.inj_on_of_nodup_map definition.aliases_nodup found declared named
      exact ⟨_, _, registered, keyed⟩

/-- An alias stands for no end if the column that the row is found by is null. -/
theorem FindsBy.not_resolves (finds : definition.FindsBy registry fk own)
    (declared : fk ∈ definition.foreignKeys) (null : row.get? own.column = some .null)
    (endpoint : Cypher.Endpoint) : ¬ definition.Resolves registry row fk.alias endpoint := by
  intro h
  obtain ⟨foreign, key, registered, hkey⟩ := h.exists_key declared rfl
  have hsupplied := get?_foreignKeyRow hkey own.foreignColumn
  rw [if_pos (finds.keyed foreign registered)] at hsupplied
  obtain ⟨fitted, -, found, value, hpaired, hvalue, hnull, -⟩ := hsupplied
  obtain rfl : own = found := Option.some.inj ((finds.paired declared).symm.trans hpaired)
  obtain rfl : .null = value := Option.some.inj (null.symm.trans hvalue)
  cases hnull

end TableDefinition

/-- A pattern that names a foreign key at one of its ends links nothing if the
row holds null in a column of the constraint that the other row is found by, be
it the named column or another. In the batch of the row the pattern has nothing
to link, or it has failed with a fault that the batch reports. -/
theorem Registry.null_reference_not_linked {registry : Registry} {table : String}
    {definition : TableDefinition} {fk own : ForeignKey} {row : Row} {pattern : Pattern}
    {link : Link} (registered : registry.get? table = some definition)
    (declared : fk ∈ definition.foreignKeys) (read : pattern.read = .ok link)
    (named : fk.alias = link.source ∨ fk.alias = link.target)
    (finds : definition.FindsBy registry fk own) (null : row.get? own.column = some .null)
    (asked : pattern ∈ definition.relationships row) :
    ∃ batch, registry.batch table row = .ok batch ∧
      (∀ statement, (pattern, .linked statement) ∉ batch.outcomes) ∧
      ((pattern, .skipped) ∈ batch.outcomes ∨
        ∃ fault ∈ batch.faults, (pattern, .failed fault) ∈ batch.outcomes) := by
  have hunlinked : ∀ statement, definition.outcome registry row pattern ≠ .linked statement := by
    intro statement houtcome
    obtain ⟨other, hother, -, hsource, htarget, -⟩ :=
      TableDefinition.linked_of_outcome houtcome
    obtain rfl : link = other := Except.ok.inj (read.symm.trans hother)
    rcases named with hnamed | hnamed
    · exact finds.not_resolves declared null _
        (hnamed ▸ TableDefinition.resolves_of_endpoint hsource)
    · exact finds.not_resolves declared null _
        (hnamed ▸ TableDefinition.resolves_of_endpoint htarget)
  have hmember : (pattern, definition.outcome registry row pattern) ∈
      (definition.batch registry row).outcomes := List.mem_map_of_mem asked
  refine ⟨definition.batch registry row, batch_of_get? registered row, ?_, ?_⟩
  · intro statement hlinked
    obtain ⟨_, -, hpair⟩ := List.mem_map.mp hlinked
    obtain ⟨rfl, houtcome⟩ := Prod.mk.inj hpair
    exact hunlinked statement houtcome
  · cases houtcome : definition.outcome registry row pattern with
    | linked statement => exact absurd houtcome (hunlinked statement)
    | skipped => exact .inl (houtcome ▸ hmember)
    | failed fault =>
        rw [houtcome] at hmember
        exact .inr ⟨fault, List.mem_filterMap.mpr ⟨_, hmember, rfl⟩, hmember⟩

/-- Officers with a key of one column, who refer to their chief by this key and a
code in one constraint. -/
def officers : TableDefinition where
  table := "officers"
  primaryKey := ["badge"]
  foreignKeys := [⟨0, "chief_id", "officers", "badge"⟩, ⟨0, "chief_code", "officers", "code"⟩]
  columnTypes := [("badge", .integer), ("code", .text), ("chief_id", .integer),
    ("chief_code", .text)]
  labels := fun _ => ["Officer"]
  properties := id
  relationships? := some fun _ => [.shorthand "(this)-[:SERVES]->(chief)",
    .shorthand "(chief_code)-[:LEADS]->(this)"]
  table_isName := by decide
  primaryKey_ne_nil := by decide
  aliases_nodup := by decide
  own_not_alias := by decide

def officersRegistry : Registry := .push .empty officers (by decide)

/-- The pattern names one column of the constraint and the null is in the
other. -/
theorem null_reference_not_linked_officers :
    let own : ForeignKey := ⟨0, "chief_id", "officers", "badge"⟩
    let fk : ForeignKey := ⟨0, "chief_code", "officers", "code"⟩
    let pattern : Pattern := .shorthand "(chief_code)-[:LEADS]->(this)"
    let row := Row.ofList [("badge", .int 7), ("code", .text "a"), ("chief_id", .null),
      ("chief_code", .text "b")]
    officersRegistry.get? "officers" = some officers ∧ fk ∈ officers.foreignKeys ∧
      pattern.read = .ok ⟨"chief_code", "this", "LEADS"⟩ ∧ fk.alias = "chief_code" ∧
      officers.FindsBy officersRegistry fk own ∧ row.get? own.column = some .null ∧
      pattern ∈ officers.relationships row ∧
      ∃ batch, officersRegistry.batch "officers" row = .ok batch ∧
        (∀ statement, (pattern, .linked statement) ∉ batch.outcomes) ∧ batch.skipped = 2 := by
  intro own fk pattern row
  have registered : officersRegistry.get? "officers" = some officers := rfl
  have declared : fk ∈ officers.foreignKeys := List.mem_cons_of_mem _ List.mem_cons_self
  have read : pattern.read = .ok ⟨"chief_code", "this", "LEADS"⟩ := by decide
  have halias : fk.alias = "chief_code" := by decide
  have finds : officers.FindsBy officersRegistry fk own := by
    refine ⟨List.mem_cons_self, rfl, ?_, by decide⟩
    intro foreign hforeign
    obtain rfl : officers = foreign := Option.some.inj hforeign
    exact List.mem_singleton.mpr rfl
  have null : row.get? own.column = some .null := rfl
  have asked : pattern ∈ officers.relationships row :=
    List.mem_cons_of_mem _ List.mem_cons_self
  obtain ⟨batch, hbatch, hunlinked, -⟩ := Registry.null_reference_not_linked registered declared
    read (.inl halias) finds null asked
  obtain rfl : officers.batch officersRegistry row = batch := Except.ok.inj hbatch
  exact ⟨registered, declared, read, halias, finds, null, asked, _, hbatch, hunlinked,
    by decide +kernel⟩

/-- A null in a column of the constraint that refers to no column of the key
does not keep its own pattern from linking, nor that of the other column. -/
theorem linked_despite_null_officers :
    let fk : ForeignKey := ⟨0, "chief_code", "officers", "code"⟩
    let row := Row.ofList [("badge", .int 7), ("code", .text "a"), ("chief_id", .int 8),
      ("chief_code", .null)]
    officersRegistry.get? "officers" = some officers ∧ fk ∈ officers.foreignKeys ∧
      fk.alias = "chief_code" ∧ row.get? fk.column = some .null ∧
      ∃ batch, officersRegistry.batch "officers" row = .ok batch ∧ batch.skipped = 0 ∧
        batch.faults = [] ∧ batch.statements.map Cypher.EdgeStatement.text =
          ["MATCH (this:Officer), (chief:Officer) WHERE this.badge = 7 AND chief.badge = 8 " ++
              "MERGE (this)-[:SERVES]->(chief);",
            "MATCH (chief_code:Officer), (this:Officer) WHERE chief_code.badge = 8 AND " ++
              "this.badge = 7 MERGE (chief_code)-[:LEADS]->(this);"] := by
  intro fk row
  have declared : fk ∈ officers.foreignKeys := List.mem_cons_of_mem _ List.mem_cons_self
  have hbatch : officersRegistry.batch "officers" row = .ok (officers.batch officersRegistry row) :=
    rfl
  exact ⟨rfl, declared, by decide, rfl, _, hbatch, by decide +kernel, by decide +kernel,
    by decide +kernel⟩

end RowGraph
