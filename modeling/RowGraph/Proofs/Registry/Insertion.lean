import RowGraph.Registry

/-!
What a registry holds after an insertion. A new definition stands after all
others and joins what the spec says with what the schema says.
-/

namespace RowGraph

/-- A definition that says of a table what a spec and a schema say of it. -/
structure TableDefinition.Joins (definition : TableDefinition) (spec : TableSpec)
    (schema : TableSchema) : Prop where
  table : definition.table = spec.table
  labels : spec.labels = some definition.labels
  properties : spec.properties = some definition.properties
  relationships : definition.relationships? = spec.relationships
  primaryKey : definition.primaryKey = schema.primaryKey
  foreignKeys : definition.foreignKeys = schema.foreignKeys
  columnTypes : definition.columnTypes = schema.columnTypes

/-- There is only one definition of a spec and a schema. -/
theorem TableDefinition.Joins.unique {definition other : TableDefinition} {spec : TableSpec}
    {schema : TableSchema} (h : definition.Joins spec schema) (h' : other.Joins spec schema) :
    definition = other := by
  have htable : definition.table = other.table := h.table.trans h'.table.symm
  have hlabels : definition.labels = other.labels :=
    Option.some.inj (h.labels.symm.trans h'.labels)
  have hproperties : definition.properties = other.properties :=
    Option.some.inj (h.properties.symm.trans h'.properties)
  have hrelationships := h.relationships.trans h'.relationships.symm
  have hkey := h.primaryKey.trans h'.primaryKey.symm
  have hforeign := h.foreignKeys.trans h'.foreignKeys.symm
  have htypes := h.columnTypes.trans h'.columnTypes.symm
  cases definition
  cases other
  subst htable hlabels hproperties hrelationships hkey hforeign htypes
  rfl

/-- Rules take over all that their spec says. -/
theorem TableSpec.of_rules {spec : TableSpec} {rules : TableRules} (h : spec.rules = .ok rules) :
    rules.table = spec.table ∧ spec.labels = some rules.labels ∧
      spec.properties = some rules.properties ∧ rules.relationships = spec.relationships := by
  unfold TableSpec.rules at h
  split at h
  · split at h
    · cases h
    · cases h
    · rename_i labels properties hlabels hproperties
      obtain rfl := Except.ok.inj h
      exact ⟨rfl, hlabels, hproperties, rfl⟩
  · cases h

/-- The definition that rules make says what the rules and the schema say. -/
theorem TableRules.of_define {rules : TableRules} {schema : TableSchema}
    {definition : { definition : TableDefinition // definition.table = rules.table }}
    (h : rules.define schema = .ok definition) :
    definition.1.labels = rules.labels ∧ definition.1.properties = rules.properties ∧
      definition.1.relationships? = rules.relationships ∧
      definition.1.primaryKey = schema.primaryKey ∧
      definition.1.foreignKeys = schema.foreignKeys ∧
      definition.1.columnTypes = schema.columnTypes := by
  unfold TableRules.define at h
  split at h
  · cases h
  · split at h
    · cases h
    · obtain rfl := Except.ok.inj h
      exact ⟨rfl, rfl, rfl, rfl, rfl, rfl⟩

/-- That a schema can be registered: it has a primary key, and each of its
foreign keys has an alias of its own. -/
structure TableSchema.IsUsable (schema : TableSchema) : Prop where
  keyed : schema.primaryKey ≠ []
  distinct : (schema.foreignKeys.map ForeignKey.alias).Nodup
  proper : ∀ fk ∈ schema.foreignKeys, fk.alias ≠ Pattern.own

/-- That a spec passes every condition that needs no catalog. -/
structure Registry.Admits (registry : Registry) (spec : TableSpec) : Prop where
  named : Text.isName spec.table = true
  labelled : spec.labels ≠ none
  described : spec.properties ≠ none
  new : spec.table ∉ registry.names

theorem TableSpec.exists_rules_iff {spec : TableSpec} :
    (∃ rules, spec.rules = .ok rules) ↔
      Text.isName spec.table = true ∧ spec.labels ≠ none ∧ spec.properties ≠ none := by
  unfold TableSpec.rules
  by_cases named : Text.isName spec.table = true
  · rw [dif_pos named]
    cases spec.labels with
    | none => simp
    | some labels => cases spec.properties <;> simp [named]
  · rw [dif_neg named]
    simp [named]

theorem aliasProblem?_eq_none {before rest : List ForeignKey}
    (distinct : ((before ++ rest).map ForeignKey.alias).Nodup)
    (proper : ∀ fk ∈ rest, fk.alias ≠ Pattern.own) : aliasProblem? before rest = none := by
  induction rest generalizing before with
  | nil => rfl
  | cons fk rest ih =>
      have hseen : before.find? (fun other => other.alias == fk.alias) = none := by
        rw [List.find?_eq_none]
        intro other member
        rw [List.map_append, List.nodup_append] at distinct
        have hne : other.alias ≠ fk.alias := distinct.2.2 other.alias
          (List.mem_map_of_mem member) fk.alias (by simp)
        simpa using hne
      rw [aliasProblem?, if_neg (proper fk (List.mem_cons_self ..)), hseen]
      apply ih
      · rwa [List.append_assoc, List.singleton_append]
      · exact fun other member => proper other (List.mem_cons_of_mem _ member)

theorem aliasProblem?_nil_eq_none_iff {keys : List ForeignKey} :
    aliasProblem? [] keys = none ↔
      (keys.map ForeignKey.alias).Nodup ∧ ∀ fk ∈ keys, fk.alias ≠ Pattern.own := by
  constructor
  · intro h
    simpa using aliases_of_aliasProblem?_eq_none h List.nodup_nil (by simp)
  · rintro ⟨distinct, proper⟩
    exact aliasProblem?_eq_none (by simpa using distinct) proper

theorem TableRules.exists_define_iff {rules : TableRules} {schema : TableSchema} :
    (∃ definition, rules.define schema = .ok definition) ↔ schema.IsUsable := by
  unfold TableRules.define
  split
  · rename_i hnone
    constructor
    · rintro ⟨definition, h⟩
      cases h
    · rintro ⟨keyed, -, -⟩
      exact absurd hnone keyed
  · rename_i keyed
    split
    · rename_i problem hproblem
      constructor
      · rintro ⟨definition, h⟩
        cases h
      · rintro ⟨-, distinct, proper⟩
        rw [aliasProblem?_nil_eq_none_iff.mpr ⟨distinct, proper⟩] at hproblem
        cases hproblem
    · rename_i hproblem
      have ⟨distinct, proper⟩ := aliasProblem?_nil_eq_none_iff.mp hproblem
      exact ⟨fun _ => ⟨keyed, distinct, proper⟩, fun _ => ⟨_, rfl⟩⟩

namespace Registry

variable {registry : Registry}

theorem validate_ok_iff {spec : TableSpec} :
    registry.validate spec = .ok () ↔ registry.Admits spec := by
  unfold validate
  cases hrules : spec.rules with
  | error fault =>
      constructor
      · intro h
        cases h
      · rintro ⟨named, labelled, described, -⟩
        obtain ⟨rules, h⟩ := TableSpec.exists_rules_iff.mpr ⟨named, labelled, described⟩
        rw [h] at hrules
        cases hrules
  | ok rules =>
      have ⟨named, labelled, described⟩ := TableSpec.exists_rules_iff.mp ⟨rules, hrules⟩
      have htable : rules.table = spec.table := (TableSpec.of_rules hrules).1
      dsimp only
      rw [htable]
      split
      · rename_i known
        constructor
        · intro h
          cases h
        · intro admitted
          exact absurd (contains_iff.mp known) admitted.new
      · rename_i unknown
        have new : spec.table ∉ registry.names := mt contains_iff.mpr unknown
        exact ⟨fun _ => ⟨named, labelled, described, new⟩, fun _ => rfl⟩

/-- A spec that is refused without a catalog is refused for the same reason
with any schema. -/
theorem insert_of_validate_error {spec : TableSpec} {schema : TableSchema} {fault : Fault}
    (h : registry.validate spec = .error fault) : registry.insert spec schema = .error fault := by
  unfold validate at h
  unfold insert
  cases hrules : spec.rules with
  | error problem =>
      rw [hrules] at h
      exact congrArg Except.error (Except.error.inj h)
  | ok rules =>
      rw [hrules] at h
      dsimp only at h ⊢
      split at h
      · rename_i known
        rw [dif_pos known]
        exact congrArg Except.error (Except.error.inj h)
      · cases h

/-- A spec that is admitted is inserted exactly with the schemas that can be
registered. -/
theorem exists_insert_iff {spec : TableSpec} {schema : TableSchema}
    (admitted : registry.Admits spec) :
    (∃ after, registry.insert spec schema = .ok after) ↔ schema.IsUsable := by
  obtain ⟨named, labelled, described, new⟩ := admitted
  obtain ⟨rules, hrules⟩ := TableSpec.exists_rules_iff.mpr ⟨named, labelled, described⟩
  have htable : rules.table = spec.table := (TableSpec.of_rules hrules).1
  have hdefine : (∃ definition, rules.define schema = .ok definition) ↔ schema.IsUsable :=
    TableRules.exists_define_iff
  rw [← hdefine]
  unfold insert
  rw [hrules]
  dsimp only
  rw [dif_neg (mt contains_iff.mp (htable ▸ new))]
  cases rules.define schema with
  | error fault => simp
  | ok definition => exact ⟨fun _ => ⟨definition, rfl⟩, fun _ => ⟨_, rfl⟩⟩

/-- A successful insertion adds one definition, which joins the spec and the
schema. -/
theorem push_of_insert {after : Registry} {spec : TableSpec} {schema : TableSchema}
    (h : registry.insert spec schema = .ok after) :
    ∃ (definition : TableDefinition) (new : definition.table ∉ registry.names),
      after = registry.push definition new ∧ definition.Joins spec schema := by
  unfold insert at h
  split at h
  · cases h
  · rename_i rules hrules
    split at h
    · cases h
    · rename_i unknown
      split at h
      · cases h
      · rename_i definition same hdefine
        have new : definition.table ∉ registry.names := same ▸ mt contains_iff.mpr unknown
        have hafter : registry.push definition new = after := Except.ok.inj h
        have ⟨htable, hlabels, hproperties, hrelationships⟩ := TableSpec.of_rules hrules
        have ⟨hlabels', hproperties', hrelationships', hkey, hforeign, htypes⟩ :=
          TableRules.of_define hdefine
        refine ⟨definition, new, hafter.symm, ?_⟩
        exact {
          table := same.trans htable
          labels := hlabels.trans (congrArg some hlabels'.symm)
          properties := hproperties.trans (congrArg some hproperties'.symm)
          relationships := hrelationships'.trans hrelationships
          primaryKey := hkey
          foreignKeys := hforeign
          columnTypes := htypes }

theorem tables_of_insert {after : Registry} {spec : TableSpec} {schema : TableSchema}
    (h : registry.insert spec schema = .ok after) :
    ∃ definition, after.tables = registry.tables ++ [definition] ∧
      definition.Joins spec schema := by
  obtain ⟨definition, new, rfl, hjoins⟩ := push_of_insert h
  exact ⟨definition, rfl, hjoins⟩

end Registry

end RowGraph
