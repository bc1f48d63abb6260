import RowGraph.Proofs.Load.Faults
import RowGraph.Proofs.Mapping.Registration
import RowGraph.Proofs.Relationship.KeyAgreement
import RowGraph.Proofs.Store.Rows

/-!
What accepted settings rule out. Every mapping of settings that were read has
labels of its own, so that every row has labels, also one that is known by its
key alone. The key and the references of a registered table are those of the
catalog, whose columns every scanned row has. And work on rows is only ever
begun for tables that are registered. So no row, load or preview of such a
session fails for want of labels, of a column, or of a table.
-/

namespace RowGraph

def Fault.IsLack : Fault → Prop
  | .noLabels _ _ | .missingColumn _ _ _ | .unknownTable _ _ => True
  | _ => False

/-- A definition of a table that gives labels to every row, with the key and the
references that the catalog of a database gives. -/
structure TableDefinition.IsBacked (definition : TableDefinition) (database : Database) :
    Prop where
  labelled : ∀ row, definition.labels row ≠ []
  catalogued : ∃ schema, (database.catalog definition.table).2 = .ok schema ∧
    definition.primaryKey = schema.primaryKey ∧ definition.foreignKeys = schema.foreignKeys

def Registry.IsBacked (database : Database) (registry : Registry) : Prop :=
  ∀ definition ∈ registry.tables, definition.IsBacked database

structure TableDefinition.HasColumns (definition : TableDefinition) (row : Row) : Prop where
  key : ∀ column ∈ definition.primaryKey, (row.get? column).isSome = true
  foreign : ∀ fk ∈ definition.foreignKeys, (row.get? fk.column).isSome = true

/-- That the tables of a registry which was made over one database have the same
schemas in another, whose rows have a cell for each column and whose references
are made by columns of their tables. -/
structure Database.Serves (later database : Database) (registry : Registry) : Prop where
  unchanged : ∀ definition ∈ registry.tables,
    (later.catalog definition.table).2 = (database.catalog definition.table).2
  filled : later.IsFilled
  owns : ∀ table ∈ later.tables, table.OwnsReferences

variable {registry : Registry} {definition : TableDefinition} {database : Database} {row : Row}
  {fault : Fault}

theorem TableDefinition.IsBacked.hasColumns (backed : definition.IsBacked database)
    {later : Database} (serves : later.Serves database registry)
    (member : definition ∈ registry.tables) (streamed : later.Yields definition.table row) :
    definition.HasColumns row := by
  obtain ⟨schema, hcatalog, hkey, hforeign⟩ := backed.catalogued
  rw [← serves.unchanged definition member] at hcatalog
  obtain ⟨table, hfound, rfl⟩ := Database.schemaOf_of_catalog hcatalog
  obtain ⟨cells, hcells, rfl⟩ := Database.readRow_of_yields hfound streamed
  have htable : table ∈ later.tables := List.mem_of_find?_eq_some hfound
  have hlength := serves.filled table htable cells hcells
  constructor
  · intro column keyed
    rw [hkey] at keyed
    exact Table.get?_readRow_of_mem_key hlength keyed
  · intro fk declared
    rw [hforeign] at declared
    exact Table.get?_readRow_of_mem_foreignKeys hlength (serves.owns table htable) declared

/-- A row with all its columns fails for want of nothing if every registered
table gives labels to every row. -/
theorem TableDefinition.FailsWith.not_isLack (fails : definition.FailsWith registry row fault)
    (member : definition ∈ registry.tables)
    (labelled : ∀ other ∈ registry.tables, ∀ key, other.labels key ≠ [])
    (columns : definition.HasColumns row) : ¬fault.IsLack := by
  cases fails with
  | pattern problem => exact not_false
  | badAlias name problem => exact not_false
  | ownLabels unlabelled => exact absurd unlabelled (labelled definition member row)
  | foreignLabels fk foreign key declared registered keyed unlabelled =>
      exact absurd unlabelled (labelled foreign (Registry.mem_of_get? registered).1 key)
  | missing column asked absent =>
      have hpresent : (row.get? column).isSome = true := by
        rcases asked with keyed | ⟨fk, declared, rfl⟩
        · exact columns.key column keyed
        · exact columns.foreign fk declared
      rw [absent] at hpresent
      cases hpresent

theorem Registry.Meets.not_isLack {later : Phase → Database}
    (backed : registry.IsBacked database)
    (serves : ∀ phase, (later phase).Serves database registry)
    (met : registry.Meets (fun phase => (later phase).scan) fault) : ¬fault.IsLack := by
  cases met with
  | scan phase definition problem member broken => exact not_false
  | refusal phase definition row statement problem member yielded => exact not_false
  | row phase definition row fault member yielded fails =>
      have hstreamed : (later phase).Yields definition.table row := by
        cases hscan : (later phase).scan definition.table with
        | error problem =>
            rw [hscan] at yielded
            cases yielded
        | ok scan =>
            rw [hscan] at yielded
            exact ⟨scan, hscan, yielded⟩
      apply fails.not_isLack member fun other hother => (backed other hother).labelled
      exact (backed definition member).hasColumns (serves phase) member hstreamed

/-- That nothing which an engine does with the rows of its tables fails for want
of labels, of a column or of a table, while a database has the tables as they
were when they were registered. -/
structure Engine.LacksNothing (engine : Engine) (database : Database) : Prop where
  rows : ∀ later : Database, later.Serves database engine.registry →
    ∀ definition ∈ engine.registry.tables, ∀ row, later.Yields definition.table row →
      (∃ node, engine.registry.node definition.table row = .ok node) ∧
      ∃ batch, engine.registry.batch definition.table row = .ok batch ∧
        ∀ fault ∈ batch.faults, ¬fault.IsLack
  loads : ∀ later : Phase → Database, (∀ phase, (later phase).Serves database engine.registry) →
    ∀ sink options start,
      match (Load.run engine.registry (fun phase => (later phase).scan) sink options start).2 with
      | .error fault => ¬fault.IsLack
      | .ok report => ∀ fault ∈ report.faults, ¬fault.IsLack
  /-- The same of loads that work on several rows at once. -/
  interleaved : ∀ later : Phase → Database,
    (∀ phase, (later phase).Serves database engine.registry) → ∀ width sent report,
      Load.Completes engine.registry (fun phase => (later phase).scan) width sent report →
        ∀ fault ∈ report.faults, ¬fault.IsLack
  /-- No row that such a load may settle before it stops has a fault of this
  kind, whatever was sent for it. -/
  settled : ∀ later : Phase → Database,
    (∀ phase, (later phase).Serves database engine.registry) →
      ∀ settlement : Load.Settlement,
        settlement.work ∈ Plan.loadWork engine.registry (fun phase => (later phase).scan) →
          ∀ fault ∈ settlement.faults engine.registry, ¬fault.IsLack
  previews : ∀ later : Database, later.Serves database engine.registry →
    ∀ definition ∈ engine.registry.tables, ∀ limit fault,
      (engine.preview later.scan definition.table limit).2 = .error fault → ¬fault.IsLack

theorem Engine.lacksNothing_of_backed {engine : Engine}
    (backed : engine.registry.IsBacked database) :
    engine.LacksNothing database := by
  have hlabelled : ∀ other ∈ engine.registry.tables, ∀ key, other.labels key ≠ [] :=
    fun other hother => (backed other hother).labelled
  refine ⟨?_, ?_, ?_, ?_, ?_⟩
  · intro later serves definition member row streamed
    have registered := Registry.get?_of_mem member
    refine ⟨?_, _, Registry.batch_of_get? registered row, ?_⟩
    · rw [Registry.node_of_get? registered]
      exact ⟨_, TableDefinition.node_of_labels (hlabelled definition member row)⟩
    · intro fault hfault
      have hfails := TableDefinition.failsWith_of_mem_faults hfault
      exact hfails.not_isLack member hlabelled
        ((backed definition member).hasColumns serves member streamed)
  · intro later serves sink options start
    have hmeets := Load.meets_of_run engine.registry (fun phase => (later phase).scan) sink
      options start
    cases hresult : (Load.run engine.registry (fun phase => (later phase).scan) sink options
        start).2 with
    | error fault =>
        rw [hresult] at hmeets
        exact hmeets.not_isLack backed serves
    | ok report =>
        rw [hresult] at hmeets
        exact fun fault hfault => (hmeets fault hfault).not_isLack backed serves
  · intro later serves width sent report completes fault hfault
    exact (Load.meets_of_completes completes fault hfault).not_isLack backed serves
  · intro later serves settlement member fault hfault
    have hread := Plan.isRead_of_mem_loadWork member
    exact (settlement.meets_of_mem_faults hread hfault).not_isLack backed serves
  · intro later serves definition member limit fault hfault
    have hmeets := Preview.meets_of_run member hfault
    exact hmeets.not_isLack backed fun _ => serves

namespace Session

theorem isBacked_engineFor {text : String} {settings : Settings}
    (read : Settings.read text = .ok settings) (env : String → Option String)
    (database : Database) :
    (engineFor (settings.override env) database).1.registry.IsBacked database := by
  have hempty : Registry.empty.IsBacked database := fun _ member => absurd member List.not_mem_nil
  apply engineFor_keeps hempty
  intro mapping hmapping schema hcatalogued before after held inserted
  obtain ⟨added, htables, hjoins⟩ := Registry.tables_of_insert inserted
  have hlabels : added.labels = mapping.labelsOf := (Option.some.inj hjoins.labels).symm
  have htable : added.table = mapping.name := hjoins.table
  have hadded : added.IsBacked database := by
    refine ⟨?_, schema, ?_, hjoins.primaryKey, hjoins.foreignKeys⟩
    · rw [hlabels]
      exact TableMapping.labelsOf_ne_nil (Settings.labels_ne_nil_of_read read mapping hmapping)
    · rwa [htable]
  intro definition member
  rw [htables] at member
  rcases List.mem_append.mp member with hold | hnew
  · exact held definition hold
  · rwa [List.mem_singleton.mp hnew]

/-- With settings that were read from any text, nothing that a session does with
the rows of its tables fails for want of labels, of a column or of a table. -/
theorem settings_rule_out_lacks {text : String} {settings : Settings}
    (read : Settings.read text = .ok settings) (env : String → Option String)
    (database : Database) :
    (engineFor (settings.override env) database).1.LacksNothing database :=
  Engine.lacksNothing_of_backed (isBacked_engineFor read env database)

theorem settings_rule_out_lacks_staff :
    ∃ settings, Settings.read staffText = .ok settings ∧
      let engine := (engineFor (settings.override fun _ => none) staffDatabase).1
      engine.registry.tables = [staffDefinition] ∧
        staffDatabase.Yields "staff"
          (Row.ofList [("id", .int 2), ("floor", .int 3), ("boss_id", .int 1)]) ∧
        staffDatabase.Serves staffDatabase engine.registry ∧
        engine.LacksNothing staffDatabase := by
  obtain ⟨settings, hread, htables⟩ := read_staffText
  have hregistry : (engineFor (settings.override fun _ => none) staffDatabase).1.registry =
      staffRegistry := registry_engineFor_staff htables
  have hfilled : staffDatabase.IsFilled :=
    query_staffScript ▸ Database.isFilled_query_empty staffScript
  have howns : ∀ table ∈ staffDatabase.tables, table.OwnsReferences := by
    intro table member
    rw [List.mem_singleton.mp member, Table.OwnsReferences]
    decide
  refine ⟨settings, hread, congrArg Registry.tables hregistry, ⟨_, rfl, by decide⟩,
    ⟨fun _ _ => rfl, hfilled, howns⟩, ?_⟩
  exact settings_rule_out_lacks hread (fun _ => none) staffDatabase

end Session

end RowGraph
