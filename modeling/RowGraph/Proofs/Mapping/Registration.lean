import RowGraph.Proofs.Registry.History
import RowGraph.Session
import RowGraph.Settings
import RowGraph.Store.Catalog

/-!
Registries that are made from mappings over a database. Their tables were
registered one after another, each from a mapping that has labels and keeps the
key columns among its properties, with the schema that the catalog gives.

An engine makes such registries. It asks the catalog through its cache, which
holds nothing but answers of the catalog, so every table is inserted with the
schema that the catalog gives.
-/

namespace RowGraph

/-- That some columns are among the properties of every row. -/
def TableMapping.Keeps (mapping : TableMapping) (columns : List String) : Prop :=
  ∀ kept, mapping.properties = some kept → ∀ column ∈ columns, column ∈ kept

/-- A mapping that has labels gives every row labels. -/
theorem TableMapping.labelsOf_ne_nil {mapping : TableMapping} (labelled : mapping.labels ≠ [])
    (row : Row) : mapping.labelsOf row ≠ [] := by
  intro hempty
  have hprefix := mapping.prefix_labelsOf row
  rw [hempty] at hprefix
  exact labelled (List.prefix_nil.mp hprefix)

/-- A registry whose tables are all registered from mappings over a database. -/
inductive Registry.Mapped (database : Database) : Registry → Prop where
  | empty : Mapped database .empty
  | insert {before after : Registry} {mapping : TableMapping} {schema : TableSchema}
      (mapped : Mapped database before) (labelled : mapping.labels ≠ [])
      (catalogued : (database.catalog mapping.name).2 = .ok schema)
      (keeps : mapping.Keeps schema.primaryKey)
      (inserted : before.insert mapping.toSpec schema = .ok after) : Mapped database after

structure TableDefinition.MadeFrom (definition : TableDefinition) (database : Database)
    (mapping : TableMapping) (schema : TableSchema) : Prop where
  labelled : mapping.labels ≠ []
  catalogued : (database.catalog mapping.name).2 = .ok schema
  keeps : mapping.Keeps schema.primaryKey
  joins : definition.Joins mapping.toSpec schema

namespace TableDefinition.MadeFrom

variable {definition : TableDefinition} {database : Database} {mapping : TableMapping}
  {schema : TableSchema}

theorem labels_eq (h : definition.MadeFrom database mapping schema) :
    definition.labels = mapping.labelsOf :=
  (Option.some.inj h.joins.labels).symm

theorem properties_eq (h : definition.MadeFrom database mapping schema) :
    definition.properties = mapping.propertiesOf :=
  (Option.some.inj h.joins.properties).symm

end TableDefinition.MadeFrom

/-- All definitions of a mapped registry are made from mappings. -/
theorem Registry.Mapped.of_mem {database : Database} {registry : Registry}
    {definition : TableDefinition} (h : registry.Mapped database)
    (member : definition ∈ registry.tables) :
    ∃ mapping schema, definition.MadeFrom database mapping schema := by
  induction h with
  | empty => cases member
  | insert mapped labelled catalogued keeps inserted ih =>
      obtain ⟨added, htables, hjoins⟩ := Registry.tables_of_insert inserted
      rw [htables] at member
      rcases List.mem_append.mp member with hold | hnew
      · exact ih hold
      · rw [List.mem_singleton.mp hnew]
        exact ⟨_, _, labelled, catalogued, keeps, hjoins⟩

/-- A cache that holds nothing but answers of a catalog. -/
def SchemaCache.Agrees (cache : SchemaCache) (catalog : Catalog) : Prop :=
  ∀ entry ∈ cache.entries, (catalog entry.1).2 = .ok entry.2

namespace Engine

variable {catalog : Catalog} {engine : Engine} {cache : SchemaCache} {transcript : Transcript}

/-- A schema that comes from a cache in agreement with the catalog, or from the
catalog through it, is the one that the catalog gives. -/
theorem catalog_of_askCache (agrees : cache.Agrees catalog) {table : String}
    {schema : TableSchema} (h : (askCache catalog table (cache, transcript)).1 = .ok schema) :
    (catalog table).2 = .ok schema := by
  simp only [askCache, SchemaCache.introspect] at h
  split at h
  · rename_i kept hkept
    obtain rfl := Except.ok.inj h
    obtain ⟨entry, hentry, rfl⟩ := Option.map_eq_some_iff.mp hkept
    have hname : entry.1 = table := by simpa using List.find?_some hentry
    rw [← hname]
    exact agrees entry (List.mem_of_find?_eq_some hentry)
  · split at h
    · rename_i answer _ hasked
      obtain rfl := Except.ok.inj h
      exact congrArg Prod.fst hasked
    · cases h

theorem agrees_askCache (agrees : cache.Agrees catalog) (table : String) :
    (askCache catalog table (cache, transcript)).2.1.Agrees catalog := by
  simp only [askCache, SchemaCache.introspect]
  split
  · exact agrees
  · split
    · rename_i schema _ hasked
      intro entry member
      rcases List.mem_cons.mp member with rfl | hold
      · exact congrArg Prod.fst hasked
      · exact agrees entry hold
    · exact agrees

/-- A registration leaves the cache in agreement with the catalog, and the
registry as it was or with one table more, inserted with the schema that the
catalog gives. -/
theorem register_cases (agrees : engine.cache.Agrees catalog) (spec : TableSpec) :
    (engine.register catalog spec).1.cache.Agrees catalog ∧
      ((engine.register catalog spec).1.registry = engine.registry ∨
        ∃ schema, (catalog spec.table).2 = .ok schema ∧
          engine.registry.insert spec schema = .ok (engine.register catalog spec).1.registry) := by
  obtain ⟨hregistry, hcache, -⟩ := engine.register_step catalog spec
  obtain ⟨answer, -, hdoes⟩ := engine.course.step_does (.register spec (askCache catalog))
  rw [hregistry, hcache]
  generalize (engine.course.step _).registry = after at hdoes ⊢
  generalize (engine.course.step _).state = asked at hdoes ⊢
  have hasked : (askCache catalog spec.table (engine.cache, engine.transcript)).2.1.Agrees
      catalog := agrees_askCache agrees spec.table
  cases answer with
  | error fault =>
      cases hdoes with
      | refused refuses validated => exact ⟨agrees, .inl rfl⟩
      | failed admitted met => exact ⟨hasked, .inl rfl⟩
  | ok definition =>
      obtain ⟨schema, hgiven, hinserted⟩ := hdoes.insert_of_ok
      cases hdoes with
      | added admitted given usable joins stored =>
          exact ⟨hasked, .inr ⟨schema, catalog_of_askCache agrees hgiven, hinserted⟩⟩

end Engine

namespace Session

variable {database : Database}

/-- What holds of a registry and is kept by every insertion of a mapping with the
schema that the database gives holds after mappings have been registered, as
far as that comes. -/
theorem registerAll_keeps {holds : Registry → Prop} {mappings : List TableMapping}
    {engine : Engine} (agrees : engine.cache.Agrees database.catalog)
    (start : holds engine.registry)
    (keeps : ∀ mapping ∈ mappings, ∀ schema, (database.catalog mapping.name).2 = .ok schema →
      ∀ before after, holds before → before.insert mapping.toSpec schema = .ok after →
        holds after) :
    holds (registerAll database.catalog engine mappings).1.registry := by
  induction mappings generalizing engine with
  | nil => exact start
  | cons mapping rest ih =>
      obtain ⟨hagrees, hregistry⟩ := engine.register_cases agrees mapping.toSpec
      have hholds : holds (engine.register database.catalog mapping.toSpec).1.registry := by
        rcases hregistry with hsame | ⟨schema, hcatalogued, hinserted⟩
        · rwa [hsame]
        · exact keeps mapping (List.mem_cons_self ..) schema hcatalogued _ _ start hinserted
      rw [registerAll]
      split
      · rename_i hregister
        rw [hregister] at hholds
        exact hholds
      · rename_i hregister
        rw [hregister] at hagrees hholds
        exact ih hagrees hholds fun other member =>
          keeps other (List.mem_cons_of_mem _ member)

/-- What holds of the empty registry and is kept by every insertion of a mapping
of the settings holds of the registry of a session. -/
theorem engineFor_keeps {holds : Registry → Prop} {settings : Settings} (start : holds .empty)
    (keeps : ∀ mapping ∈ settings.tables, ∀ schema,
      (database.catalog mapping.name).2 = .ok schema →
      ∀ before after, holds before → before.insert mapping.toSpec schema = .ok after →
        holds after) :
    holds (engineFor settings database).1.registry := by
  have hempty : (Engine.new settings.load).cache.Agrees database.catalog := by
    intro entry member
    cases member
  have hall := registerAll_keeps hempty start keeps
  unfold engineFor
  split
  · rename_i hregistered
    rw [hregistered] at hall
    exact hall
  · rename_i hregistered
    rw [hregistered] at hall
    exact hall

/-- The registry of a session whose settings were read from a text and keep the
key columns of their tables is mapped over the database. -/
theorem mapped_engineFor {text : String} {settings : Settings}
    (read : Settings.read text = .ok settings)
    (keeps : ∀ mapping ∈ settings.tables, ∀ schema,
      (database.catalog mapping.name).2 = .ok schema → mapping.Keeps schema.primaryKey) :
    (engineFor settings database).1.registry.Mapped database := by
  apply engineFor_keeps Registry.Mapped.empty
  intro mapping member schema hcatalogued before after hmapped hinserted
  have hlabelled : mapping.labels ≠ [] := Settings.labels_ne_nil_of_read read mapping member
  exact hmapped.insert hlabelled hcatalogued (keeps mapping member schema hcatalogued) hinserted

end Session

end RowGraph
