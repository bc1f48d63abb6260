import RowGraph.Proofs.Mapping.Registration
import RowGraph.Proofs.Registry.Lookup
import RowGraph.Proofs.Relationship.Statements
import RowGraph.Proofs.Store.Introspection

/-!
The ends of relationships are the nodes of rows. A node has the values of a row
as a scan yields them. The end of a relationship has key values that were
fitted once more, to the class that the catalog gives the key column, and in
the case of a foreign key its labels are those of a row that has nothing but
the key. Both come to the same: a scanned value fits its class already, and a
row that has part of the columns of another has the same labels up to the one
that may come from a column.
-/

namespace RowGraph

open Cypher (Endpoint NodeStatement literal)

/-- That a node has the labels that an end asks for, in front, and for every
key value of the end a property of the same column with the same literal. -/
structure Cypher.Endpoint.Finds (endpoint : Endpoint) (node : NodeStatement) : Prop where
  labels : endpoint.labels <+: node.labels
  key : ∀ column value, (column, value) ∈ endpoint.key →
    ∃ own, (column, own) ∈ node.properties.columns ∧ literal own = literal value

/-- That a row has every column that another has, with the same value. -/
def Row.Extends (row part : Row) : Prop :=
  ∀ column value, part.get? column = some value → row.get? column = some value

namespace TableMapping

variable {mapping : TableMapping} {row part : Row}

theorem get?_propertiesOf {columns : List String} {column : String}
    (keeps : mapping.Keeps columns) (member : column ∈ columns) :
    (mapping.propertiesOf row).get? column = row.get? column := by
  unfold propertiesOf
  split
  · rename_i kept hkept
    rw [Row.get?_select, if_pos (keeps kept hkept column member)]
  · rfl

/-- A row has the labels that a part of it has, in front of its own. -/
theorem labelsOf_prefix (h : row.Extends part) :
    mapping.labelsOf part <+: mapping.labelsOf row := by
  cases hcolumn : mapping.labelColumn with
  | none =>
      have hsame : mapping.labelsOf part = mapping.labelsOf row := by
        simp [labelsOf, columnLabel?, hcolumn]
      simp only [hsame, List.prefix_rfl]
  | some column =>
      cases hpart : part.get? column with
      | none =>
          have hnone : mapping.labelsOf part = mapping.labels := by
            simp [labelsOf, columnLabel?, hcolumn, hpart]
          rw [hnone]
          exact prefix_labelsOf mapping row
      | some value =>
          have hrow : row.get? column = some value := h column value hpart
          have hsame : mapping.labelsOf part = mapping.labelsOf row := by
            simp [labelsOf, columnLabel?, hcolumn, hpart, hrow]
          simp only [hsame, List.prefix_rfl]

end TableMapping

namespace TableDefinition

variable {database : Database} {mapping : TableMapping} {schema : TableSchema}
  {definition foreign : TableDefinition} {registry : Registry} {row found : Row}
  {fk : ForeignKey} {name column : String} {value : Value}

/-- That a row of a referenced table has, in every column of its primary key,
what a row has in the column that the constraint pairs with it. -/
def RefersTo (definition : TableDefinition) (row : Row) (fk : ForeignKey)
    (foreign : TableDefinition) (found : Row) : Prop :=
  ∀ column ∈ foreign.primaryKey, ∀ own, definition.paired? fk column = some own →
    found.get? column = row.get? own.column

namespace MadeFrom

/-- A definition made from a mapping gives every row a node. -/
theorem node_eq (h : definition.MadeFrom database mapping schema) (row : Row) :
    definition.node row = .ok ⟨definition.labels row, definition.properties row⟩ := by
  have hne : definition.labels row ≠ [] := by
    rw [h.labels_eq]
    exact TableMapping.labelsOf_ne_nil h.labelled row
  exact node_of_labels hne

/-- A node has the value of every key column of its row. -/
theorem get?_properties (h : definition.MadeFrom database mapping schema)
    (member : column ∈ definition.primaryKey) :
    (definition.properties row).get? column = row.get? column := by
  rw [h.properties_eq]
  exact TableMapping.get?_propertiesOf h.keeps (h.joins.primaryKey ▸ member)

theorem labels_prefix (h : definition.MadeFrom database mapping schema) {part : Row}
    (extended : row.Extends part) : definition.labels part <+: definition.labels row := by
  rw [h.labels_eq]
  exact TableMapping.labelsOf_prefix extended

/-- The values of a scanned row fit the classes of their columns. -/
theorem fit_of_yields (h : definition.MadeFrom database mapping schema)
    (proper : database.IsProper) (streamed : database.Yields definition.table row)
    (hvalue : row.get? column = some value) :
    value.fit (definition.columnType? column) = value := by
  obtain ⟨table, hfound, rfl⟩ := Database.schemaOf_of_catalog h.catalogued
  rw [h.joins.table] at streamed
  obtain ⟨cells, -, rfl⟩ := Database.readRow_of_yields hfound streamed
  have htypes : definition.columnTypes = table.columnTypes := h.joins.columnTypes
  rw [columnType?, htypes]
  exact Table.fit_of_get?_readRow (proper.of_get? hfound) hvalue

/-- The key of a scanned row is made of properties of its node. -/
theorem mem_properties_of_ownKey (h : definition.MadeFrom database mapping schema)
    (proper : database.IsProper) (streamed : database.Yields definition.table row)
    {pairs : List (String × Value)}
    (keyed : definition.ownKey row definition.primaryKey = .ok pairs)
    (member : (column, value) ∈ pairs) :
    (column, value) ∈ (definition.properties row).columns := by
  obtain ⟨hcolumn, read, hread, rfl⟩ := mem_ownKey keyed member
  have hfit : read.fit (definition.columnType? column) = read :=
    h.fit_of_yields proper streamed hread
  apply Row.mem_columns_iff.mpr
  rw [h.get?_properties hcolumn, hfit]
  exact hread

/-- A scanned row that another refers to extends the key which that row's
foreign key is made into. -/
theorem extends_foreignKeyRow (h : foreign.MadeFrom database mapping schema)
    (proper : database.IsProper) (streamed : database.Yields foreign.table found) {key : Row}
    (keyed : definition.foreignKeyRow row fk foreign foreign.primaryKey .empty = .ok (some key))
    (refers : definition.RefersTo row fk foreign found) : found.Extends key := by
  intro column fitted hfitted
  have member : (column, fitted) ∈ key.columns := Row.mem_columns_iff.mpr hfitted
  obtain ⟨hcolumn, own, value, hpaired, hvalue, _, rfl⟩ :=
    supplies_of_mem_foreignKeyRow keyed member
  have hfound : found.get? column = some value :=
    (refers column hcolumn own hpaired).trans hvalue
  rw [h.fit_of_yields proper streamed hfound]
  exact hfound

end MadeFrom

/-- The alias of a foreign key belongs to no other. -/
theorem eq_of_alias {other : ForeignKey} (hfk : fk ∈ definition.foreignKeys)
    (hother : other ∈ definition.foreignKeys) (halias : fk.alias = other.alias) : fk = other :=
  List.inj_on_of_nodup_map definition.aliases_nodup hfk hother halias

variable {endpoint : Endpoint}

/-- The row itself as an end is its node. -/
theorem Resolves.finds_own (resolved : definition.Resolves registry row name endpoint)
    (own : endpoint.symbol = Pattern.own) (h : definition.MadeFrom database mapping schema)
    (proper : database.IsProper) (streamed : database.Yields definition.table row) :
    endpoint.labels = definition.labels row ∧
      endpoint.Finds ⟨definition.labels row, definition.properties row⟩ := by
  cases resolved with
  | own labelled keyed =>
      refine ⟨rfl, List.prefix_rfl, ?_⟩
      intro column value member
      exact ⟨value, h.mem_properties_of_ownKey proper streamed keyed member, rfl⟩
  | foreign declared registered keyed labelled =>
      exact absurd own (definition.own_not_alias _ declared)

/-- The row that a foreign key refers to is, as an end, the node of every
scanned row that the row refers to. -/
theorem Resolves.finds_foreign (resolved : definition.Resolves registry row name endpoint)
    (declared : fk ∈ definition.foreignKeys) (hsymbol : endpoint.symbol = fk.alias)
    (registered : registry.get? fk.foreignTable = some foreign)
    (h : foreign.MadeFrom database mapping schema) (proper : database.IsProper)
    (streamed : database.Yields foreign.table found)
    (refers : definition.RefersTo row fk foreign found) :
    endpoint.Finds ⟨foreign.labels found, foreign.properties found⟩ := by
  cases resolved with
  | own labelled keyed => exact absurd hsymbol.symm (definition.own_not_alias fk declared)
  | foreign declared' registered' keyed labelled =>
      obtain rfl := eq_of_alias declared' declared hsymbol
      obtain rfl := Option.some.inj (registered'.symm.trans registered)
      have hextends := h.extends_foreignKeyRow proper streamed keyed refers
      refine ⟨h.labels_prefix hextends, ?_⟩
      intro column value member
      have hcolumn := (supplies_of_mem_foreignKeyRow keyed member).1
      have hvalue : found.get? column = some value :=
        hextends column value (Row.mem_columns_iff.mp member)
      refine ⟨value, Row.mem_columns_iff.mpr ?_, rfl⟩
      rw [h.get?_properties hcolumn]
      exact hvalue

end TableDefinition

/-- Every end of a relationship of a scanned row finds the nodes that it stands
for. The row itself has the node with exactly the labels of the end, and every
scanned row of a referenced table that the row refers to has a node with at
least these labels; either way the node has a property with the same literal
for every key value of the end. -/
theorem Registry.Mapped.ends_find_nodes {database : Database} {registry : Registry}
    (mapped : registry.Mapped database) (proper : database.IsProper) {table : String}
    {definition : TableDefinition} (registered : registry.get? table = some definition)
    {row : Row} (streamed : database.Yields table row) {pattern : Pattern}
    {statement : Cypher.EdgeStatement}
    (linked : definition.outcome registry row pattern = .linked statement) {endpoint : Endpoint}
    (isEnd : endpoint ∈ [statement.source, statement.target]) :
    (endpoint.symbol = Pattern.own →
      ∃ node, registry.node table row = .ok node ∧ endpoint.labels = node.labels ∧
        endpoint.Finds node) ∧
    ∀ fk ∈ definition.foreignKeys, endpoint.symbol = fk.alias →
      ∀ foreign, registry.get? fk.foreignTable = some foreign →
        ∀ found, database.Yields fk.foreignTable found →
          definition.RefersTo row fk foreign found →
            ∃ node, registry.node fk.foreignTable found = .ok node ∧ endpoint.Finds node := by
  obtain ⟨link, _, _, hsource, htarget, _⟩ := TableDefinition.linked_of_outcome linked
  have hresolved : ∃ name, definition.Resolves registry row name endpoint := by
    rcases List.mem_pair.mp isEnd with rfl | rfl
    · exact ⟨_, TableDefinition.resolves_of_endpoint hsource⟩
    · exact ⟨_, TableDefinition.resolves_of_endpoint htarget⟩
  obtain ⟨name, resolved⟩ := hresolved
  have ⟨hmember, htable⟩ := Registry.mem_of_get? registered
  obtain ⟨mapping, schema, hmade⟩ := mapped.of_mem hmember
  constructor
  · intro own
    have ⟨hlabels, hfinds⟩ := resolved.finds_own own hmade proper (htable ▸ streamed)
    exact ⟨_, (Registry.node_of_get? registered row).trans (hmade.node_eq row), hlabels, hfinds⟩
  · intro fk declared hsymbol foreign hforeign found hyields refers
    have ⟨hforeignMember, hforeignTable⟩ := Registry.mem_of_get? hforeign
    obtain ⟨_, _, hforeignMade⟩ := mapped.of_mem hforeignMember
    have hfinds := resolved.finds_foreign declared hsymbol hforeign hforeignMade proper
      (hforeignTable ▸ hyields) refers
    exact ⟨_, (Registry.node_of_get? hforeign found).trans (hforeignMade.node_eq found), hfinds⟩

def staffTable : Table where
  name := "staff"
  columns := [⟨"id", "INTEGER"⟩, ⟨"floor", "INTEGER"⟩, ⟨"boss_id", "INTEGER"⟩]
  primaryKey := ["id"]
  references := [⟨["boss_id"], "staff", some ["id"]⟩]
  rows := [[.integer 1, .integer 9, .null], [.integer 2, .integer 3, .integer 1]]

def staffSchema : TableSchema where
  table := "staff"
  primaryKey := ["id"]
  foreignKeys := [⟨0, "boss_id", "staff", "id"⟩]
  columnTypes := [("id", .integer), ("floor", .integer), ("boss_id", .integer)]

/-- The floor is a label, which the end of a foreign key does not have. -/
def staffMapping : TableMapping where
  name := "staff"
  labels := ["Person"]
  labelColumn := some "floor"
  properties := some ["id"]
  relationships := [.shorthand "(this)-[:WORKS_FOR]->(boss)"]

def staffDefinition : TableDefinition where
  table := "staff"
  primaryKey := staffSchema.primaryKey
  foreignKeys := staffSchema.foreignKeys
  columnTypes := staffSchema.columnTypes
  labels := staffMapping.labelsOf
  properties := staffMapping.propertiesOf
  relationships? := some fun _ => staffMapping.relationships
  table_isName := by decide
  primaryKey_ne_nil := by decide
  aliases_nodup := by decide
  own_not_alias := by decide

def staffRegistry : Registry := .push .empty staffDefinition (by decide)

def staffDatabase : Database := ⟨[staffTable]⟩

def staffScript : List Statement :=
  [.create staffTable, .insert "staff" [.integer 1, .integer 9, .null],
    .insert "staff" [.integer 2, .integer 3, .integer 1]]

/-- The staff table with other rows, as it is while the script runs. -/
def staffHolding (rows : List (List Cell)) : Table :=
  { staffTable with rows }

theorem key_staffHolding (rows : List (List Cell)) : (staffHolding rows).key = ["id"] := by
  change List.map Prod.fst (List.mergeSort [("id", (1 : Int))] _) = ["id"]
  rw [List.mergeSort_singleton]
  rfl

theorem insertRow?_staffHolding {rows : List (List Cell)} {id : Int64} {floor boss : Cell}
    (free : (staffHolding rows).hasKeyOf [.integer id, floor, boss] = false)
    (kept : ((staffHolding rows).references.all fun reference =>
      Database.isOwnParent (staffHolding rows) [.integer id, floor, boss] reference ||
        (Database.mk [staffHolding rows]).satisfies (staffHolding rows) rows reference
          [.integer id, floor, boss]) = true) :
    (Database.mk [staffHolding rows]).insertRow? "staff" [.integer id, floor, boss] =
      some ⟨[staffHolding ((staffHolding rows).place [.integer id, floor, boss] rows)]⟩ := by
  have hname : Text.sameName "staff" "staff" = true := by decide
  have hfound : (Database.mk [staffHolding rows]).get? "staff" = some (staffHolding rows) :=
    List.find?_cons_of_pos hname
  have hplaced : (if (staffHolding rows).isNumbered then
      (staffHolding rows).numbered? [.integer id, floor, boss]
        else some [.integer id, floor, boss]) = some [.integer id, floor, boss] := by
    rw [Table.isNumbered, Table.numbered?, key_staffHolding]
    rfl
  exact Database.insertRow?_eq_some_iff.mpr ⟨_, _, hfound, rfl, hplaced, free, kept,
    congrArg (fun table => Database.mk [table]) (if_pos hname)⟩

theorem query_staffScript : (Database.empty.query staffScript).2 = staffDatabase := by
  let boss := [Cell.integer 1, .integer 9, .null]
  let worker := [Cell.integer 2, .integer 3, .integer 1]
  have hcreated : Database.empty.create? staffTable = some ⟨[staffHolding []]⟩ := rfl
  have hboss : (Database.mk [staffHolding []]).insertRow? "staff" boss =
      some ⟨[staffHolding [boss]]⟩ :=
    insertRow?_staffHolding (by decide +kernel) (by decide +kernel)
  -- the boss has the lower number, so the worker goes behind
  have hbehind : ((staffHolding [boss]).isNumbered &&
      Cell.orderRows ((staffHolding [boss]).keyCells worker)
        ((staffHolding [boss]).keyCells boss) == .lt) = false := by
    decide +kernel
  have hworker : (Database.mk [staffHolding [boss]]).insertRow? "staff" worker =
      some staffDatabase := by
    rw [insertRow?_staffHolding (by decide +kernel) (by decide +kernel), Table.place,
      hbehind]
    rfl
  simp only [Database.query, staffScript, Statement.runAll, Statement.run?, hcreated,
    Option.map_some, List.map_cons, List.map_nil, Cell.taken, boss, worker, hboss, hworker]

theorem catalog_staff : (staffDatabase.catalog "staff").2 = .ok staffSchema := by
  have hschema : staffDatabase.schemaOf "staff" staffTable = staffSchema := by
    have hkey : staffTable.key = ["id"] := key_staffHolding staffTable.rows
    rw [Database.schemaOf, hkey]
    rfl
  have hget : staffDatabase.get? "staff" = some staffTable := rfl
  simp only [Database.catalog, hget, hschema]
  rfl

def staffText : String :=
  "[[tables]]\nname = \"staff\"\nlabels = [\"Person\"]\nlabel_column = \"floor\"\n" ++
    "properties = [\"id\"]\nrelationships = [\"(this)-[:WORKS_FOR]->(boss)\"]\n"

theorem read_staffText :
    ∃ settings, Settings.read staffText = .ok settings ∧ settings.tables = [staffMapping] := by
  have hread : (match Settings.read staffText with
      | .ok settings => settings.tables == [staffMapping]
      | .error _ => false) = true := by decide +kernel
  cases hsettings : Settings.read staffText with
  | error fault =>
      rw [hsettings] at hread
      cases hread
  | ok settings =>
      rw [hsettings] at hread
      exact ⟨settings, rfl, by simpa using hread⟩

theorem registry_engineFor_staff {settings : Settings} (tables : settings.tables = [staffMapping]) :
    (Session.engineFor settings staffDatabase).1.registry = staffRegistry := by
  have hasked (transcript : Transcript) : ∃ state,
      Engine.askCache staffDatabase.catalog "staff" (.empty, transcript) =
        (.ok staffSchema, state) := by
    obtain ⟨entries, hcatalog⟩ : ∃ entries,
        staffDatabase.catalog "staff" = (entries, .ok staffSchema) :=
      ⟨_, Prod.ext rfl catalog_staff⟩
    simp only [Engine.askCache, SchemaCache.introspect, Engine.ask, hcatalog]
    exact ⟨_, rfl⟩
  have hmade : ∃ state, Registry.empty.register staffMapping.toSpec
      (Engine.askCache staffDatabase.catalog) (.empty, .empty) = (.ok staffRegistry, state) := by
    obtain ⟨state, hstate⟩ := hasked .empty
    have hname : staffMapping.toSpec.table = "staff" := rfl
    simp only [Registry.register, hname, hstate]
    exact ⟨state, rfl⟩
  have hregistered : ∃ engine definition, (Engine.new settings.load).register
      staffDatabase.catalog staffMapping.toSpec = (engine, .ok definition) ∧
        engine.registry = staffRegistry := by
    obtain ⟨state, hstate⟩ := hmade
    simp only [Engine.register, Engine.new, hstate]
    exact ⟨_, _, rfl, rfl⟩
  obtain ⟨engine, definition, hregister, hregistry⟩ := hregistered
  rw [Session.engineFor, tables, Session.registerAll, hregister]
  exact hregistry

theorem mapped_staff : staffRegistry.Mapped staffDatabase := by
  obtain ⟨settings, hread, htables⟩ := read_staffText
  rw [← registry_engineFor_staff htables]
  apply Session.mapped_engineFor hread
  intro mapping member schema hcatalogued kept hkept column keyed
  rw [htables] at member
  obtain rfl := List.mem_singleton.mp member
  obtain rfl := Except.ok.inj (catalog_staff.symm.trans hcatalogued)
  obtain rfl := Option.some.inj hkept
  exact keyed

theorem proper_staff : staffDatabase.IsProper :=
  query_staffScript ▸ Database.isProper_query_empty staffScript

theorem ends_find_nodes_staff :
    let worker := Row.ofList [("id", .int 2), ("floor", .int 3), ("boss_id", .int 1)]
    let boss := Row.ofList [("id", .int 1), ("floor", .int 9), ("boss_id", .null)]
    staffRegistry.Mapped staffDatabase ∧ staffDatabase.IsProper ∧
      staffDatabase.Yields "staff" worker ∧ staffDatabase.Yields "staff" boss ∧
      staffDefinition.RefersTo worker ⟨0, "boss_id", "staff", "id"⟩ staffDefinition boss ∧
      ∃ statement, staffDefinition.outcome staffRegistry worker
          (.shorthand "(this)-[:WORKS_FOR]->(boss)") = .linked statement ∧
        (∃ node, staffRegistry.node "staff" worker = .ok node ∧
          statement.source.labels = node.labels ∧ statement.source.Finds node) ∧
        ∃ node, staffRegistry.node "staff" boss = .ok node ∧ statement.target.Finds node := by
  intro worker boss
  have hlinked : staffDefinition.outcome staffRegistry worker
      (.shorthand "(this)-[:WORKS_FOR]->(boss)") = .linked
        ⟨⟨"this", ["Person", "3"], [("id", .int 2)]⟩,
          ⟨"boss", ["Person"], [("id", .int 1)]⟩, "WORKS_FOR"⟩ := by
    decide
  have hscan : staffDatabase.scan "staff" = .ok ⟨[boss, worker], none⟩ := rfl
  have hworker : staffDatabase.Yields "staff" worker := ⟨_, hscan, by simp⟩
  have hboss : staffDatabase.Yields "staff" boss := ⟨_, hscan, by simp⟩
  have hregistered : staffRegistry.get? "staff" = some staffDefinition := rfl
  have hrefers : staffDefinition.RefersTo worker ⟨0, "boss_id", "staff", "id"⟩ staffDefinition
      boss := by
    intro column member own hpaired
    obtain rfl := List.mem_singleton.mp member
    obtain rfl := Option.some.inj hpaired
    rfl
  have hsource := (mapped_staff.ends_find_nodes proper_staff hregistered hworker hlinked
    List.mem_cons_self).1 rfl
  have htarget := (mapped_staff.ends_find_nodes proper_staff hregistered hworker hlinked
    (List.mem_cons_of_mem _ List.mem_cons_self)).2 _ List.mem_cons_self rfl staffDefinition
      hregistered boss hboss hrefers
  exact ⟨mapped_staff, proper_staff, hworker, hboss, hrefers, _, hlinked, hsource, htarget⟩

end RowGraph
