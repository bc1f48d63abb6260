import RowGraph.Proofs.Registry.Insertion
import RowGraph.Proofs.Registry.Lookup
import RowGraph.Proofs.Relationship.Endpoints
import RowGraph.Proofs.Store.References

/-!
The row that a reference of several columns refers to. Each column of the
reference has an alias, and every one of these stands for the same row: for
each column of the other table's key, the value is that of the column which
this reference pairs with it, whatever other references the table declares and
in whatever order the columns stand. The pairing is made by the catalog from
the declaration and found again in the row by the number of the reference.
-/

namespace RowGraph

open Cypher (Endpoint)

/-- That a table of a database is registered under a name, with the schema that
the catalog gives. -/
structure Registry.Introspects (registry : Registry) (database : Database) (name : String)
    (table : Table) (definition : TableDefinition) : Prop where
  found : database.get? name = some table
  registered : registry.get? name = some definition
  made : ∃ (before after : Registry) (spec : TableSpec) (schema : TableSchema),
    spec.table = name ∧ (database.catalog name).2 = .ok schema ∧
      before.insert spec schema = .ok after ∧ after.tables <+: registry.tables

/-- What a row has for a key column of another table by a reference: the value
of the only column that the reference pairs with it, made to fit the declared
type of the key column. -/
def Reference.Gives (reference : Reference) (child parent : Table) (row : Row)
    (column : String) (value : Value) : Prop :=
  ∃ own found declared,
    (∀ other, (column, other) ∈ reference.pairs child parent ↔ other = own) ∧
    row.get? own = some found ∧ ⟨column, declared⟩ ∈ parent.columns ∧
    value = found.coerce (.ofDeclared declared)

theorem Registry.Introspects.schema_eq {registry : Registry} {database : Database}
    {name : String} {table : Table} {definition : TableDefinition}
    (h : registry.Introspects database name table definition) :
    definition.primaryKey = table.key ∧
      definition.foreignKeys = (database.schemaOf name table).foreignKeys ∧
      definition.columnTypes = table.columnTypes := by
  obtain ⟨before, after, spec, schema, rfl, hcatalog, hinsert, hprefix⟩ := h.made
  obtain ⟨added, htables, hjoins⟩ := Registry.tables_of_insert hinsert
  have hadded : added ∈ registry.tables := by
    apply hprefix.subset
    rw [htables]
    exact List.mem_append_right _ (List.mem_singleton_self added)
  have hget := Registry.get?_of_mem hadded
  rw [hjoins.table, h.registered] at hget
  obtain rfl := Option.some.inj hget
  obtain ⟨found, hfound, rfl⟩ := Database.schemaOf_of_catalog hcatalog
  obtain rfl := Option.some.inj (hfound.symm.trans h.found)
  exact ⟨hjoins.primaryKey, hjoins.foreignKeys, hjoins.columnTypes⟩

namespace TableDefinition

variable {definition foreign : TableDefinition} {registry : Registry} {row known : Row}
  {fk : ForeignKey} {columns : List String}

/-- If every column asked for is supplied, there is a key, and these columns
follow in it those that were known before. -/
theorem foreignKeyRow_of_supplies
    (supplied : ∀ column ∈ columns, ∃ value, definition.Supplies row fk foreign column value)
    (distinct : (known.names ++ columns).Nodup) :
    ∃ key, definition.foreignKeyRow row fk foreign columns known = .ok (some key) ∧
      key.names = known.names ++ columns := by
  -- What is known grows with each column, so the induction is for any of it.
  induction columns generalizing known with
  | nil => exact ⟨known, rfl, (List.append_nil _).symm⟩
  | cons first rest ih =>
      obtain ⟨fitted, own, value, hpaired, hvalue, hnull, rfl⟩ :=
        supplied first (List.mem_cons_self ..)
      have hrest := fun column member => supplied column (List.mem_cons_of_mem first member)
      have hnew : first ∉ known.columns.map Prod.fst := by
        intro member
        exact (List.nodup_append.mp distinct).2.2 first member first (List.mem_cons_self ..) rfl
      have hnames (fitted : Value) : (known.insert first fitted).names ++ rest =
          known.names ++ first :: rest := by
        simp [Row.names, Row.insert, Row.setPair_of_not_mem hnew]
      obtain ⟨key, hkey, hall⟩ := ih hrest ((hnames _).symm ▸ distinct)
      rw [hnames] at hall
      refine ⟨key, ?_, hall⟩
      simp only [foreignKeyRow, hpaired, require, hvalue, hnull, Bool.false_eq_true, if_false]
      exact hkey

theorem foreignKey?_alias (declared : fk ∈ definition.foreignKeys) :
    definition.foreignKey? fk.alias = some fk :=
  find?_key_of_mem definition.aliases_nodup declared

theorem endpoint_alias_eq (declared : fk ∈ definition.foreignKeys) (registry : Registry)
    (row : Row) :
    definition.endpoint registry row fk.alias = definition.foreignEndpoint registry row fk := by
  rw [endpoint, if_neg (definition.own_not_alias fk declared), foreignKey?_alias declared]

theorem endpoint_alias (declared : fk ∈ definition.foreignKeys)
    (registered : registry.get? fk.foreignTable = some foreign) {key : Row}
    (keyed : definition.foreignKeyRow row fk foreign foreign.primaryKey .empty = .ok (some key))
    (labelled : foreign.labels key ≠ []) :
    definition.endpoint registry row fk.alias =
      .ok (some ⟨fk.alias, foreign.labels key, key.columns⟩) := by
  simp [endpoint_alias_eq declared, foreignEndpoint, registered, keyed, labelled]

end TableDefinition

section Reference

variable {database : Database} {registry : Registry} {name : String} {child parent : Table}
  {definition foreign : TableDefinition} {reference : Reference} {row : Row} {number : Nat}

/-- The columns of a reference find each other by its number. -/
theorem paired?_of_pair (source : registry.Introspects database name child definition)
    (referenced : database.get? reference.table = some parent)
    (declared : child.references.reverse[number]? = some reference)
    (covers : reference.Covers parent) {pair : String × String}
    (member : pair ∈ reference.pairs child parent) {column : String}
    (keyed : column ∈ parent.key) :
    ∃ own, (column, own) ∈ reference.pairs child parent ∧
      definition.paired? ⟨number, pair.2, reference.table, pair.1⟩ column =
        some ⟨number, own, reference.table, column⟩ := by
  have hforeign (fk : ForeignKey) := source.schema_eq.2.1 ▸
    Database.mem_foreignKeys_iff declared referenced covers name fk
  rw [TableDefinition.paired?]
  by_cases hsame : column = pair.1
  · subst hsame
    exact ⟨pair.2, member, if_pos rfl⟩
  · rw [if_neg hsame]
    dsimp only
    cases hfound : definition.foreignKeys.find? fun other =>
        other.constraint == (number : Int) && other.foreignColumn == column with
    | none =>
        obtain ⟨own, hown⟩ := covers.exists_pair child keyed
        have hdeclared := ((hforeign _).mpr ⟨_, hown, rfl⟩).1
        simpa using List.find?_eq_none.mp hfound _ hdeclared
    | some found =>
        have hmatches := List.find?_some hfound
        simp only [Bool.and_eq_true, beq_iff_eq] at hmatches
        obtain ⟨other, hother, rfl⟩ :=
          (hforeign found).mp ⟨List.mem_of_find?_eq_some hfound, hmatches.1⟩
        obtain rfl : other.1 = column := hmatches.2
        exact ⟨other.2, hother, rfl⟩

theorem supplies_of_pair (source : registry.Introspects database name child definition)
    (target : registry.Introspects database reference.table parent foreign)
    (declared : child.references.reverse[number]? = some reference)
    (covers : reference.Covers parent)
    (present : ∀ own ∈ reference.columns, ∃ value,
      row.get? (child.spelled own) = some value ∧ value.isNull = false)
    {pair : String × String} (member : pair ∈ reference.pairs child parent) :
    ∀ column ∈ foreign.primaryKey, ∃ value, definition.Supplies row
      ⟨number, pair.2, reference.table, pair.1⟩ foreign column value := by
  intro column keyed
  rw [target.schema_eq.1] at keyed
  obtain ⟨own, hown, hpaired⟩ := paired?_of_pair source target.found declared covers member keyed
  obtain ⟨position, spelling, hname, hspelling, rfl⟩ := Reference.mem_pairs_iff.mp hown
  obtain ⟨value, hvalue, hnull⟩ := present spelling (List.mem_of_getElem? hspelling)
  exact ⟨_, _, value, hpaired, hvalue, hnull, rfl⟩

theorem gives_of_supplies (source : registry.Introspects database name child definition)
    (target : registry.Introspects database reference.table parent foreign)
    (distinct : parent.DistinctColumns)
    (declared : child.references.reverse[number]? = some reference)
    (covers : reference.Covers parent) {pair : String × String}
    (member : pair ∈ reference.pairs child parent) {column : String}
    (keyed : column ∈ parent.key) {value : Value}
    (supplied : definition.Supplies row ⟨number, pair.2, reference.table, pair.1⟩ foreign column
      value) :
    reference.Gives child parent row column value := by
  obtain ⟨own, hown, hpaired⟩ := paired?_of_pair source target.found declared covers member keyed
  obtain ⟨found, read, hfound, hread, _, rfl⟩ := supplied
  obtain rfl := Option.some.inj (hfound.symm.trans hpaired)
  obtain ⟨⟨_, type⟩, hcolumn, rfl, _⟩ := Table.mem_key_iff.mp keyed
  refine ⟨own, read, type, ?_, hread, hcolumn, ?_⟩
  · intro other
    constructor
    · exact covers.pairs_unique distinct hown
    · rintro rfl
      exact hown
  · rw [TableDefinition.columnType?, target.schema_eq.2.2,
      Table.columnType?_of_mem distinct hcolumn]
    rfl

end Reference

/-- Every alias of a reference stands for the row that the reference refers to.
The end has one predicate for each column of the other table's primary key, in
the order of that key, with the value of the column which this reference pairs
with it. -/
theorem Registry.Introspects.endpoint_of_reference {database : Database} {registry : Registry}
    {name : String} {child parent : Table} {definition foreign : TableDefinition}
    {reference : Reference} (proper : database.IsProper)
    (source : registry.Introspects database name child definition)
    (target : registry.Introspects database reference.table parent foreign)
    (declared : reference ∈ child.references) (covers : reference.Covers parent)
    {own : String} (member : own ∈ reference.columns) {row : Row}
    (present : ∀ own ∈ reference.columns, ∃ value,
      row.get? (child.spelled own) = some value ∧ value.isNull = false) :
    ∃ key : Row, parent.IsKey key.names ∧
      (∀ column value, (column, value) ∈ key.columns →
        reference.Gives child parent row column value) ∧
      (foreign.labels key ≠ [] →
        let symbol := aliasOf (child.spelled own)
        definition.endpoint registry row symbol =
          .ok (some ⟨symbol, foreign.labels key, key.columns⟩)) := by
  have hdistinct : parent.DistinctColumns := proper.of_get? target.found
  have hparent : foreign.primaryKey = parent.key := target.schema_eq.1
  obtain ⟨number, hnumber⟩ := List.mem_iff_getElem?.mp (List.mem_reverse.mpr declared)
  obtain ⟨referred, hpair⟩ := covers.exists_pair_of_own child member
  have hdeclared := ((Database.mem_foreignKeys_iff hnumber target.found covers name _).mpr
    ⟨_, hpair, rfl⟩).1
  rw [← source.schema_eq.2.1] at hdeclared
  have hnodup : (Row.empty.names ++ foreign.primaryKey).Nodup := by
    rw [hparent]
    exact Table.nodup_key hdistinct
  obtain ⟨key, hkey, hnames⟩ := TableDefinition.foreignKeyRow_of_supplies
    (supplies_of_pair source target hnumber covers present hpair) hnodup
  refine ⟨key, ?_, ?_, ?_⟩
  · rw [hnames, hparent]
    exact Table.isKey_key hdistinct
  · intro column value hvalue
    obtain ⟨hcolumn, hsupplied⟩ := TableDefinition.supplies_of_mem_foreignKeyRow hkey hvalue
    rw [hparent] at hcolumn
    exact gives_of_supplies source target hdistinct hnumber covers hpair hcolumn hsupplied
  · intro labelled
    exact TableDefinition.endpoint_alias hdeclared target.registered hkey labelled

/-- Editions of books, with a key in another order than the columns. -/
def editionsTable : Table where
  name := "editions"
  columns := [⟨"number", "INTEGER"⟩, ⟨"book_id", "TEXT"⟩]
  primaryKey := ["book_id", "number"]
  references := []
  rows := []

/-- Swaps of one edition for another, with two references to the same table. -/
def swapsTable : Table where
  name := "swaps"
  columns := [⟨"id", "INTEGER"⟩, ⟨"from_number", "TEXT"⟩, ⟨"from_book", "TEXT"⟩,
    ⟨"to_book_id", "TEXT"⟩, ⟨"to_number", "INTEGER"⟩]
  primaryKey := ["id"]
  references := [⟨["from_number", "from_book"], "editions", some ["number", "book_id"]⟩,
    ⟨["to_book_id", "to_number"], "editions", none⟩]
  rows := []

def swapsDatabase : Database := ⟨[editionsTable, swapsTable]⟩

def editionsSpec : TableSpec where
  table := "editions"
  labels := some fun _ => ["Edition"]
  properties := some id
  relationships := none

def swapsSpec : TableSpec where
  table := "swaps"
  labels := some fun _ => ["Swap"]
  properties := some id
  relationships := none

def editionsDefinition : TableDefinition where
  table := "editions"
  primaryKey := ["book_id", "number"]
  foreignKeys := []
  columnTypes := [("number", .integer), ("book_id", .text)]
  labels := fun _ => ["Edition"]
  properties := id
  relationships? := none
  table_isName := by decide
  primaryKey_ne_nil := by decide
  aliases_nodup := by decide
  own_not_alias := by decide

def swapsDefinition : TableDefinition where
  table := "swaps"
  primaryKey := ["id"]
  foreignKeys := [⟨0, "to_book_id", "editions", "book_id"⟩, ⟨0, "to_number", "editions", "number"⟩,
    ⟨1, "from_number", "editions", "number"⟩, ⟨1, "from_book", "editions", "book_id"⟩]
  columnTypes := [("id", .integer), ("from_number", .text), ("from_book", .text),
    ("to_book_id", .text), ("to_number", .integer)]
  labels := fun _ => ["Swap"]
  properties := id
  relationships? := none
  table_isName := by decide
  primaryKey_ne_nil := by decide
  aliases_nodup := by decide
  own_not_alias := by decide

def swapsRegistry : Registry :=
  (Registry.empty.push editionsDefinition (by decide)).push swapsDefinition (by decide)

theorem key_editions : editionsTable.key = ["book_id", "number"] := by
  change List.map Prod.fst (List.mergeSort [("number", (2 : Int)), ("book_id", 1)] _) = _
  simp [List.mergeSort, List.MergeSort.Internal.splitInTwo]

theorem key_swaps : swapsTable.key = ["id"] := by
  change List.map Prod.fst (List.mergeSort [("id", (1 : Int))] _) = _
  rw [List.mergeSort_singleton]
  rfl

theorem introspects_editions :
    swapsRegistry.Introspects swapsDatabase "editions" editionsTable editionsDefinition := by
  have hfound : swapsDatabase.get? "editions" = some editionsTable := rfl
  have hcatalog : (swapsDatabase.catalog "editions").2 =
      .ok ⟨"editions", ["book_id", "number"], [], [("number", .integer), ("book_id", .text)]⟩ := by
    simp only [Database.catalog, hfound, Database.schemaOf, key_editions]
    rfl
  exact ⟨hfound, rfl, .empty, .push .empty editionsDefinition (by decide), editionsSpec, _, rfl,
    hcatalog, rfl, ⟨[swapsDefinition], rfl⟩⟩

theorem introspects_swaps :
    swapsRegistry.Introspects swapsDatabase "swaps" swapsTable swapsDefinition := by
  have hfound : swapsDatabase.get? "swaps" = some swapsTable := rfl
  have hforeign : swapsTable.referenceParts.filterMap swapsDatabase.foreignKey? =
      swapsDefinition.foreignKeys := by
    have hkey : swapsDatabase.keyOf "editions" = ["book_id", "number"] := key_editions
    have hparts : swapsTable.referenceParts =
        [⟨0, 0, "to_book_id", "editions", none⟩, ⟨0, 1, "to_number", "editions", none⟩,
          ⟨1, 0, "from_number", "editions", some "number"⟩,
          ⟨1, 1, "from_book", "editions", some "book_id"⟩] := rfl
    rw [hparts]
    simp [Database.foreignKey?, Database.targetOf?, hkey, swapsDefinition]
  have hcatalog : (swapsDatabase.catalog "swaps").2 =
      .ok ⟨"swaps", ["id"], swapsDefinition.foreignKeys, swapsDefinition.columnTypes⟩ := by
    simp only [Database.catalog, hfound, Database.schemaOf, key_swaps, hforeign]
    rfl
  exact ⟨hfound, rfl, .push .empty editionsDefinition (by decide), swapsRegistry, swapsSpec, _,
    rfl, hcatalog, rfl, List.prefix_rfl⟩

theorem endpoint_of_reference_swaps :
    let reference : Reference :=
      ⟨["from_number", "from_book"], "editions", some ["number", "book_id"]⟩
    let row := Row.ofList [("id", .int 1), ("from_number", .text "2"), ("from_book", .text "b"),
      ("to_book_id", .text "c"), ("to_number", .int 3)]
    swapsDatabase.IsProper ∧
      swapsRegistry.Introspects swapsDatabase "swaps" swapsTable swapsDefinition ∧
      swapsRegistry.Introspects swapsDatabase "editions" editionsTable editionsDefinition ∧
      reference ∈ swapsTable.references ∧ reference.Covers editionsTable ∧
      "from_number" ∈ reference.columns ∧
      (∀ own ∈ reference.columns, ∃ value,
        row.get? (swapsTable.spelled own) = some value ∧ value.isNull = false) ∧
      ∃ key : Row, editionsTable.IsKey key.names ∧
        (∀ column value, (column, value) ∈ key.columns →
          reference.Gives swapsTable editionsTable row column value) ∧
        swapsDefinition.endpoint swapsRegistry row "from_number" =
          .ok (some ⟨"from_number", ["Edition"], key.columns⟩) := by
  intro reference row
  have hproper : swapsDatabase.IsProper := by
    intro table member
    rcases List.mem_pair.mp member with rfl | rfl
    · decide
    · decide
  have hdeclared : reference ∈ swapsTable.references := List.mem_cons_self
  have hcovers : reference.Covers editionsTable := by
    refine ⟨rfl, by decide, ?_⟩
    rw [key_editions]
    decide
  have hmember : "from_number" ∈ reference.columns := List.mem_cons_self
  have hpresent : ∀ own ∈ reference.columns, ∃ value,
      row.get? (swapsTable.spelled own) = some value ∧ value.isNull = false := by
    intro own member
    rcases List.mem_pair.mp member with rfl | rfl
    · exact ⟨.text "2", rfl, rfl⟩
    · exact ⟨.text "b", rfl, rfl⟩
  obtain ⟨key, hkey, hgives, hendpoint⟩ := Registry.Introspects.endpoint_of_reference hproper
    introspects_swaps introspects_editions hdeclared hcovers hmember hpresent
  exact ⟨hproper, introspects_swaps, introspects_editions, hdeclared, hcovers, hmember, hpresent,
    key, hkey, hgives, hendpoint (List.cons_ne_nil _ _)⟩

end RowGraph
