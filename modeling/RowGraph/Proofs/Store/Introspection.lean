import RowGraph.Proofs.Keyed
import RowGraph.Proofs.Row.Lookup
import RowGraph.Proofs.Store.Change
import RowGraph.Proofs.Value.Coerce
import RowGraph.Store.Catalog

/-!
What the catalog of a database and the scans of its tables have in common. Both
take the class of a column from its declaration, so that a value that a scan
yields already fits the class that the catalog gives: fitting it again changes
nothing.

This needs columns with different names. A script makes no other tables, and
every database that scripts make from the empty one is proper in this sense.
-/

namespace RowGraph

namespace Table

variable {table : Table} {cells : List Cell} {name : String} {value : Value}

theorem names_nodup (h : table.DistinctColumns) : (table.columns.map Column.name).Nodup := by
  have hlower : ((table.columns.map Column.name).map Text.lowerAscii).Nodup := by
    rw [List.map_map]
    exact h
  exact List.Nodup.of_map Text.lowerAscii hlower

/-- The columns that a row of cells shows are columns of its table in order. -/
theorem names_readCells_sublist (columns : List Column) (cells : List Cell) :
    ((List.zipWith readCell columns cells).map Prod.fst).Sublist (columns.map Column.name) := by
  induction columns generalizing cells with
  | nil => simp
  | cons column columns ih =>
      cases cells with
      | nil => simp
      | cons cell cells => exact List.Sublist.cons_cons column.name (ih cells)

/-- A value that a row shows is that of a cell, fitted to the class of the
column of its name. -/
theorem get?_readRow (distinct : table.DistinctColumns)
    (h : (table.readRow cells).get? name = some value) :
    ∃ column ∈ table.columns, column.name = name ∧
      ∃ cell : Cell, value = cell.value.fit column.type? := by
  have hnodup : ((List.zipWith readCell table.columns cells).map Prod.fst).Nodup :=
    List.Nodup.sublist (names_readCells_sublist table.columns cells) (names_nodup distinct)
  have hmem : (name, value) ∈ List.zipWith readCell table.columns cells := by
    rw [← Row.columns_ofList hnodup]
    exact Row.mem_columns_iff.mpr h
  obtain ⟨index, hindex, hpair⟩ := List.mem_iff_getElem.mp hmem
  rw [List.getElem_zipWith] at hpair
  obtain ⟨hname, hvalue⟩ := Prod.mk.inj hpair
  exact ⟨_, List.getElem_mem _, hname, _, hvalue.symm⟩

def columnTypes (table : Table) : List (String × ColumnType) :=
  table.columns.map fun column => (column.name, .ofDeclared column.declared)

/-- The schema gives every column the class of its declaration. -/
theorem columnType?_of_mem {column : Column} (distinct : table.DistinctColumns)
    (member : column ∈ table.columns) :
    columnTypeIn? table.columnTypes column.name = some (.ofDeclared column.declared) := by
  have hnames : (table.columnTypes.map Prod.fst).Nodup := by
    simpa [columnTypes, Function.comp_def] using names_nodup distinct
  have hmem : (column.name, ColumnType.ofDeclared column.declared) ∈ table.columnTypes :=
    List.mem_map_of_mem member
  rw [columnTypeIn?, find?_key_of_mem hnames hmem]
  rfl

/-- A value that was fitted to a column fits the class that the schema gives
the column. Without a declared type nothing was fitted, and the schema has the
class of blobs, to which everything fits. -/
theorem fit_type?_coerce (column : Column) (v : Value) :
    (v.fit column.type?).coerce (.ofDeclared column.declared) = v.fit column.type? := by
  unfold Column.type?
  split
  · rename_i hempty
    have hblob : ColumnType.ofDeclared column.declared = .blob := by
      rw [String.isEmpty_iff.mp hempty]
      rfl
    rw [hblob]
    rfl
  · exact Value.coerce_coerce _ v

/-- A value that a scan yields fits the class that the catalog gives its
column. -/
theorem fit_of_get?_readRow (distinct : table.DistinctColumns)
    (h : (table.readRow cells).get? name = some value) :
    value.fit (columnTypeIn? table.columnTypes name) = value := by
  obtain ⟨column, hmember, rfl, cell, rfl⟩ := get?_readRow distinct h
  rw [columnType?_of_mem distinct hmember]
  exact fit_type?_coerce column cell.value

end Table

namespace Database

variable {database after : Database} {name : String} {table : Table} {schema : TableSchema}

/-- A database in which no table has two columns of the same name. -/
def IsProper (database : Database) : Prop :=
  ∀ table ∈ database.tables, table.DistinctColumns

theorem IsProper.of_get? (proper : database.IsProper) (h : database.get? name = some table) :
    table.DistinctColumns :=
  proper table (List.mem_of_find?_eq_some h)

/-- A schema that the catalog gives is that of the table of this name. -/
theorem schemaOf_of_catalog (h : (database.catalog name).2 = .ok schema) :
    ∃ table, database.get? name = some table ∧ schema = database.schemaOf name table := by
  unfold catalog at h
  split at h
  · cases h
  · rename_i table hfound
    dsimp only at h
    split at h
    · cases h
    · exact ⟨table, hfound, (Except.ok.inj h).symm⟩

/-- A row that the scan of a table yields. -/
def Yields (database : Database) (name : String) (row : Row) : Prop :=
  ∃ scan, database.scan name = .ok scan ∧ row ∈ scan.rows

/-- The rows that the scan of a table yields are read from its cells. -/
theorem readRow_of_yields {row : Row} (found : database.get? name = some table)
    (h : database.Yields name row) : ∃ cells ∈ table.rows, table.readRow cells = row := by
  obtain ⟨scan, hscan, streamed⟩ := h
  unfold Database.scan at hscan
  split at hscan
  · rw [found] at hscan
    obtain rfl := Except.ok.inj hscan
    exact List.mem_map.mp streamed
  · cases hscan

/-- A change that a statement makes leaves a proper database proper. -/
theorem IsProper.of_changes (proper : database.IsProper) (changes : database.Changes after) :
    after.IsProper := by
  cases changes with
  | same => exact proper
  | rows table rows found filled =>
      intro other member
      obtain ⟨before, hbefore, rfl⟩ := List.mem_map.mp member
      have hdistinct := proper before hbefore
      split
      · exact hdistinct
      · exact hdistinct
  | add table free distinct =>
      intro other member
      rcases List.mem_append.mp member with hold | hnew
      · exact proper other hold
      · rw [List.mem_singleton.mp hnew]
        exact distinct

/-- The database that a script makes from the empty one is proper. -/
theorem isProper_query_empty (script : List Statement) :
    (Database.empty.query script).2.IsProper := by
  have hempty : Database.empty.IsProper := by
    intro table member
    cases member
  exact Statement.runAll_keeps (fun _ _ => IsProper.of_changes) hempty script []

end Database

end RowGraph
