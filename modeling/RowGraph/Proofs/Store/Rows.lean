import RowGraph.Proofs.Row.Order
import RowGraph.Proofs.Store.References

/-!
What a scan has for every column. If the rows of a table have a cell for each of
its columns, every row of a scan has all columns: those of the primary key and,
where the references of the table are made by columns of its own, those of its
foreign keys. Scripts make no other rows.
-/

namespace RowGraph

/-- That every reference of a table is made by columns of the table. -/
def Table.OwnsReferences (table : Table) : Prop :=
  ∀ reference ∈ table.references, ∀ name ∈ reference.columns, (table.column? name).isSome = true

namespace Table

variable {table : Table} {cells : List Cell}

theorem get?_readRow_of_mem (filled : cells.length = table.columns.length) {column : Column}
    (member : column ∈ table.columns) :
    ((table.readRow cells).get? column.name).isSome = true := by
  have hnames : (List.zipWith readCell table.columns cells).map Prod.fst =
      table.columns.map Column.name := by
    apply (names_readCells_sublist table.columns cells).eq_of_length
    simp [filled]
  rw [readRow, Row.isSome_get?_ofList, hnames]
  exact List.mem_map_of_mem member

theorem get?_readRow_of_mem_key (filled : cells.length = table.columns.length) {name : String}
    (keyed : name ∈ table.key) : ((table.readRow cells).get? name).isSome = true := by
  obtain ⟨column, member, rfl, -⟩ := mem_key_iff.mp keyed
  exact get?_readRow_of_mem filled member

theorem get?_readRow_of_mem_foreignKeys (filled : cells.length = table.columns.length)
    (owns : table.OwnsReferences) {database : Database} {name : String} {fk : ForeignKey}
    (declared : fk ∈ (database.schemaOf name table).foreignKeys) :
    ((table.readRow cells).get? fk.column).isSome = true := by
  obtain ⟨part, hpart, hfk⟩ := List.mem_filterMap.mp declared
  obtain ⟨target, -, rfl⟩ := Option.map_eq_some_iff.mp hfk
  obtain ⟨reference, number, position, own, hreference, hown, rfl⟩ :=
    Database.mem_referenceParts_iff.mp hpart
  have hmember : reference ∈ table.references :=
    List.mem_reverse.mp (List.mem_of_getElem? hreference)
  obtain ⟨column, hcolumn⟩ := Option.isSome_iff_exists.mp
    (owns reference hmember own (List.mem_of_getElem? hown))
  have hspelled : table.spelled own = column.name := by simp [spelled, hcolumn]
  simp only [Reference.part, hspelled]
  exact get?_readRow_of_mem filled (List.mem_of_find?_eq_some hcolumn)

end Table

namespace Database

variable {database after : Database}

/-- That every row has a cell for each column of its table. -/
def IsFilled (database : Database) : Prop :=
  ∀ table ∈ database.tables, ∀ cells ∈ table.rows, cells.length = table.columns.length

def DistinctTables (database : Database) : Prop :=
  (database.tables.map fun table => Text.lowerAscii table.name).Nodup

theorem DistinctTables.of_changes (distinct : database.DistinctTables)
    (changes : database.Changes after) : after.DistinctTables := by
  cases changes with
  | same => exact distinct
  | @rows name table rows found filled =>
      have hnames : (database.setRows name rows).tables.map (fun table =>
          Text.lowerAscii table.name) =
            database.tables.map fun table => Text.lowerAscii table.name := by
        rw [setRows, List.map_map]
        apply List.map_congr_left
        intro other _
        simp only [Function.comp_apply]
        split <;> rfl
      rw [DistinctTables, hnames]
      exact distinct
  | add table free proper =>
      rw [DistinctTables, add, List.map_append, List.nodup_append]
      refine ⟨distinct, List.nodup_singleton _, ?_⟩
      intro lower member added hadded hsame
      obtain ⟨other, hother, rfl⟩ := List.mem_map.mp member
      obtain rfl := List.mem_singleton.mp hadded
      have hnone := List.find?_eq_none.mp free other hother
      simp [Text.sameName, hsame] at hnone

/-- A change leaves rows filled: only the table that is named gets other
rows. -/
theorem IsFilled.of_changes (filled : database.IsFilled) (distinct : database.DistinctTables)
    (changes : database.Changes after) : after.IsFilled := by
  cases changes with
  | same => exact filled
  | @rows name table rows found fill =>
      rw [get?] at found
      have hnamed := List.find?_some found
      have hmember : table ∈ database.tables := List.mem_of_find?_eq_some found
      intro other hother cells hcells
      obtain ⟨before, hbefore, rfl⟩ := List.mem_map.mp hother
      split at hcells
      · rename_i hsame
        have hlower : Text.lowerAscii before.name = Text.lowerAscii table.name := by
          have hfirst : Text.lowerAscii before.name = Text.lowerAscii name := by
            simpa [Text.sameName] using hsame
          have hsecond : Text.lowerAscii table.name = Text.lowerAscii name := by
            simpa [Text.sameName] using hnamed
          exact hfirst.trans hsecond.symm
        obtain rfl := List.inj_on_of_nodup_map distinct hbefore hmember hlower
        rw [if_pos hsame]
        rcases fill cells hcells with hold | hlength
        · exact filled before hbefore cells hold
        · exact hlength
      · rename_i hother
        rw [if_neg hother]
        exact filled before hbefore cells hcells
  | add table free proper =>
      intro other hother cells hcells
      rcases List.mem_append.mp hother with hold | hnew
      · exact filled other hold cells hcells
      · rw [List.mem_singleton.mp hnew] at hcells
        cases hcells

/-- The rows of a database that a script makes from the empty one are filled. -/
theorem isFilled_query_empty (script : List Statement) :
    (Database.empty.query script).2.IsFilled := by
  let holds (database : Database) : Prop := database.DistinctTables ∧ database.IsFilled
  have hempty : holds .empty := by
    refine ⟨List.nodup_nil, ?_⟩
    intro table member
    cases member
  have hkeeps (before after : Database) (held : holds before) (changes : before.Changes after) :
      holds after :=
    ⟨held.1.of_changes changes, held.2.of_changes held.1 changes⟩
  exact (Statement.runAll_keeps hkeeps hempty script []).2

end Database

end RowGraph
