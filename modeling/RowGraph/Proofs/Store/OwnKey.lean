import RowGraph.Proofs.Store.Rebinding
import RowGraph.Proofs.Store.Rows
import RowGraph.Store.Change
import RowGraph.Store.Lookup

/-!
Rows looked up by the key that they were read with. The values of the key are
bound again and compared with the cells of every row. The row that they were
read from is the one that is found if each of its key cells equals what its
value is bound as; no other row then has the same key. If one does not, the row
itself is passed over.
-/

namespace RowGraph

namespace Table

variable {table : Table} {cells other : List Cell} {column : Column}

theorem column?_name (distinct : table.DistinctColumns) (member : column ∈ table.columns) :
    table.column? column.name = some column := by
  have hnames : (table.columns.map fun column => Text.lowerAscii column.name).Nodup := distinct
  exact find?_key_of_mem hnames member

theorem columnIndex?_name (distinct : table.DistinctColumns) {index : Nat}
    (h : table.columns[index]? = some column) : table.columnIndex? column.name = some index := by
  obtain ⟨hinside, rfl⟩ := List.getElem?_eq_some_iff.mp h
  refine List.findIdx?_eq_some_iff_getElem.mpr ⟨hinside, by simp [Text.sameName], ?_⟩
  intro before hbefore hsame
  have hlower : Text.lowerAscii table.columns[before].name =
      Text.lowerAscii table.columns[index].name := by
    simpa [Text.sameName] using hsame
  have hcolumn : table.columns[before] = table.columns[index] :=
    List.inj_on_of_nodup_map distinct (List.getElem_mem _) (List.getElem_mem _) hlower
  have hindices : before = index :=
    (List.Nodup.of_map _ distinct).getElem_inj_iff.mp hcolumn
  omega

theorem operand_name (distinct : table.DistinctColumns) {index : Nat}
    (h : table.columns[index]? = some column) :
    table.operand column.name = .column index column := by
  rw [operand, columnIndex?_name distinct h, column?_name distinct (List.mem_of_getElem? h)]

/-- Whether a row has a value in a column is seen from its cell there. -/
theorem hasPair_name (distinct : table.DistinctColumns) (member : column ∈ table.columns)
    (place : Nat) (cells : List Cell) (value : Value) :
    table.hasPair place cells (column.name, value) =
      (table.cellOf cells column.name).equal
        (column.affinity.fit (Cell.ofValue value).taken) := by
  obtain ⟨index, hindex⟩ := List.mem_iff_getElem?.mp member
  rw [cellOf, columnIndex?_name distinct hindex]
  simp only [hasPair, operand_name distinct hindex, operandAffinity, operandCell]

/-- That two rows have equal cells in every column of the primary key. -/
def SameKey (table : Table) (cells other : List Cell) : Prop :=
  ∀ name ∈ table.key, (table.cellOf cells name).equal (table.cellOf other name) = true

/-- A table with a primary key as a database holds it: its columns have
different names, the cells of its rows are those that the columns can hold, and
no two rows have the same key. -/
structure IsKeyed (table : Table) : Prop where
  distinct : table.DistinctColumns
  keyed : table.key ≠ []
  kept : ∀ cells ∈ table.rows, List.Forall₂ Column.Keeps table.columns cells
  unique : table.rows.Pairwise fun cells other => ¬ table.SameKey cells other

/-- That every cell of a row's key equals what its value is bound as. -/
def Rebinds (table : Table) (cells : List Cell) : Prop :=
  ∀ column ∈ table.columns, column.name ∈ table.key →
    column.Rebinds (table.cellOf cells column.name)

/-- A row has in every column the cell that its value there was read from. -/
theorem get?_readRow_name (distinct : table.DistinctColumns)
    (kept : List.Forall₂ Column.Keeps table.columns cells) (member : column ∈ table.columns) :
    column.Keeps (table.cellOf cells column.name) ∧
      (table.readRow cells).get? column.name =
        some ((table.cellOf cells column.name).value.fit column.type?) := by
  obtain ⟨index, hindex⟩ := List.mem_iff_getElem?.mp member
  obtain ⟨hinside, hcolumn⟩ := List.getElem?_eq_some_iff.mp hindex
  have hfilled : index < cells.length := kept.length_eq ▸ hinside
  have hcell : table.cellOf cells column.name = cells[index] := by
    rw [cellOf, columnIndex?_name distinct hindex]
    simp [hfilled]
  have hnodup : ((List.zipWith readCell table.columns cells).map Prod.fst).Nodup :=
    List.Nodup.sublist (names_readCells_sublist table.columns cells) (names_nodup distinct)
  rw [hcell, ← Row.mem_columns_iff, readRow, Row.columns_ofList hnodup]
  constructor
  · rw [← hcolumn]
    exact kept.get hinside hfilled
  · apply List.mem_iff_getElem?.mpr
    refine ⟨index, ?_⟩
    rw [List.getElem?_zipWith, hindex, List.getElem?_eq_getElem hfilled]
    rfl

/-- The key that a row was read with. -/
def ownKey (table : Table) (cells : List Cell) : Row :=
  (table.readRow cells).select table.key

theorem mem_columns_ownKey {name : String} {value : Value} :
    (name, value) ∈ (table.ownKey cells).columns ↔
      name ∈ table.key ∧ (table.readRow cells).get? name = some value := by
  rw [ownKey, Row.mem_columns_iff, Row.get?_select]
  by_cases hkeyed : name ∈ table.key
  · simp [hkeyed]
  · simp [hkeyed]

/-- A row has the key of another if its cells equal what the key cells of the
other are bound as. The place of the row does not matter. -/
theorem all_hasPair_iff (keyed : table.IsKeyed) (member : cells ∈ table.rows) (place : Nat) :
    (table.ownKey cells).columns.all (table.hasPair place other) = true ↔
      ∀ column ∈ table.columns, column.name ∈ table.key →
        (table.cellOf other column.name).equal
          (column.rebound (table.cellOf cells column.name)) = true := by
  rw [List.all_eq_true]
  constructor
  · intro hall column hcolumn hkeyed
    have ⟨_, hvalue⟩ := get?_readRow_name keyed.distinct (keyed.kept cells member) hcolumn
    have hpair := hall _ (mem_columns_ownKey.mpr ⟨hkeyed, hvalue⟩)
    rwa [hasPair_name keyed.distinct hcolumn] at hpair
  · intro hall pair hpair
    obtain ⟨name, value⟩ := pair
    obtain ⟨hkeyed, hvalue⟩ := mem_columns_ownKey.mp hpair
    obtain ⟨column, hcolumn, rfl, -⟩ := mem_key_iff.mp hkeyed
    have ⟨_, hread⟩ := get?_readRow_name keyed.distinct (keyed.kept cells member) hcolumn
    obtain rfl := Option.some.inj (hread.symm.trans hvalue)
    rw [hasPair_name keyed.distinct hcolumn]
    exact hall column hcolumn hkeyed

/-- The rows that have the key of a row are found by their cells alone. -/
theorem rowsWith_ownKey (keyed : table.IsKeyed) (member : cells ∈ table.rows) :
    table.rowsWith (table.ownKey cells) = table.rows.filter fun other =>
      (table.ownKey cells).columns.all (table.hasPair 0 other) := by
  have hplace : (fun pair : List Cell × Nat =>
      (table.ownKey cells).columns.all (table.hasPair pair.2 pair.1)) =
        (fun other => (table.ownKey cells).columns.all (table.hasPair 0 other)) ∘ Prod.fst := by
    funext pair
    rw [Bool.eq_iff_iff, Function.comp_apply, all_hasPair_iff keyed member,
      all_hasPair_iff keyed member]
  rw [rowsWith]
  simp only [hplace]
  rw [← List.filter_map, List.zipIdx_map_fst]

/-- A row is among those that have its own key exactly if its key cells equal
what their values are bound as. -/
theorem mem_rowsWith_ownKey_iff (keyed : table.IsKeyed) (member : cells ∈ table.rows) :
    cells ∈ table.rowsWith (table.ownKey cells) ↔ table.Rebinds cells := by
  rw [rowsWith_ownKey keyed member, List.mem_filter, all_hasPair_iff keyed member]
  have hcell {column : Column} (hcolumn : column ∈ table.columns) :=
    Column.equal_rebound_iff
      (get?_readRow_name keyed.distinct (keyed.kept cells member) hcolumn).1
  constructor
  · rintro ⟨-, hall⟩ column hcolumn hkeyed
    exact (hcell hcolumn).mp (hall column hcolumn hkeyed)
  · intro hrebinds
    refine ⟨member, ?_⟩
    intro column hcolumn hkeyed
    exact (hcell hcolumn).mpr (hrebinds column hcolumn hkeyed)

/-- No other row has a key that a row has: two rows that do have the same
key. -/
theorem rowsWith_ownKey_of_rebinds (keyed : table.IsKeyed) (member : cells ∈ table.rows)
    (rebinds : table.Rebinds cells) : table.rowsWith (table.ownKey cells) = [cells] := by
  have hown := (mem_rowsWith_ownKey_iff keyed member).mpr rebinds
  have hrows := rowsWith_ownKey keyed member
  have hsame {a b : List Cell} (ha : a ∈ table.rowsWith (table.ownKey cells))
      (hb : b ∈ table.rowsWith (table.ownKey cells)) : table.SameKey a b := by
    rw [hrows, List.mem_filter, all_hasPair_iff keyed member] at ha hb
    intro name hname
    obtain ⟨column, hcolumn, rfl, -⟩ := mem_key_iff.mp hname
    exact Cell.equal_of_equal (ha.2 column hcolumn hname) (hb.2 column hcolumn hname)
  have hdistinct : (table.rowsWith (table.ownKey cells)).Pairwise fun a b =>
      ¬ table.SameKey a b := by
    rw [hrows]
    exact keyed.unique.filter _
  cases hfound : table.rowsWith (table.ownKey cells) with
  | nil =>
      rw [hfound] at hown
      cases hown
  | cons first rest =>
      rw [hfound] at hown hdistinct hsame
      cases rest with
      | nil => rw [List.mem_singleton.mp hown]
      | cons second rest =>
          have hunlike := List.rel_of_pairwise_cons hdistinct (List.mem_cons_self ..)
          exact absurd (hsame (by simp) (by simp)) hunlike

theorem mem_of_firstInKeyOrder? {rows : List (List Cell)}
    (h : table.firstInKeyOrder? rows = some cells) : cells ∈ rows := by
  induction rows generalizing cells with
  | nil => cases h
  | cons first rest ih =>
      rw [firstInKeyOrder?] at h
      split at h
      · rw [← Option.some.inj h]
        exact List.mem_cons_self ..
      · rename_i found hfound
        split at h
        · obtain rfl := Option.some.inj h
          exact List.mem_cons_of_mem _ (ih hfound)
        · rw [← Option.some.inj h]
          exact List.mem_cons_self ..

/-- What a lookup finds is a row that has the key. -/
theorem mem_rowsWith_of_findOne {key row : Row} (h : table.findOne key = some row) :
    ∃ cells ∈ table.rowsWith key, table.readRow cells = row := by
  unfold findOne at h
  obtain ⟨cells, hfound, rfl⟩ := Option.map_eq_some_iff.mp h
  refine ⟨cells, ?_, rfl⟩
  split at hfound
  · exact mem_of_firstInKeyOrder? hfound
  · exact List.mem_of_head? hfound

theorem findOne_of_rowsWith {key : Row} (h : table.rowsWith key = [cells]) :
    table.findOne key = some (table.readRow cells) := by
  simp [findOne, h, firstInKeyOrder?]

end Table

/-- A row of a table with a primary key, looked up by the key that it was read
with, is the row that is found if every cell of its key equals what its value is
bound as. If one does not, the row is not found, unless another row shows the
same. -/
theorem Database.found_by_own_key {database : Database} {name : String} {table : Table}
    (named : Text.isName name = true) (found : database.get? name = some table)
    (keyed : table.IsKeyed) (plain : ∀ column ∈ table.key, Text.isName column = true)
    {cells : List Cell} (member : cells ∈ table.rows) :
    let row := table.readRow cells
    database.Yields name row ∧
      (table.Rebinds cells → database.findOne name (row.select table.key) = .ok (some row)) ∧
      (¬ table.Rebinds cells →
        (∀ other ∈ table.rows, table.readRow other = row → other = cells) →
          database.findOne name (row.select table.key) ≠ .ok (some row)) := by
  intro row
  have hscan : database.scan name = .ok ⟨table.readRows, none⟩ := by
    rw [Database.scan, if_pos named, found]
  have hnames : (name :: (row.select table.key).names).find? (fun text => !Text.isName text) =
      none := by
    rw [List.find?_eq_none]
    intro text htext
    rcases List.mem_cons.mp htext with rfl | hkey
    · simp [named]
    · obtain ⟨pair, hpair, rfl⟩ := List.mem_map.mp hkey
      simp [plain pair.1 (Table.mem_columns_ownKey.mp hpair).1]
  have hlookup : database.findOne name (row.select table.key) =
      .ok (table.findOne (table.ownKey cells)) := by
    rw [Database.findOne, hnames, found]
    rfl
  rw [hlookup]
  refine ⟨⟨_, hscan, List.mem_map_of_mem member⟩, ?_, ?_⟩
  · intro rebinds
    rw [Table.findOne_of_rowsWith (Table.rowsWith_ownKey_of_rebinds keyed member rebinds)]
  · intro hunbound hshown hfound
    obtain ⟨other, hother, hread⟩ := Table.mem_rowsWith_of_findOne (Except.ok.inj hfound)
    have hrow : other ∈ table.rows := by
      rw [Table.rowsWith_ownKey keyed member] at hother
      exact (List.mem_filter.mp hother).1
    obtain rfl := hshown other hrow hread
    exact hunbound ((Table.mem_rowsWith_ownKey_iff keyed member).mp hother)

def morning : Instant := ⟨1709287200, 0, by decide, by decide⟩

/-- Logins by user and time, one with the time as instants are bound and one
with the time in another spelling. -/
def loginsTable : Table where
  name := "logins"
  columns := [⟨"at", "DATETIME"⟩, ⟨"user", "TEXT"⟩, ⟨"attempts", "INTEGER"⟩]
  primaryKey := ["user", "at"]
  references := []
  rows := [[.text morning.utcText.toUTF8, .text "ann".toUTF8, .integer 3],
    [.text "2024-03-01 10:00:00".toUTF8, .text "ben".toUTF8, .null]]

def loginsDatabase : Database := ⟨[loginsTable]⟩

theorem key_logins : loginsTable.key = ["user", "at"] := by
  change List.map Prod.fst (List.mergeSort [("at", (2 : Int)), ("user", 1)] _) = _
  simp [List.mergeSort, List.MergeSort.Internal.splitInTwo]

theorem isKeyed_logins : loginsTable.IsKeyed := by
  have hat {bytes : ByteArray} (h : (Affinity.readNumber? bytes).isNone = true) :
      Column.Keeps ⟨"at", "DATETIME"⟩ (.text bytes) := by
    have haffinity : (Column.mk "at" "DATETIME").affinity = .numeric := by decide +kernel
    apply Column.keeps_text
    rw [haffinity, Affinity.fit, Option.isNone_iff_eq_none.mp h]
    rfl
  have huser (bytes : ByteArray) : Column.Keeps ⟨"user", "TEXT"⟩ (.text bytes) :=
    Column.keeps_text rfl
  have hattempts {cell : Cell} (h : cell = .null ∨ cell = .integer 3) :
      Column.Keeps ⟨"attempts", "INTEGER"⟩ cell := by
    have hclass : (Column.mk "attempts" "INTEGER").type? ≠ some .real := by decide +kernel
    rcases h with rfl | rfl
    · exact ⟨rfl, rfl, fun hreal => absurd hreal hclass⟩
    · exact ⟨rfl, rfl, fun hreal => absurd hreal hclass⟩
  refine ⟨by decide, by simp [key_logins], ?_, ?_⟩
  · intro cells member
    rcases List.mem_pair.mp member with rfl | rfl
    · exact .cons (hat (by decide +kernel)) (.cons (huser _) (.cons (hattempts (.inr rfl)) .nil))
    · exact .cons (hat (by decide +kernel)) (.cons (huser _) (.cons (hattempts (.inl rfl)) .nil))
  · apply List.pairwise_pair.mpr
    intro hsame
    have huser := hsame "user" (by simp [key_logins])
    cases Cell.text_equal_iff.mp huser

theorem found_by_own_key_logins :
    let cells : List Cell := [.text morning.utcText.toUTF8, .text "ann".toUTF8, .integer 3]
    let row := Row.ofList [("at", .timestamp morning), ("user", .text "ann"), ("attempts", .int 3)]
    Text.isName "logins" = true ∧ loginsDatabase.get? "logins" = some loginsTable ∧
      loginsTable.IsKeyed ∧ (∀ column ∈ loginsTable.key, Text.isName column = true) ∧
      cells ∈ loginsTable.rows ∧ loginsTable.Rebinds cells ∧
      loginsDatabase.Yields "logins" row ∧
      loginsDatabase.findOne "logins" (row.select ["user", "at"]) = .ok (some row) := by
  intro cells row
  have named : Text.isName "logins" = true := by decide
  have found : loginsDatabase.get? "logins" = some loginsTable := rfl
  have plain : ∀ column ∈ loginsTable.key, Text.isName column = true := by
    rw [key_logins]
    decide
  have member : cells ∈ loginsTable.rows := List.mem_cons_self
  have rebinds : loginsTable.Rebinds cells := by
    intro column hcolumn hkeyed
    rw [key_logins] at hkeyed
    simp only [loginsTable, List.mem_cons, List.not_mem_nil, or_false] at hcolumn
    rcases hcolumn with rfl | rfl | rfl
    · exact .instant morning rfl (by decide +kernel)
    · exact .text "ann" rfl
    · simp at hkeyed
  have hrow : loginsTable.readRow cells = row := by decide +kernel
  have ⟨hyields, hfound, _⟩ :=
    Database.found_by_own_key named found isKeyed_logins plain member
  rw [hrow] at hyields hfound
  exact ⟨named, found, isKeyed_logins, plain, member, rebinds, hyields,
    key_logins ▸ hfound rebinds⟩

/-- A time in another spelling than instants are bound in is read as an instant
and not found again. -/
theorem not_found_by_own_key_logins :
    let row := Row.ofList [("at", .timestamp morning), ("user", .text "ben"), ("attempts", .null)]
    loginsDatabase.get? "logins" = some loginsTable ∧ loginsTable.IsKeyed ∧
      loginsTable.key = ["user", "at"] ∧ loginsDatabase.Yields "logins" row ∧
      loginsDatabase.findOne "logins" (row.select ["user", "at"]) = .ok none := by
  intro row
  have hread : loginsTable.readRow
      [.text "2024-03-01 10:00:00".toUTF8, .text "ben".toUTF8, .null] = row := by decide +kernel
  have hyields : loginsDatabase.Yields "logins" row := by
    refine ⟨⟨loginsTable.readRows, none⟩, rfl, ?_⟩
    rw [← hread]
    exact List.mem_map_of_mem (List.mem_cons_of_mem _ List.mem_cons_self)
  have hrows : loginsTable.rowsWith (row.select ["user", "at"]) = [] :=
    List.isEmpty_iff.mp (by decide +kernel)
  have hfound : loginsDatabase.findOne "logins" (row.select ["user", "at"]) =
      .ok (loginsTable.findOne (row.select ["user", "at"])) := rfl
  refine ⟨rfl, isKeyed_logins, key_logins, hyields, ?_⟩
  rw [hfound, Table.findOne, hrows]
  simp [Table.firstInKeyOrder?]

end RowGraph
