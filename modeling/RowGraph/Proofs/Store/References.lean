import RowGraph.Proofs.Store.Introspection

/-!
What the catalog makes of a reference. The columns of a reference are foreign
keys with the number of the reference, and no other column has this number, so
that the pairs of one reference never mix with those of another. A reference
pairs its columns with those it names or, if it names none, with the primary
key of the other table, position by position.

The key is in the order of the primary key as declared, whatever the order of
the columns.
-/

namespace RowGraph

namespace Table

variable {table : Table}

/-- That names are those of the columns with a place in the primary key, each
once, in the order of the places. -/
structure IsKey (table : Table) (names : List String) : Prop where
  mem_iff : ∀ name, name ∈ names ↔ ∃ column ∈ table.columns, column.name = name ∧
    0 < table.keyPosition column
  ordered : names.Pairwise fun p q => ∀ a ∈ table.columns, ∀ b ∈ table.columns,
    a.name = p → b.name = q → table.keyPosition a < table.keyPosition b

def places (table : Table) : List (String × Int) :=
  table.columns.map fun column => (column.name, (table.keyPosition column : Int))

theorem mem_key_iff {name : String} :
    name ∈ table.key ↔ ∃ column ∈ table.columns, column.name = name ∧
      0 < table.keyPosition column := by
  simp only [key, namesInKey, List.mem_map, List.mem_mergeSort, List.mem_filter,
    decide_eq_true_eq]
  constructor
  · rintro ⟨pair, ⟨⟨column, hcolumn, rfl⟩, hplace⟩, rfl⟩
    exact ⟨column, hcolumn, rfl, by simpa using hplace⟩
  · rintro ⟨column, hcolumn, rfl, hplace⟩
    exact ⟨_, ⟨⟨column, hcolumn, rfl⟩, by simpa using hplace⟩, rfl⟩

theorem nodup_key (distinct : table.DistinctColumns) : table.key.Nodup := by
  have hnames : (table.places.map Prod.fst).Nodup := by
    simpa [places, Function.comp_def] using names_nodup distinct
  have hkeyed : ((table.places.filter fun pair => 0 < pair.2).map Prod.fst).Nodup :=
    hnames.sublist (List.filter_sublist.map Prod.fst)
  exact ((List.mergeSort_perm _ _).map Prod.fst).nodup_iff.mpr hkeyed

theorem eq_of_keyPosition (distinct : table.DistinctColumns) {a b : Column}
    (ha : a ∈ table.columns) (hb : b ∈ table.columns) (hplace : 0 < table.keyPosition a)
    (hsame : table.keyPosition a = table.keyPosition b) : a = b := by
  have hfound {column : Column} {index : Nat} (h : table.keyPosition column = index + 1) :
      ∃ name, table.primaryKey[index]? = some name ∧
        Text.lowerAscii name = Text.lowerAscii column.name := by
    unfold keyPosition at h
    split at h
    · rename_i found hindex
      obtain rfl : found = index := by omega
      obtain ⟨hbound, hname, _⟩ := List.findIdx?_eq_some_iff_getElem.mp hindex
      exact ⟨_, List.getElem?_eq_getElem hbound, by simpa [Text.sameName] using hname⟩
    · omega
  obtain ⟨index, hindex⟩ : ∃ index, table.keyPosition a = index + 1 :=
    Nat.exists_eq_add_one.mpr hplace
  obtain ⟨name, hname, hlower⟩ := hfound hindex
  obtain ⟨other, hother, hlower'⟩ := hfound (hsame.symm.trans hindex)
  obtain rfl : name = other := Option.some.inj (hname.symm.trans hother)
  exact List.inj_on_of_nodup_map distinct ha hb (hlower.symm.trans hlower')

/-- The key has the columns of the primary key in the order of their places. -/
theorem isKey_key (distinct : table.DistinctColumns) : table.IsKey table.key := by
  refine ⟨fun name => mem_key_iff, ?_⟩
  let keyed := table.places.filter fun pair => 0 < pair.2
  let sorted := keyed.mergeSort fun a b => a.2 ≤ b.2
  have hsorted : sorted.Pairwise fun a b => decide (a.2 ≤ b.2) = true :=
    List.pairwise_mergeSort (by simpa using fun a b c => Int.le_trans)
      (by simpa using fun a b => Int.le_total a b) keyed
  have hnodup : table.key.Nodup := nodup_key distinct
  have hplace {pair : String × Int} {column : Column} (hcolumn : column ∈ table.columns)
      (hname : column.name = pair.1) (member : pair ∈ sorted) :
      pair.2 = table.keyPosition column ∧ 0 < table.keyPosition column := by
    rw [List.mem_mergeSort, List.mem_filter] at member
    obtain ⟨other, hother, rfl⟩ := List.mem_map.mp member.1
    obtain rfl := List.inj_on_of_nodup_map (names_nodup distinct) hother hcolumn hname.symm
    exact ⟨rfl, by simpa using member.2⟩
  unfold key namesInKey at hnodup ⊢
  rw [List.Nodup, List.pairwise_map] at hnodup
  rw [List.pairwise_map]
  apply (hsorted.and hnodup).imp_of_mem
  intro p q hp hq hboth a ha b hb hnameA hnameB
  obtain ⟨hle, hne⟩ := hboth
  obtain ⟨hplaceA, hkeyed⟩ := hplace ha hnameA hp
  obtain ⟨hplaceB, _⟩ := hplace hb hnameB hq
  have hle : p.2 ≤ q.2 := by simpa using hle
  rcases Nat.lt_or_eq_of_le (by omega : table.keyPosition a ≤ table.keyPosition b) with hlt | heq
  · exact hlt
  · have hsame : a = b := eq_of_keyPosition distinct ha hb hkeyed heq
    exact absurd (hnameA.symm.trans ((congrArg Column.name hsame).trans hnameB)) hne

end Table

/-- The spelling of a column in its declaration. -/
def Table.spelled (table : Table) (name : String) : String :=
  ((table.column? name).map Column.name).getD name

namespace Reference

def names (reference : Reference) (parent : Table) : List String :=
  reference.target.getD parent.key

/-- The columns that a reference refers to, each with the column of its own
that is paired with it. -/
def pairs (reference : Reference) (child parent : Table) : List (String × String) :=
  (reference.names parent).zip (reference.columns.map child.spelled)

def part (reference : Reference) (child : Table) (number position : Nat) (own : String) :
    ReferencePart where
  constraint := number
  position := position
  column := child.spelled own
  table := reference.table
  target := reference.target.bind fun names => names[position]?

/-- That a reference pairs its columns with different columns of another table,
the whole primary key among them. -/
def Covers (reference : Reference) (parent : Table) : Prop :=
  match reference.target with
  | some names => names.length = reference.columns.length ∧ names.Nodup ∧
      ∀ column ∈ parent.key, column ∈ names
  | none => reference.columns.length = parent.key.length

variable {reference : Reference} {child parent : Table}

theorem Covers.length_names (covers : reference.Covers parent) :
    (reference.names parent).length = reference.columns.length := by
  unfold Covers at covers
  unfold names
  split at covers
  · rename_i names htarget
    simpa [htarget] using covers.1
  · rename_i htarget
    simpa [htarget] using covers.symm

theorem Covers.length_target (covers : reference.Covers parent) :
    ∀ names ∈ reference.target, names.length = reference.columns.length := by
  intro names htarget
  unfold Covers at covers
  rw [Option.mem_def.mp htarget] at covers
  exact covers.1

theorem Covers.nodup_names (covers : reference.Covers parent)
    (distinct : parent.DistinctColumns) : (reference.names parent).Nodup := by
  unfold Covers at covers
  unfold names
  split at covers
  · rename_i names htarget
    simpa [htarget] using covers.2.1
  · rename_i htarget
    simpa [htarget] using Table.nodup_key distinct

theorem Covers.mem_names (covers : reference.Covers parent) {column : String}
    (member : column ∈ parent.key) : column ∈ reference.names parent := by
  unfold Covers at covers
  unfold names
  split at covers
  · rename_i names htarget
    simpa [htarget] using covers.2.2 column member
  · rename_i htarget
    simpa [htarget] using member

theorem mem_pairs_iff {pair : String × String} :
    pair ∈ reference.pairs child parent ↔ ∃ position : Nat, ∃ own,
      (reference.names parent)[position]? = some pair.1 ∧
      reference.columns[position]? = some own ∧ child.spelled own = pair.2 := by
  simp only [pairs, List.mem_iff_getElem?, List.getElem?_zip_eq_some, List.getElem?_map,
    Option.map_eq_some_iff]
  constructor
  · rintro ⟨position, hname, own, hown, hspelled⟩
    exact ⟨position, own, hname, hown, hspelled⟩
  · rintro ⟨position, own, hname, hown, hspelled⟩
    exact ⟨position, hname, own, hown, hspelled⟩

theorem Covers.exists_pair (covers : reference.Covers parent) (child : Table) {column : String}
    (member : column ∈ parent.key) : ∃ own, (column, own) ∈ reference.pairs child parent := by
  obtain ⟨position, hname⟩ := List.mem_iff_getElem?.mp (covers.mem_names member)
  have hinside : position < reference.columns.length := by
    rw [← covers.length_names]
    exact (List.getElem?_eq_some_iff.mp hname).1
  exact ⟨_, mem_pairs_iff.mpr ⟨position, _, hname, List.getElem?_eq_getElem hinside, rfl⟩⟩

theorem Covers.exists_pair_of_own (covers : reference.Covers parent) (child : Table)
    {own : String} (member : own ∈ reference.columns) :
    ∃ column, (column, child.spelled own) ∈ reference.pairs child parent := by
  obtain ⟨position, hown⟩ := List.mem_iff_getElem?.mp member
  have hinside : position < (reference.names parent).length := by
    rw [covers.length_names]
    exact (List.getElem?_eq_some_iff.mp hown).1
  exact ⟨_, mem_pairs_iff.mpr ⟨position, own, List.getElem?_eq_getElem hinside, hown, rfl⟩⟩

/-- No column is paired with two columns of the reference. -/
theorem Covers.pairs_unique (covers : reference.Covers parent)
    (distinct : parent.DistinctColumns) {column own other : String}
    (hown : (column, own) ∈ reference.pairs child parent)
    (hother : (column, other) ∈ reference.pairs child parent) : other = own := by
  obtain ⟨position, spelling, hname, hspelling, rfl⟩ := mem_pairs_iff.mp hown
  obtain ⟨position', spelling', hname', hspelling', rfl⟩ := mem_pairs_iff.mp hother
  have hinside : position < (reference.names parent).length :=
    (List.getElem?_eq_some_iff.mp hname).1
  obtain rfl : position = position' :=
    (List.getElem?_inj hinside (covers.nodup_names distinct)).mp (hname.trans hname'.symm)
  rw [Option.some.inj (hspelling.symm.trans hspelling')]

end Reference

namespace Database

variable {database : Database} {child parent : Table} {reference : Reference} {number : Nat}

/-- The parts of the references of a table are the columns of each. -/
theorem mem_referenceParts_iff {part : ReferencePart} :
    part ∈ child.referenceParts ↔
      ∃ (reference : Reference) (number position : Nat) (own : String),
        child.references.reverse[number]? = some reference ∧
        reference.columns[position]? = some own ∧
        part = reference.part child number position own := by
  simp only [Table.referenceParts, List.mem_flatMap, List.mem_map, Prod.exists,
    List.mk_mem_zipIdx_iff_getElem?]
  constructor
  · rintro ⟨reference, number, hreference, own, position, hown, rfl⟩
    exact ⟨reference, number, position, own, hreference, hown, rfl⟩
  · rintro ⟨reference, number, position, own, hreference, hown, rfl⟩
    exact ⟨reference, number, hreference, own, position, hown, rfl⟩

/-- The columns that a reference refers to: those that it names, or the primary
key of the other table, if there is one. -/
def targets (database : Database) (reference : Reference) : List String :=
  reference.target.getD (database.keyOf reference.table)

theorem targets_eq_names (referenced : database.get? reference.table = some parent) :
    database.targets reference = reference.names parent := by
  simp [targets, Reference.names, keyOf, referenced]

/-- A column of a reference refers to the one at its position. -/
theorem targetOf?_part
    (matched : ∀ names ∈ reference.target, names.length = reference.columns.length)
    {position : Nat} (inside : position < reference.columns.length) (number : Nat) (own : String) :
    database.targetOf? (reference.part child number position own) =
      (database.targets reference)[position]? := by
  unfold targets targetOf? Reference.part
  cases htarget : reference.target with
  | none => simp
  | some names =>
      have hlength : names.length = reference.columns.length := matched names htarget
      have hname : names[position]? = some names[position] := List.getElem?_eq_getElem _
      simp [hname]

/-- The foreign keys with the number of a reference are its pairs. -/
theorem mem_foreignKeys_iff (declared : child.references.reverse[number]? = some reference)
    (referenced : database.get? reference.table = some parent)
    (covers : reference.Covers parent) (name : String) (fk : ForeignKey) :
    fk ∈ (database.schemaOf name child).foreignKeys ∧ fk.constraint = number ↔
      ∃ pair ∈ reference.pairs child parent,
        fk = ⟨number, pair.2, reference.table, pair.1⟩ := by
  have htarget {position : Nat} {own : String} (h : reference.columns[position]? = some own) :
      database.targetOf? (reference.part child number position own) =
        (reference.names parent)[position]? := by
    rw [targetOf?_part covers.length_target (List.getElem?_eq_some_iff.mp h).1 number own,
      targets_eq_names referenced]
  simp only [Database.schemaOf, List.mem_filterMap, Database.foreignKey?, Option.map_eq_some_iff]
  constructor
  · rintro ⟨⟨part, hpart, target, hrefers, rfl⟩, hnumber⟩
    obtain ⟨other, number', position, own, hother, hown, rfl⟩ := mem_referenceParts_iff.mp hpart
    -- The number tells which reference the part is of.
    obtain rfl : number' = number := Int.ofNat.inj hnumber
    obtain rfl : other = reference := Option.some.inj (hother.symm.trans declared)
    rw [htarget hown] at hrefers
    exact ⟨(target, child.spelled own),
      Reference.mem_pairs_iff.mpr ⟨position, own, hrefers, hown, rfl⟩, rfl⟩
  · rintro ⟨pair, hpair, rfl⟩
    obtain ⟨position, own, hname, hown, hspelled⟩ := Reference.mem_pairs_iff.mp hpair
    have hpart := mem_referenceParts_iff.mpr
      ⟨reference, number, position, own, declared, hown, rfl⟩
    refine ⟨⟨_, hpart, pair.1, (htarget hown).trans hname, ?_⟩, rfl⟩
    rw [← hspelled]
    rfl

end Database

end RowGraph
