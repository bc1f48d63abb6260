import Mathlib.Data.List.Sigma
import Mathlib.Data.List.TakeDrop
import RowGraph.Proofs.Keyed
import RowGraph.Proofs.Store.References

/-!
The foreign keys of a table, constraint by constraint. They stand in the order of
the numbers of the constraints. A constraint pairs its columns in their order
with the columns that it names or, if it names none, with the key of the other
table, as far as the shorter of the two goes.

A constraint that names columns is therefore there as a whole. One that names
none is there as a whole if the key of the other table has a column for each of
its own, and it is not there at all if there is no such key. Between the two a
part of the constraint is there: a position at which the key has no column
leaves out the column at this position and not the others.
-/

namespace RowGraph

theorem pairwise_snd_zipIdx {α : Type} (items : List α) :
    items.zipIdx.Pairwise fun a b => a.2 < b.2 := by
  rw [← List.pairwise_map (f := Prod.snd) (R := (· < ·)), List.zipIdx_map_snd]
  exact List.pairwise_lt_range'

theorem filterMap_zipIdx_eq_zipWith {α β γ : Type} (f : α → β → γ) (first : List α)
    (second : List β) (start : Nat) :
    ((first.zipIdx start).filterMap fun item => second[item.2]?.map (f item.1)) =
      List.zipWith f first (second.drop start) := by
  induction first generalizing start with
  | nil => rfl
  | cons a rest ih =>
      rw [List.zipIdx_cons, List.filterMap_cons, ih (start + 1)]
      cases hsecond : second[start]? with
      | none =>
          have hend : second.length ≤ start := List.getElem?_eq_none_iff.mp hsecond
          rw [List.drop_of_length_le hend,
            List.drop_of_length_le (Nat.le_succ_of_le hend), List.zipWith_nil_right,
            List.zipWith_nil_right]
          rfl
      | some b =>
          obtain ⟨hinside, rfl⟩ := List.getElem?_eq_some_iff.mp hsecond
          rw [List.drop_eq_getElem_cons hinside]
          rfl

namespace Reference

/-- That a reference has columns, and names as many of another table if it
names any; no other reference can be declared. -/
structure IsMatched (reference : Reference) : Prop where
  columns_ne_nil : reference.columns ≠ []
  length_target : ∀ names ∈ reference.target, names.length = reference.columns.length

def entry (reference : Reference) (child : Table) (number : Nat) (own target : String) :
    ForeignKey where
  constraint := number
  column := child.spelled own
  foreignTable := reference.table
  foreignColumn := target

/-- The foreign keys of a reference that pairs its columns with others in their
order. -/
def entries (reference : Reference) (child : Table) (number : Nat) (targets : List String) :
    List ForeignKey :=
  List.zipWith (reference.entry child number) reference.columns targets

end Reference

namespace Database

/-- That a reference names no columns and the key of the other table has none at
one of its positions. -/
def LeavesOpen (database : Database) (reference : Reference) : Prop :=
  reference.target = none ∧
    ∃ position < reference.columns.length, (database.keyOf reference.table)[position]? = none

/-- That a reference names no columns and the other table has a key, but one of
fewer columns. -/
def Outgrows (database : Database) (reference : Reference) : Prop :=
  reference.target = none ∧ database.keyOf reference.table ≠ [] ∧
    (database.keyOf reference.table).length < reference.columns.length

def keysOf (database : Database) (child : Table) (reference : Reference) (number : Nat) :
    List ForeignKey :=
  reference.columns.zipIdx.filterMap fun (own, position) =>
    database.foreignKey? (reference.part child number position own)

variable {database : Database} {child : Table} {reference : Reference} {number : Nat}

theorem foreignKeys_eq_flatMap (database : Database) (name : String) (child : Table) :
    (database.schemaOf name child).foreignKeys = child.references.reverse.zipIdx.flatMap
      fun (reference, number) => database.keysOf child reference number := by
  simp only [schemaOf, Table.referenceParts, List.filterMap_flatMap, List.filterMap_map]
  rfl

theorem constraint_of_mem_keysOf {fk : ForeignKey}
    (member : fk ∈ database.keysOf child reference number) : fk.constraint = number := by
  obtain ⟨⟨own, position⟩, -, hentry⟩ := List.mem_filterMap.mp member
  obtain ⟨target, -, rfl⟩ := Option.map_eq_some_iff.mp hentry
  rfl

theorem pairwise_constraint (database : Database) (name : String) (child : Table) :
    (database.schemaOf name child).foreignKeys.Pairwise
      fun a b => a.constraint ≤ b.constraint := by
  rw [foreignKeys_eq_flatMap, List.pairwise_flatMap]
  -- Within a constraint the numbers are equal, and from one to the next they grow.
  constructor
  · intro item _
    apply List.pairwise_of_forall_mem_list
    intro a ha b hb
    exact Int.le_of_eq ((constraint_of_mem_keysOf ha).trans (constraint_of_mem_keysOf hb).symm)
  · apply (pairwise_snd_zipIdx child.references.reverse).imp
    intro first second hlt a ha b hb
    rw [constraint_of_mem_keysOf ha, constraint_of_mem_keysOf hb]
    omega

theorem exists_constraint {name : String} {fk : ForeignKey}
    (member : fk ∈ (database.schemaOf name child).foreignKeys) :
    ∃ number : Nat, number < child.references.length ∧ fk.constraint = number := by
  rw [foreignKeys_eq_flatMap, List.mem_flatMap] at member
  obtain ⟨⟨reference, number⟩, hitem, hfk⟩ := member
  have hinside : number < child.references.reverse.length :=
    (List.getElem?_eq_some_iff.mp (List.mk_mem_zipIdx_iff_getElem?.mp hitem)).1
  exact ⟨number, by simpa using hinside, constraint_of_mem_keysOf hfk⟩

/-- The foreign keys with the number of a constraint are those that are made of
it. -/
theorem filter_constraint (declared : child.references.reverse[number]? = some reference)
    (name : String) :
    (database.schemaOf name child).foreignKeys.filter (fun fk => fk.constraint == (number : Int)) =
      database.keysOf child reference number := by
  have hmember : (reference, number) ∈ child.references.reverse.zipIdx :=
    List.mk_mem_zipIdx_iff_getElem?.mpr declared
  rw [foreignKeys_eq_flatMap, List.filter_flatMap,
    flatMap_of_key (List.nodup_zipIdx_map_snd _) hmember]
  · rw [List.filter_eq_self]
    intro fk hfk
    simp [constraint_of_mem_keysOf hfk]
  · -- No other reference has this number.
    intro other _ hne
    rw [List.filter_eq_nil_iff]
    intro fk hfk
    have hnumber : fk.constraint = other.2 := constraint_of_mem_keysOf hfk
    simp only [beq_iff_eq, hnumber]
    omega

theorem keysOf_eq_entries (matched : reference.IsMatched) (child : Table) (number : Nat) :
    database.keysOf child reference number =
      reference.entries child number (database.targets reference) := by
  have hpart : ∀ item ∈ reference.columns.zipIdx,
      database.foreignKey? (reference.part child number item.2 item.1) =
        (database.targets reference)[item.2]?.map (reference.entry child number item.1) := by
    rintro ⟨own, position⟩ hitem
    have hinside : position < reference.columns.length :=
      (List.getElem?_eq_some_iff.mp (List.mk_mem_zipIdx_iff_getElem?.mp hitem)).1
    rw [foreignKey?, targetOf?_part matched.length_target hinside]
    rfl
  rw [keysOf, List.filterMap_congr hpart]
  exact filterMap_zipIdx_eq_zipWith _ reference.columns (database.targets reference) 0

theorem leavesOpen_iff : database.LeavesOpen reference ↔ reference.target = none ∧
    (database.keyOf reference.table).length < reference.columns.length := by
  simp only [LeavesOpen, List.getElem?_eq_none_iff]
  constructor
  · rintro ⟨hnone, position, hinside, hend⟩
    exact ⟨hnone, Nat.lt_of_le_of_lt hend hinside⟩
  · rintro ⟨hnone, hlt⟩
    exact ⟨hnone, _, hlt, Nat.le_refl _⟩

/-- The columns of a constraint that are there are those in front, as many as it
refers to. -/
theorem map_column_entries (reference : Reference) (child : Table) (number : Nat)
    (targets : List String) :
    (reference.entries child number targets).map ForeignKey.column =
      (reference.columns.map child.spelled).take targets.length := by
  rw [Reference.entries, List.map_zipWith]
  induction reference.columns generalizing targets with
  | nil => simp
  | cons own rest ih =>
      cases targets with
      | nil => rfl
      | cons target targets =>
          rw [List.zipWith_cons_cons, ih]
          rfl

/-- A constraint is there as a whole unless it leaves a position open. -/
theorem map_column_eq_iff (matched : reference.IsMatched) (child : Table) (number : Nat) :
    (reference.entries child number (database.targets reference)).map ForeignKey.column =
      reference.columns.map child.spelled ↔ ¬database.LeavesOpen reference := by
  rw [map_column_entries, List.take_eq_self_iff, List.length_map, leavesOpen_iff, targets]
  cases htarget : reference.target with
  | none => simp
  | some names => simp [matched.length_target names htarget]

/-- A constraint is not there at all exactly if it refers to a key that is not
there. -/
theorem entries_eq_nil_iff (matched : reference.IsMatched) (child : Table) (number : Nat) :
    reference.entries child number (database.targets reference) = [] ↔
      reference.target = none ∧ database.keyOf reference.table = [] := by
  rw [Reference.entries, List.zipWith_eq_nil_iff, targets]
  cases htarget : reference.target with
  | none => simp [matched.columns_ne_nil]
  | some names =>
      have hnames : names ≠ [] := by
        rintro rfl
        exact matched.columns_ne_nil (List.length_eq_zero_iff.mp
          (matched.length_target [] htarget).symm)
      simp [matched.columns_ne_nil, hnames]

/-- The foreign keys of a table are in the order of their constraints, and each
is of one. A constraint is there with its columns in their order, each paired
with the column that it names or with that of the key at the same position. It
is there as a whole or not at all exactly if it does not outgrow the key of the
other table, and then it is not there exactly if it names no columns and one of
its positions has no column of the key. -/
theorem foreignKeys_by_constraint (database : Database) (name : String) (table : Table) :
    let keys := (database.schemaOf name table).foreignKeys
    (keys.Pairwise fun a b => a.constraint ≤ b.constraint) ∧
    (∀ fk ∈ keys, ∃ number : Nat, number < table.references.length ∧ fk.constraint = number) ∧
    ∀ (number : Nat) (reference : Reference),
      table.references.reverse[number]? = some reference → reference.IsMatched →
        let kept := keys.filter fun fk => fk.constraint == (number : Int)
        let whole := kept.map ForeignKey.column = reference.columns.map table.spelled
        kept = reference.entries table number (database.targets reference) ∧
        (whole ∨ kept = [] ↔ ¬database.Outgrows reference) ∧
        (¬database.Outgrows reference → (kept = [] ↔ database.LeavesOpen reference)) := by
  intro keys
  refine ⟨pairwise_constraint database name table, fun fk hfk => exists_constraint hfk, ?_⟩
  intro number reference declared matched kept whole
  have hkept : kept = reference.entries table number (database.targets reference) :=
    (filter_constraint declared name).trans (keysOf_eq_entries matched table number)
  have hwhole : whole ↔ ¬database.LeavesOpen reference := by
    unfold whole
    rw [hkept]
    exact map_column_eq_iff matched table number
  have hnone : kept = [] ↔ reference.target = none ∧ database.keyOf reference.table = [] := by
    rw [hkept]
    exact entries_eq_nil_iff matched table number
  have hcolumns : 0 < reference.columns.length := List.length_pos_iff.mpr matched.columns_ne_nil
  refine ⟨hkept, ?_, ?_⟩
  · rw [hwhole, hnone, leavesOpen_iff]
    constructor
    · rintro (hcovered | ⟨-, hkey⟩) ⟨htarget, hne, hlt⟩
      · exact hcovered ⟨htarget, hlt⟩
      · exact hne hkey
    · intro fits
      by_cases htarget : reference.target = none
      · by_cases hkey : database.keyOf reference.table = []
        · exact Or.inr ⟨htarget, hkey⟩
        · exact Or.inl fun hopen => fits ⟨htarget, hkey, hopen.2⟩
      · exact Or.inl fun hopen => htarget hopen.1
  · intro fits
    rw [hnone, leavesOpen_iff]
    constructor
    · rintro ⟨htarget, hkey⟩
      rw [hkey]
      exact ⟨htarget, hcolumns⟩
    · rintro ⟨htarget, hlt⟩
      refine ⟨htarget, ?_⟩
      by_contra hkey
      exact fits ⟨htarget, hkey, hlt⟩

end Database

def authorsTable : Table where
  name := "authors"
  columns := [⟨"id", "INTEGER"⟩, ⟨"name", "TEXT"⟩]
  primaryKey := ["id"]
  references := []
  rows := []

/-- Parcels, with a reference that names its column, one that does not, and one
to a table that does not exist. -/
def parcelsTable : Table where
  name := "parcels"
  columns := [⟨"id", "INTEGER"⟩, ⟨"sender_id", "INTEGER"⟩, ⟨"Receiver", "TEXT"⟩, ⟨"box_id", "INT"⟩]
  primaryKey := ["id"]
  references := [⟨["sender_id"], "authors", none⟩, ⟨["box_id"], "boxes", none⟩,
    ⟨["receiver"], "authors", some ["name"]⟩]
  rows := []

def lettersTable : Table where
  name := "letters"
  columns := [⟨"id", "INTEGER"⟩, ⟨"sender_id", "INTEGER"⟩, ⟨"receiver_id", "INTEGER"⟩]
  primaryKey := ["id"]
  references := [⟨["sender_id", "receiver_id"], "authors", none⟩]
  rows := []

def postDatabase : Database := ⟨[authorsTable, parcelsTable, lettersTable]⟩

theorem keyOf_authors : postDatabase.keyOf "authors" = ["id"] := by
  change List.map Prod.fst (List.mergeSort [("id", (1 : Int))] _) = _
  rw [List.mergeSort_singleton]
  rfl

theorem foreignKeys_by_constraint_parcels :
    let keys := (postDatabase.schemaOf "parcels" parcelsTable).foreignKeys
    (keys.filter fun fk => fk.constraint == 0) = [⟨0, "Receiver", "authors", "name"⟩] ∧
      (keys.filter fun fk => fk.constraint == 1) = [] ∧
      (keys.filter fun fk => fk.constraint == 2) = [⟨2, "sender_id", "authors", "id"⟩] := by
  intro keys
  have hkeys := (Database.foreignKeys_by_constraint postDatabase "parcels" parcelsTable).2.2
  have hmatched (own : String) (table : String) : (⟨[own], table, none⟩ : Reference).IsMatched :=
    ⟨List.cons_ne_nil _ _, by simp⟩
  refine ⟨?_, ?_, ?_⟩
  · exact (hkeys 0 _ rfl ⟨List.cons_ne_nil _ _, by simp⟩).1
  · have hboxes : ¬postDatabase.Outgrows ⟨["box_id"], "boxes", none⟩ := fun h => h.2.1 rfl
    exact ((hkeys 1 _ rfl (hmatched "box_id" "boxes")).2.2 hboxes).mpr
      ⟨rfl, 0, Nat.zero_lt_one, rfl⟩
  · have hentries := (hkeys 2 _ rfl (hmatched "sender_id" "authors")).1
    simp only [Database.targets, keyOf_authors, Option.getD_none] at hentries
    exact hentries

/-- A reference of two columns to a key of one is there in part: its first
column is a foreign key and its second is not. -/
theorem constraint_kept_in_part_letters :
    let reference : Reference := ⟨["sender_id", "receiver_id"], "authors", none⟩
    let keys := (postDatabase.schemaOf "letters" lettersTable).foreignKeys
    let kept := keys.filter fun fk => fk.constraint == 0
    lettersTable.references.reverse[0]? = some reference ∧ reference.IsMatched ∧
      kept = [⟨0, "sender_id", "authors", "id"⟩] ∧
      ¬(kept.map ForeignKey.column = reference.columns.map lettersTable.spelled ∨ kept = []) := by
  intro reference keys kept
  have hparts : lettersTable.referenceParts =
      [⟨0, 0, "sender_id", "authors", none⟩, ⟨0, 1, "receiver_id", "authors", none⟩] := rfl
  have hkept : kept = [⟨0, "sender_id", "authors", "id"⟩] := by
    simp [kept, keys, Database.schemaOf, hparts, Database.foreignKey?, Database.targetOf?,
      keyOf_authors]
  refine ⟨rfl, ⟨List.cons_ne_nil _ _, by simp [reference]⟩, hkept, ?_⟩
  rw [hkept]
  rintro (hwhole | hnone)
  · exact absurd (congrArg List.length hwhole) (by decide)
  · cases hnone

end RowGraph
