import Mathlib.Algebra.Ring.Nat
import RowGraph.Display.Summary
import RowGraph.Proofs.Keyed

/-!
Faults table by table. The groups of a list of faults are told by the list: a
group for each table that a fault is raised for, in the order of the first
faults, and in each group all faults of its table in their order. One more fault
at the end of the list makes its group longer, or a new group.
-/

namespace RowGraph.Display

variable {fault : Fault} {groups : List (String × List Fault)}

def faultsOf (table : String) (faults : List Fault) : List Fault :=
  faults.filter fun fault => fault.table == table

theorem addToGroups_of_not_mem (h : fault.table ∉ groups.map Prod.fst) :
    addToGroups fault groups = groups ++ [(fault.table, [fault])] := by
  induction groups with
  | nil => rfl
  | cons group rest ih =>
      rw [List.map_cons, List.mem_cons, not_or] at h
      rw [addToGroups, if_neg (Ne.symm h.1), ih h.2, List.cons_append]

theorem addToGroups_of_mem (distinct : (groups.map Prod.fst).Nodup)
    (h : fault.table ∈ groups.map Prod.fst) :
    addToGroups fault groups = groups.map fun (table, group) =>
      (table, if table = fault.table then group ++ [fault] else group) := by
  induction groups with
  | nil => cases h
  | cons group rest ih =>
      rw [List.map_cons, List.nodup_cons] at distinct
      rw [List.map_cons]
      by_cases hhere : group.1 = fault.table
      · -- The other groups are of other tables.
        have hrest : rest.map (fun (table, group) =>
            (table, if table = fault.table then group ++ [fault] else group)) = rest := by
          refine (List.map_congr_left ?_).trans (List.map_id rest)
          rintro ⟨table, group⟩ member
          have hother : table ≠ fault.table := by
            rintro rfl
            exact distinct.1 (hhere ▸ List.mem_map_of_mem member)
          simp [hother]
        rw [addToGroups, if_pos hhere, hrest]
        simp [hhere]
      · have hlater : fault.table ∈ rest.map Prod.fst := by
          rw [List.map_cons, List.mem_cons] at h
          exact h.resolve_left (Ne.symm hhere)
        rw [addToGroups, if_neg hhere, ih distinct.2 hlater]
        simp [hhere]

theorem faultsByTable_concat (faults : List Fault) (fault : Fault) :
    faultsByTable (faults ++ [fault]) = addToGroups fault (faultsByTable faults) := by
  rw [faultsByTable, List.foldl_concat]
  rfl

theorem faultsOf_concat (table : String) (faults : List Fault) (fault : Fault) :
    faultsOf table (faults ++ [fault]) =
      if table = fault.table then faultsOf table faults ++ [fault] else faultsOf table faults := by
  rw [faultsOf, List.filter_append, ← faultsOf]
  by_cases hsame : table = fault.table
  · simp [hsame]
  · simp [hsame, Ne.symm hsame]

/-- One more fault is one more fault among those of all groups. -/
theorem flatMap_addToGroups (fault : Fault) (groups : List (String × List Fault)) :
    ((addToGroups fault groups).flatMap Prod.snd).Perm (groups.flatMap Prod.snd ++ [fault]) := by
  induction groups with
  | nil => exact List.Perm.refl _
  | cons group rest ih =>
      rw [addToGroups]
      split
      · rw [List.flatMap_cons, List.flatMap_cons, List.append_assoc, List.append_assoc]
        exact List.perm_append_comm.append_left group.2
      · rw [List.flatMap_cons, List.flatMap_cons, List.append_assoc]
        exact ih.append_left group.2

/-- The groups hold the faults, each as often as it is in the list. -/
theorem flatMap_faultsByTable (faults : List Fault) :
    ((faultsByTable faults).flatMap Prod.snd).Perm faults := by
  induction faults using List.reverseRecOn with
  | nil => exact List.Perm.refl _
  | append_singleton faults fault ih =>
      rw [faultsByTable_concat]
      exact (flatMap_addToGroups fault _).trans (ih.append_right [fault])

/-- The groups of faults: for each table the faults of the table. -/
theorem faultsByTable_eq (faults : List Fault) :
    faultsByTable faults =
      (faults.map Fault.table).eraseDups.map fun table => (table, faultsOf table faults) := by
  induction faults using List.reverseRecOn with
  | nil => rfl
  | append_singleton faults fault ih =>
      let tables := (faults.map Fault.table).eraseDups
      have hnames : (tables.map fun table => (table, faultsOf table faults)).map Prod.fst =
          tables := by
        rw [List.map_map]
        exact List.map_id _
      rw [faultsByTable_concat, ih, List.map_append, List.map_singleton, eraseDups_concat]
      by_cases hmem : fault.table ∈ faults.map Fault.table
      · have hgroup : fault.table ∈ tables := List.mem_eraseDups.mpr hmem
        rw [if_pos hmem, addToGroups_of_mem (hnames ▸ nodup_eraseDups _) (hnames ▸ hgroup),
          List.map_map]
        apply List.map_congr_left
        intro table _
        rw [faultsOf_concat]
        rfl
      · have hnew : fault.table ∉ tables := mt List.mem_eraseDups.mp hmem
        have hold : ∀ table ∈ tables, table ≠ fault.table := by
          rintro table member rfl
          exact hnew member
        have hnone : faultsOf fault.table faults = [] := by
          rw [faultsOf, List.filter_eq_nil_iff]
          intro other member same
          exact hmem (by simpa using ⟨other, member, by simpa using same⟩)
        rw [if_neg hmem, addToGroups_of_not_mem (hnames.symm ▸ hnew), List.map_append,
          List.map_singleton, faultsOf_concat, if_pos rfl, hnone, List.nil_append]
        congr 1
        apply List.map_congr_left
        intro table member
        rw [faultsOf_concat, if_neg (hold table member)]

theorem names_faultsByTable (faults : List Fault) :
    (faultsByTable faults).map Prod.fst = (faults.map Fault.table).eraseDups := by
  rw [faultsByTable_eq, List.map_map]
  exact List.map_id _

theorem mem_faultsByTable_iff {faults group : List Fault} {table : String} :
    (table, group) ∈ faultsByTable faults ↔
      table ∈ faults.map Fault.table ∧ group = faultsOf table faults := by
  rw [faultsByTable_eq, List.mem_map]
  constructor
  · rintro ⟨_, member, h⟩
    obtain ⟨rfl, rfl⟩ := Prod.mk.inj h
    exact ⟨List.mem_eraseDups.mp member, rfl⟩
  · rintro ⟨member, rfl⟩
    exact ⟨table, List.mem_eraseDups.mpr member, rfl⟩

/-- A fault is in the group of its table and in no other. -/
theorem existsUnique_group {faults : List Fault} {fault : Fault} (member : fault ∈ faults) :
    ∃! group, group ∈ faultsByTable faults ∧ fault ∈ group.2 := by
  refine ⟨(fault.table, faultsOf fault.table faults), ⟨?_, ?_⟩, ?_⟩
  · exact mem_faultsByTable_iff.mpr ⟨List.mem_map_of_mem member, rfl⟩
  · exact List.mem_filter.mpr ⟨member, beq_self_eq_true _⟩
  · rintro ⟨table, group⟩ ⟨hgroup, hfault⟩
    obtain ⟨-, rfl⟩ := mem_faultsByTable_iff.mp hgroup
    obtain rfl : fault.table = table := by simpa using (List.mem_filter.mp hfault).2
    rfl

/-- Grouping faults by their tables loses none. The groups are of different
tables, in the order of the first faults of these, and each has exactly the
faults of its table in their order; every fault is in exactly one group, the
groups have the faults as often as the list has them, and their sizes add up to
the number of faults. -/
theorem faults_kept_by_groups (faults : List Fault) :
    let groups := faultsByTable faults
    groups.map Prod.fst = (faults.map Fault.table).eraseDups ∧
      (groups.map Prod.fst).Nodup ∧
      ((groups.map Prod.fst).Pairwise fun a b =>
        (faults.map Fault.table).idxOf a < (faults.map Fault.table).idxOf b) ∧
      (∀ group ∈ groups, group.2 = faults.filter fun fault => fault.table == group.1) ∧
      (∀ fault ∈ faults, ∃! group, group ∈ groups ∧ fault ∈ group.2) ∧
      (groups.flatMap Prod.snd).Perm faults ∧
      (groups.map fun group => group.2.length).sum = faults.length := by
  intro groups
  have hnames : groups.map Prod.fst = (faults.map Fault.table).eraseDups :=
    names_faultsByTable faults
  have hperm : (groups.flatMap Prod.snd).Perm faults := flatMap_faultsByTable faults
  refine ⟨hnames, ?_, ?_, ?_, fun fault => existsUnique_group, hperm, ?_⟩
  · rw [hnames]
    exact nodup_eraseDups _
  · rw [hnames]
    exact pairwise_idxOf_eraseDups _
  · rintro ⟨table, group⟩ member
    exact (mem_faultsByTable_iff.mp member).2
  · rw [← hperm.length_eq, List.length_flatMap]

theorem faults_kept_by_groups_books :
    let key (id : Int64) : RowKey := ⟨[("id", .int id)]⟩
    let first := Fault.missingColumn "books" "author_id" (key 2)
    let second := Fault.noLabels "authors" (key 1)
    let third := Fault.noLabels "books" (key 3)
    let groups := faultsByTable [first, second, third]
    groups.map Prod.fst = ["books", "authors"] ∧
      ("books", [first, third]) ∈ groups ∧
      third ∈ [first, second, third] ∧ (∃! group, group ∈ groups ∧ third ∈ group.2) ∧
      (groups.map fun group => group.2.length).sum = 3 := by
  intro key first second third groups
  have hthird : third ∈ [first, second, third] := by simp
  obtain ⟨hnames, -, -, -, hone, -, hsizes⟩ := faults_kept_by_groups [first, second, third]
  refine ⟨hnames.trans ?_, ?_, hthird, hone third hthird, hsizes⟩
  · decide
  · decide

end RowGraph.Display
