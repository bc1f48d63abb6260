import Mathlib.Data.List.Induction
import Mathlib.Data.List.Nodup

/-!
Lists whose elements have different keys. An element of such a list is the one
that is found by its key. The keys of any list, each at its first occurrence,
are such a list.
-/

namespace RowGraph

variable {α κ : Type} [BEq κ] [LawfulBEq κ] {key : α → κ} {items : List α}

/-- An element of a list with different keys is found by its key. -/
theorem find?_key_of_mem {item : α} (distinct : (items.map key).Nodup) (member : item ∈ items) :
    items.find? (fun other => key other == key item) = some item := by
  cases hfound : items.find? fun other => key other == key item with
  | none =>
      have hnone := List.find?_eq_none.mp hfound item member
      simp at hnone
  | some found =>
      have hkey : key found = key item := by simpa using List.find?_some hfound
      rw [List.inj_on_of_nodup_map distinct (List.mem_of_find?_eq_some hfound) member hkey]

omit [BEq κ] [LawfulBEq κ] in
/-- What comes of the elements with one key comes of the only one that has it. -/
theorem flatMap_of_key {β : Type} {f : α → List β} {item : α}
    (distinct : (items.map key).Nodup) (member : item ∈ items)
    (others : ∀ other ∈ items, key other ≠ key item → f other = []) :
    items.flatMap f = f item := by
  induction items with
  | nil => cases member
  | cons first rest ih =>
      rw [List.map_cons, List.nodup_cons] at distinct
      have hrest := fun other hother => others other (List.mem_cons_of_mem first hother)
      rw [List.flatMap_cons]
      rcases List.mem_cons.mp member with rfl | hlater
      · have hnone : rest.flatMap f = [] := by
          rw [List.flatMap_eq_nil_iff]
          intro other hother
          apply hrest other hother
          intro hsame
          exact distinct.1 (hsame ▸ List.mem_map_of_mem hother)
        rw [hnone, List.append_nil]
      · have hfirst : f first = [] := by
          apply others first (List.mem_cons_self ..)
          intro hsame
          exact distinct.1 (hsame ▸ List.mem_map_of_mem hlater)
        rw [hfirst, List.nil_append, ih distinct.2 hlater hrest]

/-- A key at the end is kept if it did not occur before. -/
theorem eraseDups_concat (keys : List κ) (key : κ) :
    (keys ++ [key]).eraseDups = if key ∈ keys then keys.eraseDups else keys.eraseDups ++ [key] := by
  rw [List.eraseDups_append]
  by_cases hmem : key ∈ keys
  · simp [List.removeAll, hmem]
  · simp [List.removeAll, hmem, List.eraseDups_cons]

/-- Keys that are kept stand in the order of their first occurrences. -/
theorem pairwise_idxOf_eraseDups (keys : List κ) :
    keys.eraseDups.Pairwise fun a b => keys.idxOf a < keys.idxOf b := by
  induction keys using List.reverseRecOn with
  | nil => exact List.Pairwise.nil
  | append_singleton keys key ih =>
      -- What is added at the end does not move what occurred before.
      have hbefore : keys.eraseDups.Pairwise fun a b =>
          (keys ++ [key]).idxOf a < (keys ++ [key]).idxOf b := by
        refine ih.imp_of_mem fun ha hb hlt => ?_
        rwa [List.idxOf_append_of_mem (List.mem_eraseDups.mp ha),
          List.idxOf_append_of_mem (List.mem_eraseDups.mp hb)]
      rw [eraseDups_concat]
      by_cases hmem : key ∈ keys
      · rwa [if_pos hmem]
      · rw [if_neg hmem, List.pairwise_append]
        refine ⟨hbefore, List.pairwise_singleton _ _, ?_⟩
        intro a ha b hb
        obtain rfl := List.mem_singleton.mp hb
        have hkey := List.mem_eraseDups.mp ha
        rw [List.idxOf_append_of_mem hkey, List.idxOf_append_of_notMem hmem]
        exact Nat.lt_of_lt_of_le (List.idxOf_lt_length_of_mem hkey) (Nat.le_add_right _ _)

theorem nodup_eraseDups (keys : List κ) : keys.eraseDups.Nodup := by
  refine (pairwise_idxOf_eraseDups keys).imp ?_
  rintro a _ hlt rfl
  exact Nat.lt_irrefl _ hlt

end RowGraph
