import RowGraph.Row

/-!
Looking up columns of rows that were made by inserting and choosing columns. A
row holds a pair exactly if looking up the column finds the value, so that
everything about a row can be said through `get?` alone.
-/

namespace RowGraph.Row

theorem find?_setPair (column other : String) (value : Value) (pairs : List (String × Value)) :
    ((setPair column value pairs).find? fun pair => pair.1 == other).map Prod.snd =
      if other = column then some value
      else (pairs.find? fun pair => pair.1 == other).map Prod.snd := by
  induction pairs with
  | nil =>
      by_cases hsame : other = column
      · simp [setPair, hsame]
      · simp [setPair, hsame, Ne.symm hsame]
  | cons pair rest ih =>
      by_cases hhere : pair.1 = column
      · by_cases hsame : other = column
        · simp [setPair, hhere, hsame]
        · simp [setPair, hhere, hsame, Ne.symm hsame]
      · rw [setPair, if_neg hhere]
        by_cases hfound : pair.1 = other
        · have hother : other ≠ column := hfound ▸ hhere
          simp [hfound, hother]
        · simpa [hfound] using ih

/-- A column that is set has its new value, and every other column its own. -/
theorem get?_insert (row : Row) (column other : String) (value : Value) :
    (row.insert column value).get? other =
      if other = column then some value else row.get? other :=
  find?_setPair column other value row.columns

@[simp] theorem get?_empty (column : String) : empty.get? column = none := rfl

/-- A row holds a pair exactly if its column is found with its value. -/
theorem mem_columns_iff {row : Row} {column : String} {value : Value} :
    (column, value) ∈ row.columns ↔ row.get? column = some value := by
  obtain ⟨columns, hnodup⟩ := row
  unfold get?
  induction columns with
  | nil => simp
  | cons pair rest ih =>
      rw [List.map_cons, List.nodup_cons] at hnodup
      have hrest := ih hnodup.2
      by_cases hhere : pair.1 = column
      · have hlater : (column, value) ∉ rest := by
          intro member
          exact hnodup.1 (hhere ▸ List.mem_map_of_mem member)
        constructor
        · intro member
          rcases List.mem_cons.mp member with rfl | hmem
          · simp
          · exact absurd hmem hlater
        · intro hget
          have hvalue : pair.2 = value := by simpa [hhere] using hget
          exact List.mem_cons.mpr (Or.inl (by rw [← hhere, ← hvalue]))
      · have hne : (column, value) ≠ pair := by
          rintro rfl
          exact hhere rfl
        simpa [hhere, hne] using hrest

theorem isSome_get?_iff {row : Row} {column : String} :
    (row.get? column).isSome = true ↔ column ∈ row.names := by
  rw [Option.isSome_iff_exists]
  constructor
  · rintro ⟨value, hvalue⟩
    exact List.mem_map_of_mem (mem_columns_iff.mpr hvalue)
  · intro member
    obtain ⟨pair, hpair, rfl⟩ := List.mem_map.mp member
    exact ⟨pair.2, mem_columns_iff.mp hpair⟩

/-- After pairs have been set whose values depend on their columns alone, those
columns have these values and all others are as they were. -/
theorem get?_foldl_insert {pairs : List (String × Value)} {value : String → Option Value}
    (hvalue : ∀ pair ∈ pairs, value pair.1 = some pair.2) (row : Row) (column : String) :
    (pairs.foldl (fun row (column, value) => row.insert column value) row).get? column =
      if column ∈ pairs.map Prod.fst then value column else row.get? column := by
  induction pairs generalizing row with
  | nil => simp
  | cons pair rest ih =>
      have hrest : ∀ other ∈ rest, value other.1 = some other.2 :=
        fun other member => hvalue other (List.mem_cons_of_mem _ member)
      rw [List.foldl_cons, ih hrest, get?_insert]
      by_cases hlater : column ∈ rest.map Prod.fst
      · simp [hlater]
      · by_cases hhere : column = pair.1
        · simp [hhere, hvalue pair (by simp)]
        · simp [hlater, hhere]

theorem mem_pairsOf {row : Row} {columns : List String} {pair : String × Value} :
    pair ∈ row.pairsOf columns ↔ pair.1 ∈ columns ∧ row.get? pair.1 = some pair.2 := by
  obtain ⟨column, value⟩ := pair
  simp only [pairsOf, List.mem_filterMap, Option.map_eq_some_iff, Prod.mk.injEq]
  constructor
  · rintro ⟨asked, hasked, found, hfound, rfl, rfl⟩
    exact ⟨hasked, hfound⟩
  · rintro ⟨hasked, hfound⟩
    exact ⟨column, hasked, value, hfound, rfl, rfl⟩

theorem names_pairsOf (row : Row) (columns : List String) :
    (row.pairsOf columns).map Prod.fst = columns.filter fun column => column ∈ row.names := by
  induction columns with
  | nil => rfl
  | cons column rest ih =>
      rw [pairsOf, List.filterMap_cons, ← pairsOf]
      cases hget : row.get? column with
      | none =>
          have hmissing : column ∉ row.names := by simp [← isSome_get?_iff, hget]
          simp [ih, hmissing]
      | some value =>
          have hpresent : column ∈ row.names := by simp [← isSome_get?_iff, hget]
          simp [ih, hpresent]

/-- Choosing columns keeps the values of those that are chosen. -/
theorem get?_select (row : Row) (columns : List String) (column : String) :
    (row.select columns).get? column =
      if column ∈ columns then row.get? column else none := by
  have hvalue : ∀ pair ∈ row.pairsOf columns, row.get? pair.1 = some pair.2 :=
    fun pair member => (mem_pairsOf.mp member).2
  rw [select, ofList, get?_foldl_insert hvalue, names_pairsOf, get?_empty]
  by_cases hasked : column ∈ columns
  · cases hget : row.get? column with
    | none => simp [hasked]
    | some value =>
        have hpresent : column ∈ row.names := by simp [← isSome_get?_iff, hget]
        simp [hasked, hpresent]
  · simp [hasked]

theorem setPair_of_not_mem {column : String} {value : Value} {pairs : List (String × Value)}
    (h : column ∉ pairs.map Prod.fst) :
    setPair column value pairs = pairs ++ [(column, value)] := by
  induction pairs with
  | nil => rfl
  | cons pair rest ih =>
      rw [List.map_cons, List.mem_cons, not_or] at h
      rw [setPair, if_neg (Ne.symm h.1), ih h.2, List.cons_append]

/-- Pairs whose names are new and all different are added at the end. -/
theorem columns_foldl_insert {pairs : List (String × Value)} {row : Row}
    (h : ((row.columns ++ pairs).map Prod.fst).Nodup) :
    (pairs.foldl (fun row (column, value) => row.insert column value) row).columns =
      row.columns ++ pairs := by
  induction pairs generalizing row with
  | nil => simp
  | cons pair rest ih =>
      have hnew : pair.1 ∉ row.columns.map Prod.fst := by
        rw [List.map_append, List.nodup_append] at h
        intro member
        exact h.2.2 pair.1 member pair.1 (by simp) rfl
      have hcolumns : (row.insert pair.1 pair.2).columns = row.columns ++ [pair] :=
        setPair_of_not_mem hnew
      rw [List.foldl_cons, ih (by simpa [hcolumns] using h), hcolumns, List.append_assoc,
        List.singleton_append]

/-- Pairs with different names, set one after another, stand in a row in their
order. -/
theorem columns_ofList {pairs : List (String × Value)} (h : (pairs.map Prod.fst).Nodup) :
    (ofList pairs).columns = pairs :=
  columns_foldl_insert h

end RowGraph.Row
