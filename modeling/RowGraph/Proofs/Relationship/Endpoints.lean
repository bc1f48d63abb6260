import RowGraph.Proofs.Row.Lookup
import RowGraph.Relationship

/-!
What the ends of a relationship are made of. An end is either the row itself,
with the labels of its table and one value for every column of its primary
key, or the row that a foreign key refers to, with the labels that the other
table gives to the key alone and one value for every column of that key.

Everything later that is said of ends goes through `Resolves`, which lists
these two cases with all that had to hold for them.
-/

namespace RowGraph

open Cypher (Endpoint EdgeStatement)

namespace TableDefinition

variable {definition foreign : TableDefinition} {registry : Registry} {row known key : Row}
  {fk : ForeignKey} {columns : List String}

theorem node_of_labels (labelled : definition.labels row ≠ []) :
    definition.node row = .ok ⟨definition.labels row, definition.properties row⟩ := by
  simp [node, labelled]

theorem get?_of_require {column : String} {value : Value}
    (h : definition.require row column = .ok value) : row.get? column = some value := by
  unfold require at h
  split at h
  · rename_i found hget
    obtain rfl : found = value := by simpa using h
    exact hget
  · cases h

/-- The key of a row names the columns asked for, in their order. -/
theorem names_ownKey {pairs : List (String × Value)}
    (h : definition.ownKey row columns = .ok pairs) : pairs.map Prod.fst = columns := by
  induction columns generalizing pairs with
  | nil =>
      obtain rfl : [] = pairs := by simpa [ownKey] using h
      rfl
  | cons column rest ih =>
      rw [ownKey] at h
      split at h
      · cases h
      · rename_i value _
        split at h
        · cases h
        · rename_i more hmore
          obtain rfl : (column, value.fit (definition.columnType? column)) :: more = pairs := by
            simpa using h
          rw [List.map_cons, ih hmore]

/-- Every value in the key of a row is the value of its column, fitted to the
class of the column. -/
theorem mem_ownKey {pairs : List (String × Value)} {column : String} {fitted : Value}
    (h : definition.ownKey row columns = .ok pairs) (member : (column, fitted) ∈ pairs) :
    column ∈ columns ∧ ∃ value, row.get? column = some value ∧
      fitted = value.fit (definition.columnType? column) := by
  induction columns generalizing pairs with
  | nil =>
      obtain rfl : [] = pairs := by simpa [ownKey] using h
      cases member
  | cons first rest ih =>
      rw [ownKey] at h
      split at h
      · cases h
      · rename_i value hvalue
        split at h
        · cases h
        · rename_i more hmore
          obtain rfl : (first, value.fit (definition.columnType? first)) :: more = pairs := by
            simpa using h
          rcases List.mem_cons.mp member with hhere | hlater
          · obtain ⟨rfl, rfl⟩ := Prod.mk.inj hhere
            exact ⟨by simp, value, get?_of_require hvalue, rfl⟩
          · have ⟨hcolumn, hfound⟩ := ih hmore hlater
            exact ⟨List.mem_cons_of_mem _ hcolumn, hfound⟩

/-- The value that a row has for a column of the key that a foreign key refers
to: that of the column which the constraint pairs with it, fitted to the class
of the column referred to. -/
def Supplies (definition : TableDefinition) (row : Row) (fk : ForeignKey)
    (foreign : TableDefinition) (column : String) (fitted : Value) : Prop :=
  ∃ own value, definition.paired? fk column = some own ∧ row.get? own.column = some value ∧
    value.isNull = false ∧ fitted = value.fit (foreign.columnType? column)

/-- The key that a foreign key refers to has the supplied values in the columns
asked for, and in all others what was known before. -/
theorem get?_foreignKeyRow
    (h : definition.foreignKeyRow row fk foreign columns known = .ok (some key))
    (column : String) :
    if column ∈ columns then
      ∃ fitted, key.get? column = some fitted ∧ definition.Supplies row fk foreign column fitted
    else key.get? column = known.get? column := by
  -- `known` holds what the columns before gave, so the induction is for any.
  induction columns generalizing known with
  | nil =>
      obtain rfl : known = key := by simpa [foreignKeyRow] using h
      simp
  | cons first rest ih =>
      rw [foreignKeyRow] at h
      split at h
      · cases h
      · rename_i own hpaired
        split at h
        · cases h
        · rename_i value hvalue
          split at h
          · cases h
          · rename_i hnull
            have hrest := ih h
            by_cases hlater : column ∈ rest
            · rw [if_pos hlater] at hrest
              rw [if_pos (List.mem_cons_of_mem _ hlater)]
              exact hrest
            · rw [if_neg hlater, Row.get?_insert] at hrest
              by_cases hhere : column = first
              · subst hhere
                rw [if_pos rfl] at hrest
                rw [if_pos (by simp)]
                exact ⟨_, hrest, own, value, hpaired, get?_of_require hvalue,
                  by simpa using hnull, rfl⟩
              · rw [if_neg hhere] at hrest
                rw [if_neg (by simp [hhere, hlater])]
                exact hrest

/-- The key that a foreign key refers to is made of supplied values alone. -/
theorem supplies_of_mem_foreignKeyRow
    (h : definition.foreignKeyRow row fk foreign columns .empty = .ok (some key))
    {column : String} {fitted : Value} (member : (column, fitted) ∈ key.columns) :
    column ∈ columns ∧ definition.Supplies row fk foreign column fitted := by
  have hget : key.get? column = some fitted := Row.mem_columns_iff.mp member
  have hkey := get?_foreignKeyRow h column
  by_cases hcolumn : column ∈ columns
  · rw [if_pos hcolumn] at hkey
    obtain ⟨found, hfound, hsupplies⟩ := hkey
    obtain rfl : found = fitted := Option.some.inj (hfound.symm.trans hget)
    exact ⟨hcolumn, hsupplies⟩
  · rw [if_neg hcolumn, hget] at hkey
    cases hkey

/-- The key that a foreign key refers to has every column asked for. -/
theorem foreignKeyRow_ne_nil
    (h : definition.foreignKeyRow row fk foreign columns known = .ok (some key))
    (hne : columns ≠ []) : key.columns ≠ [] := by
  obtain ⟨column, rest, rfl⟩ := List.exists_cons_of_ne_nil hne
  have hkey := get?_foreignKeyRow h column
  rw [if_pos (by simp)] at hkey
  obtain ⟨fitted, hfitted, _⟩ := hkey
  exact List.ne_nil_of_mem (Row.mem_columns_iff.mpr hfitted)

/-- The ends that an alias of a row can stand for. -/
inductive Resolves (definition : TableDefinition) (registry : Registry) (row : Row) :
    String → Endpoint → Prop where
  | own {pairs : List (String × Value)} (labelled : definition.labels row ≠ [])
      (keyed : definition.ownKey row definition.primaryKey = .ok pairs) :
      Resolves definition registry row Pattern.own
        ⟨Pattern.own, definition.labels row, pairs⟩
  | foreign {fk : ForeignKey} {foreign : TableDefinition} {key : Row}
      (declared : fk ∈ definition.foreignKeys)
      (registered : registry.get? fk.foreignTable = some foreign)
      (keyed : definition.foreignKeyRow row fk foreign foreign.primaryKey .empty =
        .ok (some key))
      (labelled : foreign.labels key ≠ []) :
      Resolves definition registry row fk.alias ⟨fk.alias, foreign.labels key, key.columns⟩

theorem resolves_of_foreignEndpoint {endpoint : Endpoint} (declared : fk ∈ definition.foreignKeys)
    (h : definition.foreignEndpoint registry row fk = .ok (some endpoint)) :
    definition.Resolves registry row fk.alias endpoint := by
  unfold foreignEndpoint at h
  split at h
  · cases h
  · rename_i foreign hregistered
    split at h
    · cases h
    · cases h
    · rename_i key hkey
      dsimp only at h
      split at h
      · cases h
      · rename_i hlabels
        obtain rfl : (⟨fk.alias, foreign.labels key, key.columns⟩ : Endpoint) = endpoint := by
          simpa using h
        exact Resolves.foreign declared hregistered hkey (by simpa using hlabels)

/-- An alias that leads somewhere stands for one of the ends that it can stand
for. -/
theorem resolves_of_endpoint {name : String} {endpoint : Endpoint}
    (h : definition.endpoint registry row name = .ok (some endpoint)) :
    definition.Resolves registry row name endpoint := by
  rw [TableDefinition.endpoint] at h
  split at h
  · rename_i hown
    subst hown
    unfold ownEndpoint at h
    dsimp only at h
    split at h
    · cases h
    · rename_i hlabels
      split at h
      · cases h
      · rename_i pairs hkey
        obtain rfl : (⟨Pattern.own, definition.labels row, pairs⟩ : Endpoint) = endpoint := by
          simpa [Except.map] using h
        exact Resolves.own (by simpa using hlabels) hkey
  · split at h
    · cases h
    · rename_i fk hfk
      have halias : fk.alias = name := by simpa using List.find?_some hfk
      rw [← halias]
      exact resolves_of_foreignEndpoint (List.mem_of_find?_eq_some hfk) h

end TableDefinition

end RowGraph
