import RowGraph.Proofs.Keyed
import RowGraph.Relationship

/-!
Looking tables up. The index of a registry leads to the table that a search of
all tables would find. No two tables have one name, so every definition is found
under its own, and what is done for a row of a table by its name is done by its
definition.
-/

namespace RowGraph.Registry

variable {registry : Registry} {definition : TableDefinition} {table : String}

theorem eq_of_parts {other : Registry} (tables : registry.tables = other.tables)
    (index : registry.index = other.index) : registry = other := by
  cases registry
  cases other
  subst tables index
  rfl

/-- The index gives each name its position and no other name any. -/
theorem lookup_index_iff {place : Nat} :
    registry.index.lookup table = some place ↔ registry.names[place]? = some table := by
  rw [registry.indexed, List.idxOf?_eq_some_iff, List.getElem?_eq_some_iff]
  constructor
  · rintro ⟨hplace, hname, -⟩
    exact ⟨hplace, hname⟩
  · rintro ⟨hplace, hname⟩
    refine ⟨hplace, hname, ?_⟩
    intro earlier hearlier hsame
    have heq := (List.Nodup.getElem_inj_iff registry.names_nodup).mp (hsame.trans hname.symm)
    omega

theorem find?_eq_getElem?_idxOf? (tables : List TableDefinition) (name : String) :
    tables.find? (fun definition => definition.table == name) =
      ((tables.map TableDefinition.table).idxOf? name).bind (tables[·]?) := by
  induction tables with
  | nil => rfl
  | cons first rest ih =>
      rw [List.find?_cons, List.map_cons, List.idxOf?_cons, ih]
      cases hname : first.table == name with
      | true => rfl
      | false =>
          rw [if_neg Bool.false_ne_true, Option.bind_map]
          rfl

/-- The index leads to the definition that a search of all tables finds. -/
theorem get?_eq_find? (registry : Registry) (name : String) :
    registry.get? name = registry.tables.find? fun definition => definition.table == name := by
  rw [get?, registry.indexed, find?_eq_getElem?_idxOf?]

theorem mem_of_get? (h : registry.get? table = some definition) :
    definition ∈ registry.tables ∧ definition.table = table := by
  rw [get?_eq_find?] at h
  refine ⟨List.mem_of_find?_eq_some h, ?_⟩
  simpa using List.find?_some h

theorem get?_of_mem (h : definition ∈ registry.tables) :
    registry.get? definition.table = some definition := by
  rw [get?_eq_find?]
  exact find?_key_of_mem registry.names_nodup h

theorem get?_eq_some_iff :
    registry.get? table = some definition ↔
      definition ∈ registry.tables ∧ definition.table = table := by
  constructor
  · exact mem_of_get?
  · rintro ⟨member, rfl⟩
    exact get?_of_mem member

theorem contains_of_get? (h : registry.get? table = some definition) :
    registry.contains table = true := by
  obtain ⟨member, rfl⟩ := mem_of_get? h
  exact contains_iff.mpr (List.mem_map_of_mem member)

theorem get?_eq_none_iff : registry.get? table = none ↔ table ∉ registry.names := by
  simp [get?_eq_find?, names, List.find?_eq_none]

/-- What is found in a registry is found in one that has more tables. -/
theorem get?_of_subset {bigger : Registry} (within : registry.tables ⊆ bigger.tables)
    (h : registry.get? table = some definition) : bigger.get? table = some definition := by
  obtain ⟨member, hname⟩ := get?_eq_some_iff.mp h
  exact get?_eq_some_iff.mpr ⟨within member, hname⟩

/-- Lookups do not see the order of the tables. -/
theorem get?_of_perm {other : Registry} (perm : registry.tables.Perm other.tables) (name : String) :
    registry.get? name = other.get? name := by
  apply Option.ext
  intro definition
  rw [get?_eq_some_iff, get?_eq_some_iff, perm.mem_iff]

theorem node_of_get? (h : registry.get? table = some definition) (row : Row) :
    registry.node table row = definition.node row := by
  simp only [node, find, h]

theorem batch_of_get? (h : registry.get? table = some definition) (row : Row) :
    registry.batch table row = .ok (definition.batch registry row) := by
  simp only [batch, find, h]

end RowGraph.Registry
