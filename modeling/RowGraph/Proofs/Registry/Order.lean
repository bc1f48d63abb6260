import Mathlib.Data.List.Perm.Basic
import RowGraph.Proofs.Registry.Insertion

/-!
Registries that are filled from a list. Whether all entries of a list can be
inserted depends on each entry alone and on their names being different, and
each entry decides its definition, so a list in another order can be inserted
as well and makes the same definitions.
-/

namespace RowGraph.Registry

variable {registry after : Registry} {entries : List (TableSpec × TableSchema)}

def insertAll : List (TableSpec × TableSchema) → Registry → Except Fault Registry
  | [], registry => .ok registry
  | (spec, schema) :: rest, registry =>
    match registry.insert spec schema with
    | .error fault => .error fault
    | .ok after => insertAll rest after

structure AdmitsAll (registry : Registry) (entries : List (TableSpec × TableSchema)) : Prop where
  named : ∀ entry ∈ entries, Text.isName entry.1.table = true
  labelled : ∀ entry ∈ entries, entry.1.labels ≠ none
  described : ∀ entry ∈ entries, entry.1.properties ≠ none
  usable : ∀ entry ∈ entries, entry.2.IsUsable
  distinct : (registry.names ++ entries.map fun entry => entry.1.table).Nodup

theorem insert_cases {spec : TableSpec} {schema : TableSchema}
    (inserted : registry.insert spec schema = .ok after) :
    registry.Admits spec ∧ schema.IsUsable ∧ after.names = registry.names ++ [spec.table] := by
  have hadmits : registry.Admits spec := by
    by_contra hrefused
    cases hvalid : registry.validate spec with
    | error fault =>
        rw [insert_of_validate_error hvalid] at inserted
        cases inserted
    | ok _ => exact hrefused (validate_ok_iff.mp hvalid)
  obtain ⟨definition, htables, hjoins⟩ := tables_of_insert inserted
  refine ⟨hadmits, (exists_insert_iff hadmits).mp ⟨after, inserted⟩, ?_⟩
  rw [names, htables, List.map_append, List.map_singleton, hjoins.table]
  rfl

theorem exists_insertAll_iff :
    (∃ after, insertAll entries registry = .ok after) ↔ registry.AdmitsAll entries := by
  induction entries generalizing registry with
  | nil =>
      refine ⟨fun _ => ⟨by simp, by simp, by simp, by simp, ?_⟩, fun _ => ⟨registry, rfl⟩⟩
      simpa [names] using registry.names_nodup
  | cons entry rest ih =>
      obtain ⟨spec, schema⟩ := entry
      rw [insertAll]
      constructor
      · rintro ⟨last, hlast⟩
        cases hinsert : registry.insert spec schema with
        | error fault =>
            rw [hinsert] at hlast
            cases hlast
        | ok next =>
            rw [hinsert] at hlast
            obtain ⟨⟨named, labelled, described, -⟩, usable, hnames⟩ := insert_cases hinsert
            obtain ⟨hnamed, hlabelled, hdescribed, husable, hdistinct⟩ := ih.mp ⟨last, hlast⟩
            refine ⟨?_, ?_, ?_, ?_, ?_⟩
            · exact List.forall_mem_cons.mpr ⟨named, hnamed⟩
            · exact List.forall_mem_cons.mpr ⟨labelled, hlabelled⟩
            · exact List.forall_mem_cons.mpr ⟨described, hdescribed⟩
            · exact List.forall_mem_cons.mpr ⟨usable, husable⟩
            · rw [hnames, List.append_assoc] at hdistinct
              exact hdistinct
      · rintro ⟨named, labelled, described, usable, distinct⟩
        rw [List.forall_mem_cons] at named labelled described usable
        have hnew : spec.table ∉ registry.names := by
          intro known
          exact (List.nodup_append.mp distinct).2.2 _ known spec.table (by simp) rfl
        have hadmits : registry.Admits spec := ⟨named.1, labelled.1, described.1, hnew⟩
        obtain ⟨next, hinsert⟩ := (exists_insert_iff hadmits).mpr usable.1
        rw [hinsert]
        apply ih.mpr
        refine ⟨named.2, labelled.2, described.2, usable.2, ?_⟩
        rw [(insert_cases hinsert).2.2, List.append_assoc]
        exact distinct

/-- Every entry adds the definition that joins its spec and its schema. -/
theorem tables_of_insertAll (inserted : insertAll entries registry = .ok after) :
    ∃ added, after.tables = registry.tables ++ added ∧
      List.Forall₂ (fun entry definition => TableDefinition.Joins definition entry.1 entry.2)
        entries added := by
  induction entries generalizing registry with
  | nil =>
      obtain rfl : registry = after := Except.ok.inj inserted
      exact ⟨[], (List.append_nil _).symm, .nil⟩
  | cons entry rest ih =>
      obtain ⟨spec, schema⟩ := entry
      rw [insertAll] at inserted
      cases hinsert : registry.insert spec schema with
      | error fault =>
          rw [hinsert] at inserted
          cases inserted
      | ok next =>
          rw [hinsert] at inserted
          obtain ⟨definition, htables, hjoins⟩ := tables_of_insert hinsert
          obtain ⟨added, hadded, hrest⟩ := ih inserted
          refine ⟨definition :: added, ?_, .cons hjoins hrest⟩
          rw [hadded, htables, List.append_assoc, List.singleton_append]

/-- A list in another order can be inserted too and makes the same
definitions. -/
theorem insertAll_of_perm {reordered : List (TableSpec × TableSchema)}
    (inserted : insertAll entries registry = .ok after) (perm : entries.Perm reordered) :
    ∃ other, insertAll reordered registry = .ok other ∧ after.tables.Perm other.tables := by
  have hadmits := exists_insertAll_iff.mp ⟨after, inserted⟩
  have hnames : (registry.names ++ entries.map fun entry => entry.1.table).Perm
      (registry.names ++ reordered.map fun entry => entry.1.table) :=
    (perm.map _).append_left _
  have hreordered : registry.AdmitsAll reordered := {
    named := fun entry member => hadmits.named entry (perm.mem_iff.mpr member)
    labelled := fun entry member => hadmits.labelled entry (perm.mem_iff.mpr member)
    described := fun entry member => hadmits.described entry (perm.mem_iff.mpr member)
    usable := fun entry member => hadmits.usable entry (perm.mem_iff.mpr member)
    distinct := hnames.nodup_iff.mp hadmits.distinct }
  obtain ⟨other, hother⟩ := exists_insertAll_iff.mpr hreordered
  refine ⟨other, hother, ?_⟩
  obtain ⟨added, htables, hjoins⟩ := tables_of_insertAll inserted
  obtain ⟨added', htables', hjoins'⟩ := tables_of_insertAll hother
  have hunique : Relator.RightUnique fun (entry : TableSpec × TableSchema) definition =>
      TableDefinition.Joins definition entry.1 entry.2 :=
    fun _ _ _ joins joins' => joins.unique joins'
  have hadded : added.Perm added' := List.rel_perm_imp hunique hjoins hjoins' perm
  rw [htables, htables']
  exact hadded.append_left registry.tables

end RowGraph.Registry
