import Mathlib.Algebra.Ring.Nat
import RowGraph.Proofs.Load.Settlement
import RowGraph.Proofs.Registry.Lookup
import RowGraph.Proofs.Registry.Order

/-!
Patterns of a row on their own. What becomes of a pattern depends on the row and
on the keys, columns and labels of the registered tables, but not on the other
patterns that the mapping of the table returns. The batch of a row is therefore
made of the batches that its patterns give one by one.

To have only one pattern returned, the table is registered with another mapping.
It may refer to itself, so this changes the registry and not only the definition
whose row is looked at.
-/

namespace RowGraph

open Cypher (EdgeStatement)

/-- A definition in a registry where one table, this or another, maps
relationships in a way of its own. -/
def TableDefinition.relating (definition : TableDefinition) (table : String)
    (patterns : Row → List Pattern) : TableDefinition :=
  { definition with
    relationships? := if definition.table = table then some patterns
      else definition.relationships? }

def TableSpec.relating (spec : TableSpec) (table : String) (patterns : Row → List Pattern) :
    TableSpec :=
  { spec with
    relationships := if spec.table = table then some patterns else spec.relationships }

def Registry.relating (registry : Registry) (table : String) (patterns : Row → List Pattern) :
    Registry where
  tables := registry.tables.map fun definition => definition.relating table patterns
  index := registry.index
  names_nodup := by
    rw [List.map_map]
    exact registry.names_nodup
  indexed := by
    rw [List.map_map]
    exact registry.indexed

namespace TableDefinition

variable {definition foreign : TableDefinition} {registry : Registry} {row known : Row}
  {table : String} {patterns : Row → List Pattern} {columns : List String}

theorem ownKey_relating :
    (definition.relating table patterns).ownKey row columns = definition.ownKey row columns := by
  induction columns with
  | nil => rfl
  | cons column rest ih =>
      rw [ownKey, ownKey, ih]
      rfl

/-- The definition and the one that it refers to may both be changed. -/
theorem foreignKeyRow_relating {fk : ForeignKey} :
    (definition.relating table patterns).foreignKeyRow row fk (foreign.relating table patterns)
      columns known = definition.foreignKeyRow row fk foreign columns known := by
  induction columns generalizing known with
  | nil => rfl
  | cons column rest ih =>
      simp only [foreignKeyRow, ih]
      rfl

theorem get?_relating (registry : Registry) (table name : String) (patterns : Row → List Pattern) :
    (registry.relating table patterns).get? name =
      (registry.get? name).map fun definition => definition.relating table patterns := by
  rw [Registry.get?_eq_find?, Registry.get?_eq_find?]
  exact List.find?_map

theorem foreignEndpoint_relating {fk : ForeignKey} :
    (definition.relating table patterns).foreignEndpoint (registry.relating table patterns) row fk =
      definition.foreignEndpoint registry row fk := by
  unfold foreignEndpoint
  rw [get?_relating]
  cases registry.get? fk.foreignTable with
  | none => rfl
  | some foreign =>
      dsimp only [Option.map_some]
      rw [foreignKeyRow_relating]
      rfl

/-- What becomes of a pattern does not depend on any mapping of relationships. -/
theorem outcome_relating (pattern : Pattern) :
    (definition.relating table patterns).outcome (registry.relating table patterns) row pattern =
      definition.outcome registry row pattern := by
  have hendpoint (name : String) :
      (definition.relating table patterns).endpoint (registry.relating table patterns) row name =
        definition.endpoint registry row name := by
    simp only [endpoint, foreignEndpoint_relating, ownEndpoint, ownKey_relating]
    rfl
  simp only [outcome, relate, hendpoint]
  rfl

end TableDefinition

namespace Batch

variable {batch : Batch} {parts : List Batch}

/-- That a batch has what other batches have, one after another. -/
structure Joins (batch : Batch) (parts : List Batch) : Prop where
  statements : batch.statements = parts.flatMap Batch.statements
  skipped : batch.skipped = (parts.map Batch.skipped).sum
  faults : batch.faults = parts.flatMap Batch.faults

theorem joins_of_outcomes (h : batch.outcomes = parts.flatMap Batch.outcomes) :
    batch.Joins parts where
  statements := by
    rw [Batch.statements, h, List.filterMap_flatMap]
    rfl
  skipped := by
    rw [Batch.skipped, h, List.countP_flatMap]
    rfl
  faults := by
    rw [Batch.faults, h, List.filterMap_flatMap]
    rfl

/-- How batches come out together: with the fault of the first that has one, or
else with the statements of all. -/
inductive Concludes : List Batch → Except Fault (List EdgeStatement) → Prop where
  | failed (before : List Batch) (part : Batch) (after : List Batch) (fault : Fault)
      (passed : ∀ other ∈ before, other.isOk = true) (fails : part.result = .error fault) :
      Concludes (before ++ part :: after) (.error fault)
  | done (parts : List Batch) (passed : ∀ part ∈ parts, part.isOk = true) :
      Concludes parts (.ok (parts.flatMap Batch.statements))

theorem isOk_iff : batch.isOk = true ↔ batch.faults = [] :=
  List.isEmpty_iff

/-- The first of all faults is the first fault of the first part that has
one. -/
theorem exists_first_failing {fault : Fault} {rest : List Fault}
    (h : parts.flatMap Batch.faults = fault :: rest) :
    ∃ before part after, parts = before ++ part :: after ∧
      (∀ other ∈ before, other.isOk = true) ∧ part.result = .error fault := by
  induction parts with
  | nil => cases h
  | cons first parts ih =>
      rw [List.flatMap_cons] at h
      cases hfirst : first.faults with
      | nil =>
          rw [hfirst, List.nil_append] at h
          obtain ⟨before, part, after, rfl, hbefore, hpart⟩ := ih h
          refine ⟨first :: before, part, after, rfl, ?_, hpart⟩
          exact List.forall_mem_cons.mpr ⟨isOk_iff.mpr hfirst, hbefore⟩
      | cons found more =>
          rw [hfirst, List.cons_append] at h
          obtain rfl : found = fault := (List.cons.inj h).1
          refine ⟨[], first, parts, rfl, List.forall_mem_nil _, ?_⟩
          rw [result, hfirst]

theorem Joins.concludes (joins : batch.Joins parts) : Concludes parts batch.result := by
  have hfaults := joins.faults
  cases hbatch : batch.faults with
  | nil =>
      rw [hbatch, eq_comm, List.flatMap_eq_nil_iff] at hfaults
      rw [result, hbatch, joins.statements]
      exact .done parts fun part member => isOk_iff.mpr (hfaults part member)
  | cons fault rest =>
      rw [hbatch] at hfaults
      obtain ⟨before, part, after, rfl, hbefore, hpart⟩ := exists_first_failing hfaults.symm
      rw [result, hbatch]
      exact .failed before part after fault hbefore hpart

end Batch

namespace Registry

variable {registry after : Registry} {definition : TableDefinition} {table : String}
  {patterns : Row → List Pattern} {entries : List (TableSpec × TableSchema)}

theorem push_relating (new : definition.table ∉ registry.names)
    (new' : (definition.relating table patterns).table ∉
      (registry.relating table patterns).names) :
    (registry.push definition new).relating table patterns =
      (registry.relating table patterns).push (definition.relating table patterns) new' := by
  apply eq_of_parts
  · exact List.map_append
  · simp [relating, push, TableDefinition.relating]

theorem insert_relating {spec : TableSpec} {schema : TableSchema}
    (inserted : registry.insert spec schema = .ok after) :
    (registry.relating table patterns).insert (spec.relating table patterns) schema =
      .ok (after.relating table patterns) := by
  obtain ⟨⟨named, labelled, described, new⟩, usable, -⟩ := insert_cases inserted
  obtain ⟨definition, _, rfl, hjoins⟩ := push_of_insert inserted
  have hnames : (registry.relating table patterns).names = registry.names := List.map_map
  have hadmits : (registry.relating table patterns).Admits (spec.relating table patterns) :=
    ⟨named, labelled, described, hnames ▸ new⟩
  obtain ⟨other, hother⟩ := (exists_insert_iff hadmits).mpr usable
  obtain ⟨added, new', rfl, hjoins'⟩ := push_of_insert hother
  have hrelating : (definition.relating table patterns).Joins (spec.relating table patterns)
      schema := by
    refine { hjoins with relationships := ?_ }
    simp only [TableDefinition.relating, TableSpec.relating, hjoins.table, hjoins.relationships]
  obtain rfl := hjoins'.unique hrelating
  rw [hother, push_relating _ new']

theorem insertAll_relating (inserted : insertAll entries registry = .ok after) :
    insertAll (entries.map fun entry => (entry.1.relating table patterns, entry.2))
      (registry.relating table patterns) = .ok (after.relating table patterns) := by
  induction entries generalizing registry with
  | nil =>
      obtain rfl := Except.ok.inj inserted
      rfl
  | cons entry rest ih =>
      obtain ⟨spec, schema⟩ := entry
      rw [insertAll] at inserted
      split at inserted
      · cases inserted
      · rename_i next hnext
        rw [List.map_cons, insertAll, insert_relating hnext]
        exact ih inserted

/-- That a batch is what one pattern of a row comes to if the mapping of the
table returns no other. -/
structure GivesAlone (registry : Registry) (table : String) (row : Row) (pattern : Pattern)
    (single : Batch) : Prop where
  one : single.statements.length + single.skipped + single.faults.length = 1
  alone : ∀ patterns : Row → List Pattern, patterns row = [pattern] →
    (registry.relating table patterns).batch table row = .ok single

theorem givesAlone (registered : registry.get? table = some definition) (row : Row)
    (pattern : Pattern) :
    registry.GivesAlone table row pattern
      ⟨definition.table, definition.rowKey row,
        [(pattern, definition.outcome registry row pattern)]⟩ := by
  refine ⟨Load.length_outcomes _, ?_⟩
  intro patterns hpatterns
  have hname : definition.table = table := (mem_of_get? registered).2
  have hfound : (registry.relating table patterns).get? table =
      some (definition.relating table patterns) := by
    rw [TableDefinition.get?_relating, registered]
    rfl
  have hrow : (definition.relating table patterns).relationships row = [pattern] := by
    simp [TableDefinition.relating, TableDefinition.relationships, hname, hpatterns]
  rw [batch_of_get? hfound, TableDefinition.batch, hrow, List.map_singleton,
    TableDefinition.outcome_relating]
  rfl

/-- A row of a registered table has a batch, and it is made of the batches that
the patterns of the row give if the mapping returns them alone, in the order of
the patterns. Each of these has one statement, one pattern with nothing to link,
or one fault. The result of the row is the first fault, or else all statements.
The registry that returns other patterns for the table is what the same
insertions make with that mapping. -/
theorem patterns_independent (registered : registry.get? table = some definition) (row : Row) :
    (∃ batch alone, registry.batch table row = .ok batch ∧
      List.Forall₂ (registry.GivesAlone table row) (definition.relationships row) alone ∧
      batch.Joins alone ∧
      batch.statements.length + batch.skipped + batch.faults.length =
        (definition.relationships row).length ∧
      Batch.Concludes alone batch.result) ∧
    ∀ entries patterns, insertAll entries .empty = .ok registry →
      insertAll (entries.map fun entry => (entry.1.relating table patterns, entry.2)) .empty =
        .ok (registry.relating table patterns) := by
  constructor
  · let single (pattern : Pattern) : Batch := ⟨definition.table, definition.rowKey row,
      [(pattern, definition.outcome registry row pattern)]⟩
    have hjoins : (definition.batch registry row).Joins
        ((definition.relationships row).map single) := by
      apply Batch.joins_of_outcomes
      rw [List.flatMap_map, TableDefinition.batch, List.map_eq_flatMap]
    refine ⟨definition.batch registry row, (definition.relationships row).map single,
      batch_of_get? registered row, ?_, hjoins, ?_, hjoins.concludes⟩
    · rw [List.forall₂_map_right_iff, List.forall₂_same]
      intro pattern _
      exact givesAlone registered row pattern
    · rw [Load.length_outcomes, TableDefinition.batch, List.length_map]
  · intro entries patterns inserted
    exact insertAll_relating inserted

end Registry

/-- Members by the number of their card, with a mentor and a deputy among the
members, and patterns of every outcome. -/
def members : TableDefinition where
  table := "members"
  primaryKey := ["card"]
  foreignKeys := [⟨0, "mentor_id", "members", "card"⟩, ⟨1, "deputy_id", "members", "card"⟩]
  columnTypes := [("card", .integer), ("mentor_id", .text), ("deputy_id", .integer)]
  labels := fun _ => ["Member"]
  properties := id
  relationships? := some fun _ => [.shorthand "(this)-[:LEARNS]->(mentor)",
    .structured "this" "deputy" "HAS", .shorthand "(this)-[:HAS]->(boss)",
    .shorthand "(this)-[HAS]->(mentor)", .shorthand "(this)<-[:TEACHES]-(mentor)"]
  table_isName := by decide
  primaryKey_ne_nil := by decide
  aliases_nodup := by decide
  own_not_alias := by decide

theorem patterns_independent_members :
    let registry := Registry.empty.push members (by decide)
    let row := Row.ofList [("card", .int 1), ("mentor_id", .text "2"), ("deputy_id", .null)]
    registry.get? "members" = some members ∧
      ∃ batch alone, registry.batch "members" row = .ok batch ∧
        List.Forall₂ (registry.GivesAlone "members" row) (members.relationships row) alone ∧
        batch.Joins alone ∧ alone.length = 5 ∧
        batch.statements.map EdgeStatement.text =
          ["MATCH (this:Member), (mentor:Member) WHERE this.card = 1 AND mentor.card = 2 " ++
              "MERGE (this)-[:LEARNS]->(mentor);",
            "MATCH (mentor:Member), (this:Member) WHERE mentor.card = 2 AND this.card = 1 " ++
              "MERGE (mentor)-[:TEACHES]->(this);"] ∧
        batch.skipped = 1 ∧
        batch.result = .error (members.badAlias row "boss" .unknown) ∧
        Batch.Concludes alone batch.result := by
  intro registry row
  have registered : registry.get? "members" = some members := rfl
  obtain ⟨⟨batch, alone, hbatch, halone, hjoins, -, hconcludes⟩, -⟩ :=
    Registry.patterns_independent registered row
  obtain rfl : members.batch registry row = batch := Except.ok.inj hbatch
  exact ⟨registered, _, alone, hbatch, halone, hjoins, halone.length_eq.symm, by decide +kernel,
    by decide +kernel, by decide +kernel, hconcludes⟩

end RowGraph
