import Mathlib.Algebra.Ring.Nat
import RowGraph.Load

/-!
Tallies. A load keeps three accounts at a time: of the row it works on, of the
table the row is in, and of all tables. What it adds to them row by row comes to
the same as adding up each part on its own: the rows of a table to the tally of
the table in a phase, and these tallies to the report. It does not matter in
which groups the parts are added.
-/

namespace RowGraph

/-- Counts of rows, accepted statements and skipped patterns, and the faults
met, for any part of a load. -/
structure Tally where
  rows : Nat
  nodes : Nat
  relationships : Nat
  skipped : Nat
  faults : List Fault

def RowOutcome.tally (outcome : RowOutcome) : Tally :=
  ⟨1, outcome.nodes, outcome.relationships, outcome.skipped, outcome.faults⟩

namespace Tally

def zero : Tally := ⟨0, 0, 0, 0, []⟩

def add (a b : Tally) : Tally :=
  ⟨a.rows + b.rows, a.nodes + b.nodes, a.relationships + b.relationships,
    a.skipped + b.skipped, a.faults ++ b.faults⟩

def sum (parts : List Tally) : Tally :=
  parts.foldr add zero

def outcome (tally : Tally) : RowOutcome :=
  ⟨tally.nodes, tally.relationships, tally.skipped, tally.faults⟩

theorem add_assoc (a b c : Tally) : (a.add b).add c = a.add (b.add c) := by
  simp [add, Nat.add_assoc]

@[simp] theorem zero_add (a : Tally) : zero.add a = a := by
  simp [add, zero]

@[simp] theorem add_zero (a : Tally) : a.add zero = a := by
  simp [add, zero]

theorem sum_append (parts more : List Tally) :
    sum (parts ++ more) = (sum parts).add (sum more) := by
  induction parts with
  | nil => exact (zero_add (sum more)).symm
  | cons first rest ih =>
      have hrest : sum ((first :: rest) ++ more) = first.add (sum (rest ++ more)) := rfl
      rw [hrest, ih, ← add_assoc]
      rfl

@[simp] theorem nodes_sum (parts : List Tally) :
    (sum parts).nodes = (parts.map Tally.nodes).sum := by
  induction parts with
  | nil => rfl
  | cons first rest ih => rw [List.map_cons, List.sum_cons, ← ih]; rfl

@[simp] theorem relationships_sum (parts : List Tally) :
    (sum parts).relationships = (parts.map Tally.relationships).sum := by
  induction parts with
  | nil => rfl
  | cons first rest ih => rw [List.map_cons, List.sum_cons, ← ih]; rfl

@[simp] theorem faults_sum (parts : List Tally) :
    (sum parts).faults = parts.flatMap Tally.faults := by
  induction parts with
  | nil => rfl
  | cons first rest ih => rw [List.flatMap_cons, ← ih]; rfl

end Tally

namespace Report

variable {report : Report} {phase : Phase} {position : Nat}

theorem count_zero (report : Report) (position : Nat) :
    report.count position Tally.zero.outcome = report := by
  have hsame : report.tables.modify position (fun table => table) = report.tables :=
    List.modify_id _ _
  simp [count, Tally.zero, Tally.outcome, hsame]

/-- Counting two parts one after the other is counting them together. -/
theorem count_count (report : Report) (position : Nat) (a b : Tally) :
    (report.count position a.outcome).count position b.outcome =
      report.count position (a.add b).outcome := by
  simp [count, Tally.add, Tally.outcome, List.modify_modify_eq, Function.comp_def, Nat.add_assoc]

/-- Adds the tally of the table at a position to the totals and to the table. -/
def addTable (phase : Phase) (position : Nat) (report : Report) (tally : Tally) : Report :=
  (report.count position tally.outcome).noteRows phase position tally.rows

def addTables (phase : Phase) : Nat → Report → List Tally → Report
  | _, report, [] => report
  | position, report, tally :: rest =>
    addTables phase (position + 1) (addTable phase position report tally) rest

def addedTo (phase : Phase) (table : TableReport) (tally : Tally) : TableReport :=
  ⟨table.table, match phase with
    | .nodes => tally.rows
    | .relationships => table.rows, table.nodes + tally.nodes,
    table.relationships + tally.relationships⟩

theorem modify_append_cons {α : Type} (f : α → α) (before : List α) (item : α) (rest : List α) :
    (before ++ item :: rest).modify before.length f = before ++ f item :: rest := by
  induction before with
  | nil => rfl
  | cons first before ih => rw [List.cons_append, List.length_cons, List.modify_succ_cons, ih]; rfl

theorem addTable_eq {before rest : List TableReport} {table : TableReport} (tally : Tally)
    (tables : report.tables = before ++ table :: rest) :
    addTable phase before.length report tally =
      { nodes := report.nodes + tally.nodes
        relationships := report.relationships + tally.relationships
        skipped := report.skipped + tally.skipped
        faults := report.faults ++ tally.faults
        tables := before ++ addedTo phase table tally :: rest } := by
  cases phase with
  | nodes =>
      simp [addTable, count, noteRows, Tally.outcome, addedTo, tables, modify_append_cons]
  | relationships =>
      simp [addTable, count, noteRows, Tally.outcome, addedTo, tables, modify_append_cons]

/-- Each tally goes to the totals, and to the table that stands where it does. -/
theorem addTables_eq (phase : Phase) {before after : List TableReport} {tallies : List Tally}
    (tables : report.tables = before ++ after) (length : after.length = tallies.length) :
    addTables phase before.length report tallies =
      { nodes := report.nodes + (Tally.sum tallies).nodes
        relationships := report.relationships + (Tally.sum tallies).relationships
        skipped := report.skipped + (Tally.sum tallies).skipped
        faults := report.faults ++ (Tally.sum tallies).faults
        tables := before ++ List.zipWith (addedTo phase) after tallies } := by
  induction tallies generalizing report before after with
  | nil =>
      obtain rfl := List.length_eq_zero_iff.mp length
      obtain ⟨nodes, relationships, skipped, faults, all⟩ := report
      obtain rfl : all = before := by simpa using tables
      simp [addTables, Tally.sum, Tally.zero]
  | cons tally rest ih =>
      obtain ⟨table, after, rfl⟩ := List.exists_cons_of_length_eq_add_one length
      have hnext : before ++ addedTo phase table tally :: after =
          (before ++ [addedTo phase table tally]) ++ after := by simp
      rw [addTables, addTable_eq tally tables, ← List.length_singleton, ← List.length_append,
        ih hnext (Nat.succ.inj length)]
      have hsum : Tally.sum (tally :: rest) = tally.add (Tally.sum rest) := rfl
      simp [hsum, Tally.add, Nat.add_assoc]

theorem addTables_zero (phase : Phase) {tallies : List Tally}
    (length : report.tables.length = tallies.length) :
    addTables phase 0 report tallies =
      { nodes := report.nodes + (Tally.sum tallies).nodes
        relationships := report.relationships + (Tally.sum tallies).relationships
        skipped := report.skipped + (Tally.sum tallies).skipped
        faults := report.faults ++ (Tally.sum tallies).faults
        tables := List.zipWith (addedTo phase) report.tables tallies } :=
  addTables_eq phase (List.nil_append report.tables).symm length

def tableReports (items : List TableDefinition) (nodes relationships : List Tally) :
    List TableReport :=
  (items.zip (nodes.zip relationships)).map fun (definition, a, b) =>
    ⟨definition.table, a.rows, a.nodes + b.nodes, a.relationships + b.relationships⟩

/-- The report that tallies of both phases make, table by table. -/
def ofTallies (registry : Registry) (nodes relationships : List Tally) : Report :=
  let total := (Tally.sum nodes).add (Tally.sum relationships)
  { nodes := total.nodes
    relationships := total.relationships
    skipped := total.skipped
    faults := total.faults
    tables := tableReports registry.tables nodes relationships }

/-- The report to which all tables are added in both phases. -/
theorem addTables_start {registry : Registry} {nodes relationships : List Tally}
    (hnodes : nodes.length = registry.tables.length)
    (hrelationships : relationships.length = registry.tables.length) :
    addTables .relationships 0 (addTables .nodes 0 (.start registry) nodes) relationships =
      ofTallies registry nodes relationships := by
  have hfirst : (start registry).tables.length = nodes.length := by simp [start, hnodes]
  have hsecond : (List.zipWith (addedTo .nodes) (start registry).tables nodes).length =
      relationships.length := by
    rw [List.length_zipWith, hfirst, Nat.min_self, hnodes, hrelationships]
  have htables : List.zipWith (addedTo .relationships)
      (List.zipWith (addedTo .nodes) (start registry).tables nodes) relationships =
        (ofTallies registry nodes relationships).tables := by
    apply List.ext_getElem?
    intro place
    simp only [ofTallies, tableReports, start, List.zip_eq_zipWith, List.getElem?_zipWith,
      List.getElem?_map]
    cases registry.tables[place]? with
    | none => rfl
    | some definition =>
        cases nodes[place]? with
        | none => rfl
        | some tally => cases relationships[place]? <;> simp [addedTo]
  rw [addTables_zero .nodes hfirst, addTables_zero .relationships hsecond, htables]
  simp [start, ofTallies, Tally.add]

end Report

end RowGraph
