import RowGraph.Relationship

/-!
A full load: every row of every registered table is scanned twice, once to
merge its node and once to merge its relationships. No relationship is
submitted before the last node of the last table, so both ends of every
relationship exist by then and tables need no order among themselves.

A load is a function of what the scans of each table yield, which may be
something else the second time, and of how the graph answers each statement. It
returns a transcript of all that it did, also when it stops early, and, unless
it stops, a report that accounts for every row and every pattern.
-/

namespace RowGraph

/-- The rows that a scan yields, and the fault that ends it if it does not
reach the last row. -/
structure Scan where
  rows : List Row
  broken : Option StoreFault

/-- The relational side: the scan of a table, or why there is none. -/
abbrev RowSource := String → Except StoreFault Scan

/-- A statement that was sent to the graph, and why it was refused if it
was. -/
structure Submission where
  statement : String
  refusal : Option StoreFault
deriving DecidableEq

/-- The graph side: why a statement is refused, if it is, given all that was
submitted before it. -/
abbrev Sink := Array Submission → String → Option StoreFault

inductive ErrorMode where
  /-- Stop at the first row that fails. -/
  | failFast
  /-- Put the faults into the report and go on. -/
  | collect
deriving DecidableEq

def ErrorMode.name : ErrorMode → String
  | .failFast => "FailFast"
  | .collect => "Collect"

structure LoadOptions where
  /-- How many rows of a table may be under way at once. Rows are begun in order,
  so a graph that answers at once gets all statements in the order of the rows,
  whatever the number. If answers take time, the statements of rows under way
  alternate. -/
  concurrency : Nat
  errorMode : ErrorMode
deriving DecidableEq

def LoadOptions.standard : LoadOptions := ⟨1, .failFast⟩

inductive Phase where
  | nodes
  | relationships
deriving DecidableEq

def Phase.name : Phase → String
  | .nodes => "nodes"
  | .relationships => "relationships"

/-- All that was asked of the relational side and sent to the graph, and what
there is to log about it, in order. -/
structure Transcript where
  submitted : Array Submission
  scanned : Array String
  introspected : Array String
  entries : Array Log.Entry

namespace Transcript

def empty : Transcript := ⟨#[], #[], #[], #[]⟩

def log (transcript : Transcript) (entry : Log.Entry) : Transcript :=
  { transcript with entries := transcript.entries.push entry }

def logAll (transcript : Transcript) (entries : List Log.Entry) : Transcript :=
  { transcript with entries := transcript.entries ++ entries.toArray }

def scan (transcript : Transcript) (table : String) : Transcript :=
  { transcript with scanned := transcript.scanned.push table }

def introspect (transcript : Transcript) (table : String) : Transcript :=
  { transcript with introspected := transcript.introspected.push table }

/-- The statements that were not refused, in order, from the one at a position
on. -/
def acceptedFrom (transcript : Transcript) (position : Nat) : List String :=
  (transcript.submitted.toList.drop position).filterMap fun submission =>
    if submission.refusal.isNone then some submission.statement else none

end Transcript

structure RowOutcome where
  nodes : Nat
  relationships : Nat
  skipped : Nat
  faults : List Fault

/-- The counts of one table over both phases. -/
structure TableReport where
  table : String
  rows : Nat
  nodes : Nat
  relationships : Nat
deriving DecidableEq

structure Report where
  nodes : Nat
  relationships : Nat
  /-- Patterns that had nothing to link. -/
  skipped : Nat
  faults : List Fault
  tables : List TableReport

namespace Report

def isClean (report : Report) : Bool :=
  report.faults.isEmpty

def start (registry : Registry) : Report :=
  ⟨0, 0, 0, [], registry.tables.map fun definition => ⟨definition.table, 0, 0, 0⟩⟩

/-- Adds what came of a row to the totals and to the table at a position. -/
def count (report : Report) (position : Nat) (outcome : RowOutcome) : Report where
  nodes := report.nodes + outcome.nodes
  relationships := report.relationships + outcome.relationships
  skipped := report.skipped + outcome.skipped
  faults := report.faults ++ outcome.faults
  tables := report.tables.modify position fun table =>
    { table with
      nodes := table.nodes + outcome.nodes
      relationships := table.relationships + outcome.relationships }

/-- Notes how many rows a table has, which the scan for its nodes tells. -/
def noteRows (report : Report) (phase : Phase) (position rows : Nat) : Report :=
  match phase with
  | .nodes =>
    { report with tables := report.tables.modify position fun table => { table with rows } }
  | .relationships => report

end Report

namespace Load

def origin : String := "graphsync_core::load"

def tableField (table : String) : String × Log.FieldValue :=
  ("table", .quoted table)

def phaseField (phase : Phase) : String × Log.FieldValue :=
  ("phase", .plain phase.name)

def startEntry (registry : Registry) (options : LoadOptions) : Log.Entry :=
  ⟨.info, origin, "Starting initial load",
    [("tables", .count registry.size), ("concurrency", .count options.concurrency),
      ("error_mode", .plain options.errorMode.name)]⟩

def executingEntry (definition : TableDefinition) (statement : String) : Log.Entry :=
  ⟨.debug, origin, "Executing",
    [("table", .plain definition.table), ("statement", .plain statement)]⟩

def failedEntry (fault : Fault) : Log.Entry :=
  ⟨.warn, origin, "Row failed, continuing", [("error", .plain fault.message)]⟩

def skippedTableEntry (definition : TableDefinition) : Log.Entry :=
  ⟨.debug, origin, "No relationship mapping, skipping scan", [tableField definition.table]⟩

def loadedEntry (definition : TableDefinition) (phase : Phase) (rows : Nat) : Log.Entry :=
  ⟨.info, origin, "Table loaded",
    [tableField definition.table, phaseField phase, ("rows", .count rows)]⟩

def phaseEntry (phase : Phase) (report : Report) : Log.Entry :=
  ⟨.info, origin, "Phase complete",
    [phaseField phase, ("nodes", .count report.nodes),
      ("relationships", .count report.relationships), ("errors", .count report.faults.length)]⟩

def completeEntry (report : Report) : Log.Entry :=
  ⟨.info, origin, "Initial load complete",
    [("nodes", .count report.nodes), ("relationships", .count report.relationships),
      ("skipped", .count report.skipped), ("errors", .count report.faults.length)]⟩

/-- Submits one statement of a row. The fault is that of a refusal. -/
def submit (sink : Sink) (definition : TableDefinition) (row : Row) (statement : String)
    (transcript : Transcript) : Transcript × Option Fault :=
  let refusal := sink transcript.submitted statement
  let transcript := transcript.log (executingEntry definition statement)
  ({ transcript with submitted := transcript.submitted.push ⟨statement, refusal⟩ },
    refusal.map (.sink definition.table (definition.rowKey row) statement))

/-- Submits statements of a row one after another; counts those that are
accepted and gathers the faults of the others. -/
def submitAll (sink : Sink) (definition : TableDefinition) (row : Row) :
    List String → Transcript → Transcript × Nat × List Fault
  | [], transcript => (transcript, 0, [])
  | statement :: rest, transcript =>
    match submit sink definition row statement transcript with
    | (transcript, none) =>
      let (transcript, accepted, faults) := submitAll sink definition row rest transcript
      (transcript, accepted + 1, faults)
    | (transcript, some fault) =>
      let (transcript, accepted, faults) := submitAll sink definition row rest transcript
      (transcript, accepted, fault :: faults)

def nodeRow (registry : Registry) (sink : Sink) (definition : TableDefinition) (row : Row)
    (transcript : Transcript) : Transcript × RowOutcome :=
  match registry.node definition.table row with
  | .error fault => (transcript, ⟨0, 0, 0, [fault]⟩)
  | .ok statement =>
    let (transcript, accepted, faults) :=
      submitAll sink definition row [statement.text] transcript
    (transcript, ⟨accepted, 0, 0, faults⟩)

/-- Merges the relationships of a row. All its patterns are settled before the
first statement is submitted, and their faults come before those of
refusals. -/
def relationshipRow (registry : Registry) (sink : Sink) (definition : TableDefinition)
    (row : Row) (transcript : Transcript) : Transcript × RowOutcome :=
  match registry.batch definition.table row with
  | .error fault => (transcript, ⟨0, 0, 0, [fault]⟩)
  | .ok batch =>
    let statements := batch.statements.map Cypher.EdgeStatement.text
    let (transcript, accepted, faults) :=
      submitAll sink definition row statements (transcript.logAll batch.entries)
    (transcript, ⟨0, accepted, batch.skipped, batch.faults ++ faults⟩)

def row (phase : Phase) (registry : Registry) (sink : Sink) (definition : TableDefinition)
    (row : Row) (transcript : Transcript) : Transcript × RowOutcome :=
  match phase with
  | .nodes => nodeRow registry sink definition row transcript
  | .relationships => relationshipRow registry sink definition row transcript

/-- Works through the rows of the table at a position, counting them and what
comes of them. In fail-fast mode the first fault of the first row that has one
stops the work, after all statements of that row. -/
def rows (phase : Phase) (registry : Registry) (sink : Sink) (mode : ErrorMode)
    (definition : TableDefinition) (position : Nat) :
    List Row → Nat → Report → Transcript → Transcript × Except Fault (Nat × Report)
  | [], seen, report, transcript => (transcript, .ok (seen, report))
  | first :: rest, seen, report, transcript =>
    let (transcript, outcome) := row phase registry sink definition first transcript
    match mode, outcome.faults with
    | .failFast, fault :: _ => (transcript, .error fault)
    | _, faults =>
      rows phase registry sink mode definition position rest (seen + 1)
        (report.count position outcome) (transcript.logAll (faults.map failedEntry))

/-- Works through the rows that a scan yields; a broken scan stops the work
after the last of them. -/
def scanned (phase : Phase) (registry : Registry) (sink : Sink) (mode : ErrorMode)
    (definition : TableDefinition) (position : Nat) (scan : Scan) (report : Report)
    (transcript : Transcript) : Transcript × Except Fault Report :=
  match rows phase registry sink mode definition position scan.rows 0 report transcript with
  | (transcript, .error fault) => (transcript, .error fault)
  | (transcript, .ok (seen, report)) =>
    match scan.broken with
    | some problem => (transcript, .error (.source definition.table problem))
    | none =>
      (transcript.log (loadedEntry definition phase seen),
        .ok (report.noteRows phase position seen))

/-- Works through the table at a position. A table that maps no relationships is
not scanned for them. -/
def table (phase : Phase) (registry : Registry) (source : RowSource) (sink : Sink)
    (mode : ErrorMode) (definition : TableDefinition) (position : Nat) (report : Report)
    (transcript : Transcript) : Transcript × Except Fault Report :=
  if phase = .relationships ∧ definition.hasRelationships = false then
    (transcript.log (skippedTableEntry definition), .ok report)
  else match source definition.table with
    | .error problem => (transcript, .error (.source definition.table problem))
    | .ok scan =>
      scanned phase registry sink mode definition position scan report
        (transcript.scan definition.table)

def tables (phase : Phase) (registry : Registry) (source : RowSource) (sink : Sink)
    (mode : ErrorMode) :
    List TableDefinition → Nat → Report → Transcript → Transcript × Except Fault Report
  | [], _, report, transcript => (transcript, .ok report)
  | definition :: rest, position, report, transcript =>
    match table phase registry source sink mode definition position report transcript with
    | (transcript, .error fault) => (transcript, .error fault)
    | (transcript, .ok report) =>
      tables phase registry source sink mode rest (position + 1) report transcript

/-- Loads every registered table: all nodes, then all relationships. Each phase
has its own scans. The graph answers each statement at once, so no row has to
wait for another. -/
def run (registry : Registry) (source : Phase → RowSource) (sink : Sink)
    (options : LoadOptions) (transcript : Transcript) : Transcript × Except Fault Report :=
  let transcript := transcript.log (startEntry registry options)
  match tables .nodes registry (source .nodes) sink options.errorMode registry.tables 0
      (.start registry) transcript with
  | (transcript, .error fault) => (transcript, .error fault)
  | (transcript, .ok report) =>
    match tables .relationships registry (source .relationships) sink options.errorMode
        registry.tables 0 report (transcript.log (phaseEntry .nodes report)) with
    | (transcript, .error fault) => (transcript, .error fault)
    | (transcript, .ok report) =>
      let transcript := transcript.log (phaseEntry .relationships report)
      (transcript.log (completeEntry report), .ok report)

end Load

end RowGraph
