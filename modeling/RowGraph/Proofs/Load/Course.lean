import RowGraph.Proofs.Load.Plan
import RowGraph.Proofs.Load.Settlement
import RowGraph.Proofs.Load.Tally

/-!
The course of a load in either mode. What a load has to work on is the list of
rows of its plan, table by table; working on them one after another settles
them. In collect mode the load goes through all of them. In fail-fast mode it
goes through the same settlements up to the first row that has a fault, and
ends with the first fault of that row.

Each part of the run, from the rows of a scan to the whole load, is said to go
through settlements in this sense and to end well, with a fault of a row, or
with the problem of a scan. The parts are put together in the order of the
code.
-/

namespace RowGraph

open Load (Work Settlement)

namespace Plan

/-- The rows of a table that a phase works on. -/
def tableWork (phase : Phase) (source : RowSource) (definition : TableDefinition) : List Work :=
  if scans phase definition then
    (Scan.yielded (source definition.table)).map (Work.mk phase definition)
  else []

/-- Why the scan of a table did not reach its end, if a phase scans the table
and it did not. -/
def tableProblem? (phase : Phase) (source : RowSource) (definition : TableDefinition) :
    Option Fault :=
  if scans phase definition then
    (Scan.problem? (source definition.table)).map (.source definition.table)
  else none

/-- The rows that a phase works on, table by table, up to and including the
first table whose scan fails. -/
def works (phase : Phase) (source : RowSource) : List TableDefinition → List (List Work)
  | [] => []
  | definition :: rest =>
    tableWork phase source definition ::
      if (tableProblem? phase source definition).isSome then [] else works phase source rest

def phaseWork (phase : Phase) (registry : Registry) (source : RowSource) : List Work :=
  (reached source (tables phase registry)).flatMap fun definition =>
    (Scan.yielded (source definition.table)).map (Work.mk phase definition)

def loadWork (registry : Registry) (source : Phase → RowSource) : List Work :=
  phaseWork .nodes registry (source .nodes) ++
    match phaseProblem? .nodes registry (source .nodes) with
    | none => phaseWork .relationships registry (source .relationships)
    | some _ => []

variable {phase : Phase} {registry : Registry} {source : RowSource}

theorem flatten_works (items : List TableDefinition) :
    (works phase source items).flatten =
      (reached source (items.filter (scans phase))).flatMap fun definition =>
        (Scan.yielded (source definition.table)).map (Work.mk phase definition) := by
  induction items with
  | nil => rfl
  | cons definition rest ih =>
      rw [works, List.flatten_cons]
      cases hscans : scans phase definition with
      | false =>
          rw [List.filter_cons_of_neg (by simp [hscans])]
          simp [tableWork, tableProblem?, hscans, ih]
      | true =>
          rw [List.filter_cons_of_pos hscans, reached]
          cases hproblem : Scan.problem? (source definition.table) with
          | none => simp [tableWork, tableProblem?, hscans, hproblem, ih]
          | some problem => simp [tableWork, tableProblem?, hscans, hproblem]

theorem mem_tableWork_iff {definition : TableDefinition} {work : Work} :
    work ∈ tableWork phase source definition ↔ scans phase definition = true ∧
      ∃ row ∈ Scan.yielded (source definition.table), work = ⟨phase, definition, row⟩ := by
  unfold tableWork
  cases scans phase definition <;> simp [eq_comm]

theorem works_of_no_problem {items : List TableDefinition}
    (h : ∀ definition ∈ items, tableProblem? phase source definition = none) :
    works phase source items = items.map (tableWork phase source) := by
  induction items with
  | nil => rfl
  | cons definition rest ih =>
      have hfirst : tableProblem? phase source definition = none := h definition (by simp)
      have hrest := ih fun other member => h other (List.mem_cons_of_mem _ member)
      simp [works, hfirst, hrest]

theorem firstProblem?_eq_findSome? (items : List TableDefinition) :
    (firstProblem? source (items.filter (scans phase))).map
        (fun (table, problem) => Fault.source table problem) =
      items.findSome? (tableProblem? phase source) := by
  induction items with
  | nil => rfl
  | cons definition rest ih =>
      cases hscans : scans phase definition with
      | false =>
          rw [List.filter_cons_of_neg (by simp [hscans])]
          simpa [tableProblem?, hscans] using ih
      | true =>
          rw [List.filter_cons_of_pos hscans]
          cases hproblem : Scan.problem? (source definition.table) with
          | none => simpa [firstProblem?, tableProblem?, hscans, hproblem] using ih
          | some problem => simp [firstProblem?, tableProblem?, hscans, hproblem]

end Plan

@[simp] theorem Transcript.submitted_log (transcript : Transcript) (entry : Log.Entry) :
    (transcript.log entry).submitted = transcript.submitted := rfl

namespace Load

variable {phase : Phase} {registry : Registry} {source : RowSource} {sink : Sink}
  {mode : ErrorMode} {definition : TableDefinition} {α β : Type}

def untilFault (registry : Registry) : List Settlement → List Settlement
  | [] => []
  | first :: rest =>
    if first.faults registry = [] then first :: untilFault registry rest else [first]

def reached (registry : Registry) (mode : ErrorMode) (settled : List Settlement) :
    List Settlement :=
  match mode with
  | .collect => settled
  | .failFast => untilFault registry settled

def firstStop? (mode : ErrorMode) (faults : List Fault) : Option Fault :=
  match mode with
  | .collect => none
  | .failFast => faults.head?

/-- The fault of a row that a mode stops with, if it stops at one. -/
def stop? (registry : Registry) (mode : ErrorMode) (settled : List Settlement) : Option Fault :=
  firstStop? mode (settled.flatMap (Settlement.faults registry))

theorem stop?_append (first rest : List Settlement) :
    stop? registry mode (first ++ rest) =
      (stop? registry mode first).or (stop? registry mode rest) := by
  cases mode with
  | failFast => simp [stop?, firstStop?, List.head?_append]
  | collect => rfl

theorem reached_append {first rest : List Settlement}
    (h : stop? registry mode first = none) :
    reached registry mode (first ++ rest) = first ++ reached registry mode rest := by
  cases mode with
  | collect => rfl
  | failFast =>
      induction first with
      | nil => rfl
      | cons settled first ih =>
          rw [stop?, firstStop?, List.head?_eq_none_iff, List.flatMap_cons,
            List.append_eq_nil_iff] at h
          have hfirst : untilFault registry (first ++ rest) =
              first ++ untilFault registry rest := by
            apply ih
            rw [stop?, firstStop?, List.head?_eq_none_iff]
            exact h.2
          simp only [reached, List.cons_append, untilFault, if_pos h.1, hfirst]

theorem reached_append_of_stop {first rest : List Settlement} {fault : Fault}
    (h : stop? registry mode first = some fault) :
    reached registry mode (first ++ rest) = reached registry mode first := by
  cases mode with
  | collect => cases h
  | failFast =>
      induction first with
      | nil => cases h
      | cons settled first ih =>
          simp only [reached, List.cons_append, untilFault]
          by_cases hfaults : settled.faults registry = []
          · have hlater : untilFault registry (first ++ rest) = untilFault registry first := by
              apply ih
              simpa [stop?, firstStop?, hfaults] using h
            rw [if_pos hfaults, if_pos hfaults, hlater]
          · rw [if_neg hfaults, if_neg hfaults]

theorem reached_of_no_stop {settled : List Settlement} (h : stop? registry mode settled = none) :
    reached registry mode settled = settled := by
  have hall : reached registry mode (settled ++ []) = settled ++ reached registry mode [] :=
    reached_append h
  rw [List.append_nil] at hall
  rw [hall]
  cases mode <;> exact List.append_nil settled

/-- That a part of a load goes through settlements as its mode does, and ends
with a fault of a row, the problem of a scan, or else well. -/
structure Runs (registry : Registry) (mode : ErrorMode) (before : Array Submission)
    (settled : List Settlement) (problem? : Option Fault) (found : α)
    (after : Transcript × Except Fault α) : Prop where
  submitted : after.1.submitted = before ++
    ((reached registry mode settled).flatMap Settlement.submitted).toArray
  ends : after.2 = match (stop? registry mode settled).or problem? with
    | none => .ok found
    | some fault => .error fault

variable {before : Array Submission} {next : Transcript} {first rest settled : List Settlement}
  {problem? : Option Fault} {found : α}

theorem Runs.of_ok {result : α} (h : Runs registry mode before settled problem? found
    (next, .ok result)) :
    stop? registry mode settled = none ∧ problem? = none ∧ result = found ∧
      next.submitted = before ++ (settled.flatMap Settlement.submitted).toArray := by
  have hends := h.ends
  cases hstop : (stop? registry mode settled).or problem? with
  | some fault =>
      rw [hstop] at hends
      cases hends
  | none =>
      rw [hstop] at hends
      obtain ⟨hmode, hproblem⟩ := Option.or_eq_none_iff.mp hstop
      have hsubmitted := h.submitted
      rw [reached_of_no_stop hmode] at hsubmitted
      exact ⟨hmode, hproblem, Except.ok.inj hends, hsubmitted⟩

theorem Runs.of_error {fault : Fault} (h : Runs registry mode before settled problem? found
    (next, .error fault)) : (stop? registry mode settled).or problem? = some fault := by
  have hends := h.ends
  cases hstop : (stop? registry mode settled).or problem? with
  | none =>
      rw [hstop] at hends
      cases hends
  | some met =>
      rw [hstop] at hends
      rw [Except.error.inj hends]

theorem Runs.congr {other : α} {after : Transcript × Except Fault α}
    (h : Runs registry mode before settled problem? found after)
    (same : problem? = none → found = other) :
    Runs registry mode before settled problem? other after := by
  refine ⟨h.submitted, ?_⟩
  rw [h.ends]
  cases hstop : (stop? registry mode settled).or problem? with
  | some fault => rfl
  | none => exact congrArg Except.ok (same (Option.or_eq_none_iff.mp hstop).2)

/-- After a part that ends well another follows. -/
theorem Runs.append {result : β} {other : β} {after : Transcript × Except Fault α}
    (hfirst : Runs registry mode before first none other (next, .ok result))
    (hrest : Runs registry mode next.submitted rest problem? found after) :
    Runs registry mode before (first ++ rest) problem? found after := by
  obtain ⟨hstop, -, -, hnext⟩ := hfirst.of_ok
  constructor
  · rw [hrest.submitted, hnext, reached_append hstop]
    simp [Array.append_assoc]
  · rw [hrest.ends, stop?_append, hstop, Option.none_or]

/-- After a part that stops at a row nothing follows. -/
theorem Runs.append_of_error {other : β} {fault : Fault}
    (hfirst : Runs registry mode before first none other (next, .error fault)) :
    Runs registry mode before (first ++ rest) problem? found (next, .error fault) := by
  have hstop := hfirst.of_error
  rw [Option.or_none] at hstop
  constructor
  · rw [hfirst.submitted, reached_append_of_stop hstop]
  · rw [stop?_append, hstop]
    rfl

/-- A part that has no row to work on sends nothing. -/
theorem runs_nil {after : Transcript × Except Fault α} (same : after.1.submitted = before)
    (ends : after.2 = match problem? with
      | none => .ok found
      | some fault => .error fault) :
    Runs registry mode before [] problem? found after := by
  constructor
  · cases mode <;> simp [reached, untilFault, same]
  · cases mode <;> exact ends

def tallySum (registry : Registry) (settled : List Settlement) : Tally :=
  .sum (settled.map (Settlement.tally registry))

theorem tallySum_append (first rest : List Settlement) :
    tallySum registry (first ++ rest) = (tallySum registry first).add (tallySum registry rest) := by
  rw [tallySum, List.map_append, Tally.sum_append]
  rfl

theorem tallySum_flatten (each : List (List Settlement)) :
    tallySum registry each.flatten = .sum (each.map (tallySum registry)) := by
  induction each with
  | nil => rfl
  | cons settled rest ih =>
      rw [List.flatten_cons, tallySum_append, ih]
      rfl

theorem rows_tallySum (settled : List Settlement) :
    (tallySum registry settled).rows = settled.length := by
  induction settled with
  | nil => rfl
  | cons first rest ih =>
      have hsum : tallySum registry (first :: rest) =
          (first.tally registry).add (tallySum registry rest) := rfl
      rw [hsum, List.length_cons, ← ih, Nat.add_comm]
      rfl

@[simp] theorem faults_tallySum (settled : List Settlement) :
    (tallySum registry settled).faults = settled.flatMap (Settlement.faults registry) := by
  simp [tallySum, List.flatMap_map]

def settleEach (registry : Registry) (sink : Sink) :
    List (List Work) → Array Submission → List (List Settlement)
  | [], _ => []
  | works :: rest, before =>
    let settled := settleAll registry sink works before
    settled :: settleEach registry sink rest
      (before ++ (settled.flatMap Settlement.submitted).toArray)

theorem flatten_settleEach (lists : List (List Work)) (before : Array Submission) :
    (settleEach registry sink lists before).flatten =
      settleAll registry sink lists.flatten before := by
  induction lists generalizing before with
  | nil => rfl
  | cons works rest ih =>
      rw [settleEach, List.flatten_cons, List.flatten_cons, settleAll_append, ih]

theorem length_settleEach (lists : List (List Work)) (before : Array Submission) :
    (settleEach registry sink lists before).length = lists.length := by
  induction lists generalizing before with
  | nil => rfl
  | cons works rest ih => rw [settleEach, List.length_cons, List.length_cons, ih]

theorem rows_cons {first : Row} {rest : List Row} {position seen : Nat} {report : Report}
    {transcript next : Transcript} {outcome : RowOutcome}
    (hrow : row phase registry sink definition first transcript = (next, outcome)) :
    rows phase registry sink mode definition position (first :: rest) seen report transcript =
      match firstStop? mode outcome.faults with
      | some fault => (next, .error fault)
      | none => rows phase registry sink mode definition position rest (seen + 1)
          (report.count position outcome) (next.logAll (outcome.faults.map failedEntry)) := by
  rw [rows, hrow]
  cases mode with
  | collect => rfl
  | failFast => cases hfaults : outcome.faults <;> simp [firstStop?, hfaults]

/-- A row is settled, and the mode stops at it if it has a fault to stop at. -/
theorem row_runs (registered : registry.get? definition.table = some definition)
    (mode : ErrorMode) {first : Row} {transcript next : Transcript} {outcome : RowOutcome}
    (hrow : row phase registry sink definition first transcript = (next, outcome)) :
    let settled := Work.settle registry sink ⟨phase, definition, first⟩ transcript.submitted
    next.submitted = transcript.submitted ++ settled.submitted.toArray ∧
      outcome = settled.outcome registry ∧
      Runs registry mode transcript.submitted [settled] none outcome (next,
        match firstStop? mode outcome.faults with
        | none => .ok outcome
        | some fault => .error fault) := by
  intro settled
  obtain ⟨hsent, houtcome⟩ := row_settle sink ⟨phase, definition, first⟩ registered transcript
  simp only [hrow] at hsent houtcome
  have hstop : firstStop? mode outcome.faults = stop? registry mode [settled] := by
    simp [stop?, houtcome, settled]
  refine ⟨hsent, houtcome, ?_, ?_⟩
  · cases mode <;> simp [reached, untilFault, hsent, settled]
  · rw [hstop, Option.or_none]

/-- Rows are settled one after another, and each is counted once. -/
theorem rows_runs (registered : registry.get? definition.table = some definition)
    (phase : Phase) (sink : Sink) (mode : ErrorMode) (position : Nat) (items : List Row)
    (seen : Nat) (report : Report) (transcript : Transcript) :
    let settled := settleAll registry sink (items.map (Work.mk phase definition))
      transcript.submitted
    Runs registry mode transcript.submitted settled none
      (seen + items.length, report.count position (tallySum registry settled).outcome)
      (rows phase registry sink mode definition position items seen report transcript) := by
  induction items generalizing seen report transcript with
  | nil =>
      refine runs_nil rfl ?_
      exact congrArg (fun same => Except.ok (seen, same)) (report.count_zero position).symm
  | cons first rest ih =>
      cases hrow : row phase registry sink definition first transcript with
      | mk next outcome =>
          obtain ⟨hsent, houtcome, hfirst⟩ := row_runs registered mode hrow
          rw [rows_cons hrow, List.map_cons, settleAll, ← hsent]
          cases hstop : firstStop? mode outcome.faults with
          | some fault =>
              rw [hstop] at hfirst
              exact hfirst.append_of_error
          | none =>
              rw [hstop] at hfirst
              have hrest := ih (seen + 1) (report.count position outcome)
                (next.logAll (outcome.faults.map failedEntry))
              refine (hfirst.append hrest).congr fun _ => ?_
              have hcounts := Report.count_count report position
                (Settlement.tally registry
                  (Work.settle registry sink ⟨phase, definition, first⟩ transcript.submitted))
                (tallySum registry
                  (settleAll registry sink (rest.map (Work.mk phase definition)) next.submitted))
              rw [houtcome, List.length_cons, Nat.add_right_comm]
              exact congrArg _ hcounts

/-- A scan is worked through to its end or to the row at which it breaks. -/
theorem scanned_runs (registered : registry.get? definition.table = some definition)
    (phase : Phase) (sink : Sink) (mode : ErrorMode) (position : Nat) (scan : Scan)
    (report : Report) (transcript : Transcript) :
    let settled := settleAll registry sink (scan.rows.map (Work.mk phase definition))
      transcript.submitted
    Runs registry mode transcript.submitted settled
      (scan.broken.map (Fault.source definition.table))
      (report.addTable phase position (tallySum registry settled))
      (scanned phase registry sink mode definition position scan report transcript) := by
  intro settled
  have hrows : Runs registry mode transcript.submitted settled none
      (0 + scan.rows.length, report.count position (tallySum registry settled).outcome)
      (rows phase registry sink mode definition position scan.rows 0 report transcript) :=
    rows_runs registered phase sink mode position scan.rows 0 report transcript
  rw [scanned]
  cases hrun : rows phase registry sink mode definition position scan.rows 0 report transcript with
  | mk last result =>
      rw [hrun] at hrows
      cases result with
      | error fault =>
          have hall : Runs registry mode transcript.submitted (settled ++ [])
              (scan.broken.map (Fault.source definition.table))
              (report.addTable phase position (tallySum registry settled))
              (last, .error fault) := hrows.append_of_error
          rwa [List.append_nil] at hall
      | ok found =>
          obtain ⟨hstop, -, rfl, -⟩ := hrows.of_ok
          cases hbroken : scan.broken with
          | none =>
              have hseen : 0 + scan.rows.length = (tallySum registry settled).rows := by
                have hworks : settled.map Settlement.work =
                    scan.rows.map (Work.mk phase definition) := work_settleAll _ _
                have hlength := congrArg List.length hworks
                simpa [rows_tallySum] using hlength.symm
              refine ⟨hrows.submitted, ?_⟩
              rw [hstop, hseen]
              rfl
          | some problem =>
              refine ⟨hrows.submitted, ?_⟩
              rw [hstop]
              rfl

theorem table_runs (registered : registry.get? definition.table = some definition)
    (phase : Phase) (source : RowSource) (sink : Sink) (mode : ErrorMode) (position : Nat)
    (report : Report) (transcript : Transcript) :
    let settled := settleAll registry sink (Plan.tableWork phase source definition)
      transcript.submitted
    Runs registry mode transcript.submitted settled (Plan.tableProblem? phase source definition)
      (report.addTable phase position (tallySum registry settled))
      (table phase registry source sink mode definition position report transcript) := by
  intro settled
  rw [table]
  split
  · rename_i hskips
    have hscans : Plan.scans phase definition = false := by
      rw [hskips.1]
      exact hskips.2
    have hnone : settled = [] := by simp [settled, Plan.tableWork, hscans, settleAll]
    have hproblem : Plan.tableProblem? phase source definition = none := by
      simp [Plan.tableProblem?, hscans]
    have hsame : report.addTable phase position (tallySum registry []) = report := by
      rw [hskips.1]
      exact report.count_zero position
    rw [hnone, hproblem, hsame]
    exact runs_nil rfl rfl
  · rename_i hskips
    have hscans : Plan.scans phase definition = true := by
      cases phase with
      | nodes => rfl
      | relationships => simpa [Plan.scans] using hskips
    cases hsource : source definition.table with
    | error problem =>
        have hnone : settled = [] := by
          simp [settled, Plan.tableWork, hscans, hsource, Scan.yielded, settleAll]
        have hproblem : Plan.tableProblem? phase source definition =
            some (.source definition.table problem) := by
          simp [Plan.tableProblem?, hscans, hsource, Scan.problem?]
        rw [hnone, hproblem]
        exact runs_nil rfl rfl
    | ok scan =>
        have hscan := scanned_runs registered phase sink mode position scan report
          (transcript.scan definition.table)
        have hwork : Plan.tableWork phase source definition =
            scan.rows.map (Work.mk phase definition) := by
          simp [Plan.tableWork, hscans, hsource, Scan.yielded]
        have hproblem : Plan.tableProblem? phase source definition =
            scan.broken.map (Fault.source definition.table) := by
          simp [Plan.tableProblem?, hscans, hsource, Scan.problem?]
        rw [hproblem]
        simp only [settled, hwork]
        exact ⟨hscan.submitted, hscan.ends⟩

theorem tables_runs {items : List TableDefinition}
    (registered : ∀ definition ∈ items, registry.get? definition.table = some definition)
    (phase : Phase) (source : RowSource) (sink : Sink) (mode : ErrorMode) (position : Nat)
    (report : Report) (transcript : Transcript) :
    let settled := settleEach registry sink (Plan.works phase source items) transcript.submitted
    Runs registry mode transcript.submitted settled.flatten
      (items.findSome? (Plan.tableProblem? phase source))
      (Report.addTables phase position report (settled.map (tallySum registry)))
      (tables phase registry source sink mode items position report transcript) := by
  induction items generalizing position report transcript with
  | nil => exact runs_nil rfl rfl
  | cons definition rest ih =>
      have hrest := ih fun other member => registered other (List.mem_cons_of_mem _ member)
      have htable := table_runs (registered definition (List.mem_cons_self ..)) phase source sink
        mode position report transcript
      obtain ⟨settled, hsettled⟩ : ∃ settled, settled = settleAll registry sink
        (Plan.tableWork phase source definition) transcript.submitted := ⟨_, rfl⟩
      simp only [← hsettled] at htable
      rw [tables]
      cases hrun : table phase registry source sink mode definition position report transcript with
      | mk next result =>
          rw [hrun] at htable
          cases hproblem : Plan.tableProblem? phase source definition with
          | some fault =>
              -- The scan fails, so the table is the last of the plan.
              rw [hproblem] at htable
              simp only [Plan.works, hproblem, Option.isSome_some, if_true, settleEach,
                ← hsettled, List.flatten_cons, List.flatten_nil, List.append_nil,
                List.findSome?_cons]
              cases result with
              | ok counted => cases htable.of_ok.2.1
              | error met =>
                  refine ⟨htable.submitted, ?_⟩
                  rw [htable.of_error]
          | none =>
              rw [hproblem] at htable
              simp only [Plan.works, hproblem, Option.isSome_none, Bool.false_eq_true, if_false,
                settleEach, ← hsettled, List.flatten_cons, List.findSome?_cons]
              cases result with
              | error fault => exact htable.append_of_error
              | ok counted =>
                  obtain ⟨-, -, rfl, hnext⟩ := htable.of_ok
                  have hall := htable.append (hrest (position + 1)
                    (report.addTable phase position (tallySum registry settled)) next)
                  rw [hnext] at hall
                  exact hall

def settledReport (registry : Registry) (source : Phase → RowSource) (sink : Sink)
    (before : Array Submission) : Report :=
  let nodes := settleEach registry sink
    (Plan.works .nodes (source .nodes) registry.tables) before
  let relationships := settleEach registry sink
    (Plan.works .relationships (source .relationships) registry.tables)
    (before ++ (nodes.flatten.flatMap Settlement.submitted).toArray)
  .ofTallies registry (nodes.map (tallySum registry)) (relationships.map (tallySum registry))

theorem findSome?_tableProblem? (phase : Phase) (registry : Registry) (source : RowSource) :
    registry.tables.findSome? (Plan.tableProblem? phase source) =
      (Plan.phaseProblem? phase registry source).map
        fun (table, problem) => Fault.source table problem :=
  (Plan.firstProblem?_eq_findSome? registry.tables).symm

theorem tableProblem?_eq_none {source : Phase → RowSource}
    (reached : Plan.problem? registry source = none) :
    ∀ definition ∈ registry.tables,
      Plan.tableProblem? phase (source phase) definition = none := by
  have hphase : Plan.phaseProblem? phase registry (source phase) = none := by
    obtain ⟨hnodes, hrelationships⟩ := Option.or_eq_none_iff.mp reached
    cases phase with
    | nodes => exact hnodes
    | relationships => exact hrelationships
  have hfirst := findSome?_tableProblem? phase registry (source phase)
  rw [hphase, Option.map_none] at hfirst
  exact List.findSome?_eq_none_iff.mp hfirst

theorem flatten_works_tables (phase : Phase) (registry : Registry) (source : RowSource) :
    (Plan.works phase source registry.tables).flatten = Plan.phaseWork phase registry source :=
  Plan.flatten_works registry.tables

theorem settleAll_loadWork {source : Phase → RowSource} (before : Array Submission)
    (reached : Plan.phaseProblem? .nodes registry (source .nodes) = none) :
    settleAll registry sink (Plan.loadWork registry source) before =
      let nodes := settleEach registry sink
        (Plan.works .nodes (source .nodes) registry.tables) before
      let relationships := settleEach registry sink
        (Plan.works .relationships (source .relationships) registry.tables)
        (before ++ (nodes.flatten.flatMap Settlement.submitted).toArray)
      nodes.flatten ++ relationships.flatten := by
  simp only [Plan.loadWork, reached, settleAll_append, flatten_settleEach, flatten_works_tables]

theorem phase_runs (phase : Phase) (registry : Registry) (source : RowSource) (sink : Sink)
    (mode : ErrorMode) (report : Report) (transcript : Transcript) :
    Runs registry mode transcript.submitted
      (settleAll registry sink (Plan.phaseWork phase registry source) transcript.submitted)
      ((Plan.phaseProblem? phase registry source).map
        fun (table, problem) => Fault.source table problem)
      (Report.addTables phase 0 report ((settleEach registry sink
        (Plan.works phase source registry.tables) transcript.submitted).map (tallySum registry)))
      (tables phase registry source sink mode registry.tables 0 report transcript) := by
  have hregistered : ∀ definition ∈ registry.tables,
      registry.get? definition.table = some definition := fun _ => Registry.get?_of_mem
  have htables := tables_runs hregistered phase source sink mode 0 report transcript
  simpa only [flatten_settleEach, flatten_works_tables, findSome?_tableProblem?] using htables

/-- If no scan fails, every table has a tally. -/
theorem length_tallies {source : Phase → RowSource}
    (reached : Plan.problem? registry source = none) (before : Array Submission) :
    ((settleEach registry sink (Plan.works phase (source phase) registry.tables) before).map
      (tallySum registry)).length = registry.tables.length := by
  rw [List.length_map, length_settleEach,
    Plan.works_of_no_problem (tableProblem?_eq_none reached), List.length_map]

/-- The tallies of both phases, added to the report table by table, are the
report on all settlements. -/
theorem addTables_settledReport (registry : Registry) (source : Phase → RowSource) (sink : Sink)
    (before : Array Submission)
    (reached : ((Plan.problem? registry source).map
      fun (table, problem) => Fault.source table problem) = none) :
    let nodes := settleAll registry sink (Plan.phaseWork .nodes registry (source .nodes)) before
    Report.addTables .relationships 0
        (Report.addTables .nodes 0 (.start registry) ((settleEach registry sink
          (Plan.works .nodes (source .nodes) registry.tables) before).map (tallySum registry)))
        ((settleEach registry sink (Plan.works .relationships (source .relationships)
          registry.tables) (before ++ (nodes.flatMap Settlement.submitted).toArray)).map
          (tallySum registry)) =
      settledReport registry source sink before := by
  intro nodes
  rw [Option.map_eq_none_iff] at reached
  rw [Report.addTables_start (length_tallies reached _) (length_tallies reached _),
    settledReport, flatten_settleEach, flatten_works_tables]

/-- A load goes through the settlements of the rows of its plan. -/
theorem run_runs (registry : Registry) (source : Phase → RowSource) (sink : Sink)
    (options : LoadOptions) (start : Transcript) :
    Runs registry options.errorMode start.submitted
      (settleAll registry sink (Plan.loadWork registry source) start.submitted)
      ((Plan.problem? registry source).map fun (table, problem) => Fault.source table problem)
      (settledReport registry source sink start.submitted)
      (run registry source sink options start) := by
  have hnodes := phase_runs .nodes registry (source .nodes) sink options.errorMode
    (.start registry) (start.log (startEntry registry options))
  rw [Transcript.submitted_log] at hnodes
  rw [run, Plan.loadWork]
  cases hfirst : tables .nodes registry (source .nodes) sink options.errorMode registry.tables 0
      (.start registry) (start.log (startEntry registry options)) with
  | mk middle result =>
      rw [hfirst] at hnodes
      cases hproblem : Plan.phaseProblem? .nodes registry (source .nodes) with
      | some problem =>
          -- A scan for nodes fails, so there is no second phase.
          rw [hproblem] at hnodes
          rw [Plan.problem?, hproblem, Option.some_or, List.append_nil]
          cases result with
          | ok counted => cases hnodes.of_ok.2.1
          | error fault =>
              refine ⟨hnodes.submitted, ?_⟩
              rw [hnodes.of_error]
      | none =>
          rw [hproblem] at hnodes
          rw [settleAll_append]
          cases result with
          | error fault => exact hnodes.append_of_error
          | ok counted =>
              obtain ⟨-, -, hcounted, hmiddle⟩ := hnodes.of_ok
              have hmore := phase_runs .relationships registry (source .relationships) sink
                options.errorMode counted (middle.log (phaseEntry .nodes counted))
              rw [Transcript.submitted_log] at hmore
              have hsame : Plan.phaseProblem? .relationships registry (source .relationships) =
                  Plan.problem? registry source := by
                rw [Plan.problem?, hproblem, Option.none_or]
              have hall := hnodes.append hmore
              rw [hmiddle, hsame] at hall
              have hreport := hall.congr fun reached => (congrArg (Report.addTables _ _ · _)
                hcounted).trans (addTables_settledReport registry source sink _ reached)
              cases hsecond : tables .relationships registry (source .relationships) sink
                  options.errorMode registry.tables 0 counted
                  (middle.log (phaseEntry .nodes counted)) with
              | mk last more =>
                  rw [hsecond] at hreport
                  simp only [hsecond]
                  cases more with
                  | error fault => exact ⟨hreport.submitted, hreport.ends⟩
                  | ok report => exact ⟨hreport.submitted, hreport.ends⟩

end Load

end RowGraph
