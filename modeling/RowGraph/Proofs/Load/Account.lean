import Mathlib.Data.List.Forall2
import RowGraph.Proofs.Load.Interleaving

/-!
The account of a load that comes to its end. The counts of the report are kept
in three places and by two phases, but each is a sum over the rows that were
settled, and every row is settled once. So the report has every row of the
scans for nodes as a node or a fault, every pattern of the scans for
relationships as a relationship, as one with nothing to link or as a fault, and
no other fault.
-/

namespace RowGraph

open Cypher (EdgeStatement)

/-- The patterns that the mappings give for the rows of the scans for
relationships. -/
def Plan.patterns (registry : Registry) (source : Phase → RowSource) : List Pattern :=
  (tables .relationships registry).flatMap fun definition =>
    (Scan.yielded (source .relationships definition.table)).flatMap definition.relationships

namespace Load

/-- That all that is asked of a phase for a row came to be: its node was
accepted, or a statement for each pattern that has something to link. -/
def Settlement.Succeeds (registry : Registry) (settlement : Settlement) : Prop :=
  let work := settlement.work
  match work.phase with
  | .nodes => ∃ statement, work.definition.node work.row = .ok statement ∧
      settlement.submitted = [⟨statement.text, none⟩]
  | .relationships => ∃ statements : List EdgeStatement,
      ((work.definition.relationships work.row).map
        (work.definition.outcome registry work.row)).filter (· ≠ .skipped) =
          statements.map .linked ∧
      settlement.submitted = statements.map fun statement => ⟨statement.text, none⟩

theorem refused_eq_nil_iff (work : Work) (submitted : List Submission) :
    submitted.filterMap work.refusal? = [] ↔
      submitted = (submitted.map Submission.statement).map fun text => ⟨text, none⟩ := by
  induction submitted with
  | nil => simp
  | cons first rest ih =>
      obtain ⟨statement, refusal⟩ := first
      cases refusal with
      | none => simpa [Work.refusal?] using ih
      | some problem => simp [Work.refusal?]

/-- No pattern of a row fails exactly if those with something to link are
linked by some statements, and these are the statements of the row. -/
theorem faults_batch_eq_nil_iff (batch : Batch) (statements : List EdgeStatement) :
    batch.faults = [] ∧ batch.statements = statements ↔
      (batch.outcomes.map Prod.snd).filter (· ≠ .skipped) = statements.map .linked := by
  unfold Batch.faults Batch.statements
  induction batch.outcomes generalizing statements with
  | nil => simp [eq_comm]
  | cons first rest ih =>
      obtain ⟨pattern, outcome⟩ := first
      -- A skipped pattern has no statement, a linked one the first of them.
      cases outcome with
      | skipped => simpa using ih statements
      | linked statement =>
          cases statements with
          | nil => simp
          | cons other others =>
              have hothers := ih others
              simp only [List.filterMap_cons, List.map_cons, List.cons.injEq, ne_eq,
                reduceCtorEq, not_false_eq_true, decide_true, List.filter_cons_of_pos,
                PatternOutcome.linked.injEq]
              rw [← hothers]
              constructor
              · rintro ⟨hfaults, hfirst, hrest⟩
                exact ⟨hfirst, hfaults, hrest⟩
              · rintro ⟨hfirst, hfaults, hrest⟩
                exact ⟨hfaults, hfirst, hrest⟩
      | failed fault =>
          cases statements with
          | nil => simp
          | cons other others => simp

/-- A settled row has no fault exactly if all that was asked for it came to
be. -/
theorem Settlement.IsWhole.faults_eq_nil_iff {registry : Registry} {settlement : Settlement}
    (whole : settlement.IsWhole registry) :
    settlement.faults registry = [] ↔ settlement.Succeeds registry := by
  obtain ⟨⟨phase, definition, row⟩, submitted⟩ := settlement
  have hrefused := refused_eq_nil_iff ⟨phase, definition, row⟩ submitted
  have hwhole : submitted.map Submission.statement = _ := whole
  rw [faults, List.append_eq_nil_iff, hrefused, hwhole]
  cases phase with
  | nodes =>
      simp only [Work.unmade, Work.statements, Succeeds]
      cases hnode : definition.node row with
      | error fault => simp
      | ok statement => simp
  | relationships =>
      have hbatch := faults_batch_eq_nil_iff (definition.batch registry row)
      have houtcomes : (definition.batch registry row).outcomes.map Prod.snd =
          (definition.relationships row).map (definition.outcome registry row) := by
        simp [TableDefinition.batch]
      rw [houtcomes] at hbatch
      simp only [Work.unmade, Work.statements, Succeeds, ← hbatch, List.map_map]
      constructor
      · rintro ⟨hfaults, hsubmitted⟩
        exact ⟨_, ⟨hfaults, rfl⟩, hsubmitted⟩
      · rintro ⟨statements, ⟨hfaults, rfl⟩, hsubmitted⟩
        exact ⟨hfaults, hsubmitted⟩

/-- That rows are those of a table that a phase works on, each settled once. -/
structure Settles (phase : Phase) (registry : Registry) (source : RowSource)
    (definition : TableDefinition) (settled : List Settlement) : Prop where
  rows : (settled.map Settlement.work).Perm (Plan.tableWork phase source definition)
  whole : ∀ settlement ∈ settled, settlement.IsWhole registry

variable {phase : Phase} {registry : Registry} {source : RowSource}
  {definition : TableDefinition} {settled : List Settlement}

theorem Settles.phase_eq (h : Settles phase registry source definition settled) :
    ∀ settlement ∈ settled, settlement.work.phase = phase := by
  intro settlement member
  have hwork : settlement.work ∈ Plan.tableWork phase source definition :=
    h.rows.mem_iff.mp (List.mem_map_of_mem member)
  obtain ⟨-, row, -, heq⟩ := Plan.mem_tableWork_iff.mp hwork
  rw [heq]

theorem countP_submitted (settled : List Settlement) :
    (settled.flatMap Settlement.submitted).countP Submission.isAccepted =
      (settled.map Settlement.accepted).sum := by
  rw [List.countP_flatMap]
  rfl

theorem tallySum_eq (registry : Registry)
    (h : ∀ settlement ∈ settled, settlement.work.phase = phase) :
    tallySum registry settled =
      let accepted := (settled.map Settlement.accepted).sum
      let faults := settled.flatMap (Settlement.faults registry)
      match phase with
      | .nodes => ⟨settled.length, accepted, 0, 0, faults⟩
      | .relationships => ⟨settled.length, 0, accepted,
          (settled.map fun settlement => settlement.work.skipped registry).sum, faults⟩ := by
  induction settled with
  | nil => cases phase <;> rfl
  | cons first rest ih =>
      have hfirst : first.work.phase = phase := h first (List.mem_cons_self ..)
      have hrest := ih fun settlement member => h settlement (List.mem_cons_of_mem _ member)
      have hsum : tallySum registry (first :: rest) =
          (first.tally registry).add (tallySum registry rest) := rfl
      rw [hsum, hrest]
      cases phase with
      | nodes =>
          simp [Settlement.tally, Settlement.outcome, RowOutcome.tally, hfirst, Tally.add,
            Nat.add_comm]
      | relationships =>
          simp [Settlement.tally, Settlement.outcome, RowOutcome.tally, hfirst, Tally.add,
            Nat.add_comm]

theorem flatMap_faults_eq_nil_iff
    (whole : ∀ settlement ∈ settled, settlement.IsWhole registry) :
    settled.flatMap (Settlement.faults registry) = [] ↔
      ∀ settlement ∈ settled, settlement.Succeeds registry := by
  rw [List.flatMap_eq_nil_iff]
  constructor
  · intro h settlement member
    exact (whole settlement member).faults_eq_nil_iff.mp (h settlement member)
  · intro h settlement member
    exact (whole settlement member).faults_eq_nil_iff.mpr (h settlement member)

/-- Every settled row comes to what its phase owes it. -/
theorem sum_owed (whole : ∀ settlement ∈ settled, settlement.IsWhole registry) :
    (settled.map Settlement.accepted).sum +
      (settled.map fun settlement => settlement.work.skipped registry).sum +
      (settled.flatMap (Settlement.faults registry)).length =
        ((settled.map Settlement.work).map Work.owed).sum := by
  induction settled with
  | nil => rfl
  | cons first rest ih =>
      have hfirst := (whole first (List.mem_cons_self ..)).owed_eq
      have hrest := ih fun settlement member => whole settlement (List.mem_cons_of_mem _ member)
      simp only [List.map_cons, List.sum_cons, List.flatMap_cons, List.length_append]
      omega

/-- Each row of the node phase has a node or a fault. -/
theorem length_nodes (phase_eq : ∀ settlement ∈ settled, settlement.work.phase = .nodes)
    (whole : ∀ settlement ∈ settled, settlement.IsWhole registry) :
    settled.length = (settled.map Settlement.accepted).sum +
      (settled.flatMap (Settlement.faults registry)).length := by
  have howed := sum_owed whole
  have hone : (settled.map Settlement.work).map Work.owed = settled.map fun _ => 1 := by
    rw [List.map_map]
    apply List.map_congr_left
    intro settlement member
    simp [Work.owed, phase_eq settlement member]
  have hskipped : (settled.map fun settlement => settlement.work.skipped registry) =
      settled.map fun _ => 0 := by
    apply List.map_congr_left
    intro settlement member
    simp [Work.skipped, phase_eq settlement member]
  rw [hone, hskipped] at howed
  simp only [List.map_const', List.sum_replicate_nat, Nat.mul_one, Nat.mul_zero, Nat.add_zero]
    at howed
  exact howed.symm

/-- The settled rows of all tables are the rows that the phase works on. -/
theorem Settles.rows_flatten {items : List TableDefinition} {each : List (List Settlement)}
    (h : List.Forall₂ (Settles phase registry source) items each) :
    (each.flatten.map Settlement.work).Perm (items.flatMap (Plan.tableWork phase source)) := by
  induction h with
  | nil => exact .nil
  | cons hfirst hrest ih =>
      rw [List.flatten_cons, List.map_append, List.flatMap_cons]
      exact hfirst.rows.append ih

theorem sum_owed_tableWork (source : RowSource) (items : List TableDefinition) :
    ((items.flatMap (Plan.tableWork .relationships source)).map Work.owed).sum =
      ((items.filter (Plan.scans .relationships)).flatMap fun definition =>
        (Scan.yielded (source definition.table)).flatMap definition.relationships).length := by
  induction items with
  | nil => rfl
  | cons definition rest ih =>
      rw [List.flatMap_cons, List.map_append, List.sum_append, ih]
      cases hscans : Plan.scans .relationships definition with
      | false => simp [Plan.tableWork, hscans]
      | true =>
          rw [List.filter_cons_of_pos hscans, List.flatMap_cons, List.length_append]
          simp [Plan.tableWork, hscans, Work.owed, List.length_flatMap, Function.comp_def]

theorem exists_settled_of_ends {width : Nat} {items : List TableDefinition}
    {passes : List (List Submission × Tally)}
    (ends : List.Forall₂ (TableEnds phase registry source width) items passes) :
    ∃ settled : List (List Settlement),
      List.Forall₂ (Settles phase registry source) items settled ∧
      passes.map Prod.snd = settled.map (tallySum registry) ∧
      (settled.flatten.flatMap Settlement.submitted).Perm (passes.flatMap Prod.fst) := by
  induction ends with
  | nil => exact ⟨[], .nil, rfl, by simp⟩
  | @cons definition pass items passes hfirst hrest ih =>
      obtain ⟨settled, hrows, hwhole, hsent, -, htotal⟩ := hfirst.2.exists_settled
      obtain ⟨others, hothers, htallies, hmore⟩ := ih
      refine ⟨settled :: others, .cons ⟨hrows, hwhole⟩ hothers, ?_, ?_⟩
      · rw [List.map_cons, List.map_cons, htotal, htallies]
      · rw [List.flatten_cons, List.flatMap_append, List.flatMap_cons]
        exact hsent.append hmore

/-- That a report accounts for every row and every pattern of a load, given
what was sent in each phase and the rows of each table that a phase settled. -/
structure Accounts (registry : Registry) (source : Phase → RowSource)
    (sent : Phase → List Submission) (settled : Phase → List (List Settlement))
    (report : Report) : Prop where
  settles : ∀ phase, List.Forall₂ (Settles phase registry (source phase)) registry.tables
    (settled phase)
  submitted : ∀ phase,
    ((settled phase).flatten.flatMap Settlement.submitted).Perm (sent phase)
  /-- The tables of the report are the registered ones in their order. -/
  names : report.tables.map TableReport.table = registry.names
  /-- Each row of a table has a node or a fault. -/
  rows : List.Forall₂
    (fun (definition, settled) table =>
      table.table = definition.table ∧
      table.rows = (Scan.yielded (source .nodes definition.table)).length ∧
      table.rows = table.nodes + (settled.flatMap (Settlement.faults registry)).length)
    (registry.tables.zip (settled .nodes)) report.tables
  nodes : report.nodes = (report.tables.map TableReport.nodes).sum ∧
    report.nodes = (sent .nodes).countP Submission.isAccepted
  relationships : report.relationships = (report.tables.map TableReport.relationships).sum ∧
    report.relationships = (sent .relationships).countP Submission.isAccepted
  /-- Each pattern has a relationship, nothing to link, or a fault. -/
  patterns : (Plan.patterns registry source).length =
    report.relationships + report.skipped +
      ((settled .relationships).flatten.flatMap (Settlement.faults registry)).length
  faults : report.faults =
    (settled .nodes).flatten.flatMap (Settlement.faults registry) ++
      (settled .relationships).flatten.flatMap (Settlement.faults registry)
  clean : report.isClean = true ↔
    ∀ phase, ∀ settlement ∈ (settled phase).flatten, settlement.Succeeds registry

theorem Settles.of_mem_flatten {items : List TableDefinition} {settled : List (List Settlement)}
    (h : List.Forall₂ (Settles phase registry source) items settled) :
    ∀ settlement ∈ settled.flatten,
      settlement.IsWhole registry ∧ settlement.work.phase = phase := by
  induction h with
  | nil => exact List.forall_mem_nil _
  | cons hfirst hrest ih =>
      intro settlement member
      rw [List.flatten_cons, List.mem_append] at member
      rcases member with hhere | hlater
      · exact ⟨hfirst.whole settlement hhere, hfirst.phase_eq settlement hhere⟩
      · exact ih settlement hlater

section Tables

variable {source : Phase → RowSource} {items : List TableDefinition}
  {nodes relationships : List (List Settlement)}

theorem sum_tableReports (f : TableReport → Nat) (g : Tally → Nat)
    (split : ∀ table (a b : Tally),
      f ⟨table, a.rows, a.nodes + b.nodes, a.relationships + b.relationships⟩ = g a + g b)
    (items : List TableDefinition) (nodes relationships : List Tally)
    (hnodes : nodes.length = items.length) (hrelationships : relationships.length = items.length) :
    ((Report.tableReports items nodes relationships).map f).sum =
      (nodes.map g).sum + (relationships.map g).sum := by
  induction items generalizing nodes relationships with
  | nil =>
      rw [List.length_nil, List.length_eq_zero_iff] at hnodes hrelationships
      subst hnodes hrelationships
      rfl
  | cons definition items ih =>
      obtain ⟨a, nodes, rfl⟩ := List.exists_cons_of_length_eq_add_one hnodes
      obtain ⟨b, relationships, rfl⟩ := List.exists_cons_of_length_eq_add_one hrelationships
      have hrest := ih nodes relationships (by simpa using hnodes) (by simpa using hrelationships)
      have hfirst := split definition.table a b
      simp only [Report.tableReports] at hrest
      simp only [Report.tableReports, List.zip_cons_cons, List.map_cons, List.sum_cons, hfirst,
        hrest]
      omega

theorem names_tableReports (items : List TableDefinition) (nodes relationships : List Tally)
    (hnodes : nodes.length = items.length) (hrelationships : relationships.length = items.length) :
    (Report.tableReports items nodes relationships).map TableReport.table =
      items.map TableDefinition.table := by
  have hzip : (items.zip (nodes.zip relationships)).map Prod.fst = items := by
    apply List.map_fst_zip
    rw [List.length_zip]
    omega
  calc (Report.tableReports items nodes relationships).map TableReport.table
      = ((items.zip (nodes.zip relationships)).map Prod.fst).map TableDefinition.table := by
        simp [Report.tableReports]
    _ = items.map TableDefinition.table := by rw [hzip]

/-- Each row of a table has a node or a fault. -/
theorem rows_tableReports
    (hnodes : List.Forall₂ (Settles .nodes registry (source .nodes)) items nodes)
    (hrelationships : List.Forall₂ (Settles .relationships registry (source .relationships)) items
      relationships) :
    List.Forall₂
      (fun (definition, settled) table =>
        table.table = definition.table ∧
        table.rows = (Scan.yielded (source .nodes definition.table)).length ∧
        table.rows = table.nodes + (settled.flatMap (Settlement.faults registry)).length)
      (items.zip nodes)
      (Report.tableReports items (nodes.map (tallySum registry))
        (relationships.map (tallySum registry))) := by
  induction hnodes generalizing relationships with
  | nil => exact .nil
  | @cons definition settled items nodes hfirst hrest ih =>
      cases hrelationships with
      | @cons _ related _ relationships hrelated hothers =>
          refine .cons ⟨rfl, ?_, ?_⟩ (ih hothers)
          · have hrows := hfirst.rows.length_eq
            have htally := tallySum_eq registry hfirst.phase_eq
            simpa [htally, Plan.tableWork, Plan.scans] using hrows
          · have htally := tallySum_eq registry hfirst.phase_eq
            have hrelatedTally := tallySum_eq registry hrelated.phase_eq
            have hlength := length_nodes hfirst.phase_eq hfirst.whole
            simpa [htally, hrelatedTally] using hlength

end Tables

section Report

variable {source : Phase → RowSource} {sent : Phase → List Submission}
  {settled : Phase → List (List Settlement)}

/-- The report on settled rows, count by count. -/
theorem report_settled (hsettles : ∀ phase,
    List.Forall₂ (Settles phase registry (source phase)) registry.tables (settled phase)) :
    let tallies := fun phase => (settled phase).map (tallySum registry)
    let accepted := fun phase => ((settled phase).flatten.map Settlement.accepted).sum
    let faults := fun phase => (settled phase).flatten.flatMap (Settlement.faults registry)
    Report.ofTallies registry (tallies .nodes) (tallies .relationships) =
      { nodes := accepted .nodes
        relationships := accepted .relationships
        skipped := ((settled .relationships).flatten.map fun settlement =>
          settlement.work.skipped registry).sum
        faults := faults .nodes ++ faults .relationships
        tables :=
          Report.tableReports registry.tables (tallies .nodes) (tallies .relationships) } := by
  intro tallies accepted faults
  have htally (phase : Phase) := tallySum_eq registry fun settlement member =>
    (Settles.of_mem_flatten (hsettles phase) settlement member).2
  have htotal : (Tally.sum (tallies .nodes)).add (Tally.sum (tallies .relationships)) =
      ⟨(settled .nodes).flatten.length + (settled .relationships).flatten.length,
        accepted .nodes, accepted .relationships,
        ((settled .relationships).flatten.map fun settlement =>
          settlement.work.skipped registry).sum,
        faults .nodes ++ faults .relationships⟩ := by
    rw [← tallySum_flatten, ← tallySum_flatten, htally .nodes, htally .relationships]
    simp [Tally.add, accepted, faults]
  rw [Report.ofTallies, htotal]

theorem accounts_of_settles
    (hsettles : ∀ phase,
      List.Forall₂ (Settles phase registry (source phase)) registry.tables (settled phase))
    (hsubmitted : ∀ phase,
      ((settled phase).flatten.flatMap Settlement.submitted).Perm (sent phase)) :
    Accounts registry source sent settled
      (.ofTallies registry ((settled .nodes).map (tallySum registry))
        ((settled .relationships).map (tallySum registry))) := by
  have hmembers (phase : Phase) := Settles.of_mem_flatten (hsettles phase)
  have hlength (phase : Phase) :
      ((settled phase).map (tallySum registry)).length = registry.tables.length := by
    rw [List.length_map, (hsettles phase).length_eq]
  have haccepted (phase : Phase) : ((settled phase).flatten.map Settlement.accepted).sum =
      (sent phase).countP Submission.isAccepted := by
    rw [← countP_submitted]
    exact (hsubmitted phase).countP_eq _
  have htally (phase : Phase) := tallySum_eq registry fun settlement member =>
    (hmembers phase settlement member).2
  have hsum (f : TableReport → Nat) (g : Tally → Nat) (split) :=
    sum_tableReports f g split registry.tables _ _ (hlength .nodes) (hlength .relationships)
  rw [report_settled hsettles]
  refine ⟨hsettles, hsubmitted, ?_, ?_, ⟨?_, haccepted .nodes⟩, ⟨?_, haccepted .relationships⟩,
    ?_, rfl, ?_⟩
  · exact names_tableReports _ _ _ (hlength .nodes) (hlength .relationships)
  · exact rows_tableReports (hsettles .nodes) (hsettles .relationships)
  · rw [hsum TableReport.nodes Tally.nodes fun _ _ _ => rfl, ← Tally.nodes_sum,
      ← Tally.nodes_sum, ← tallySum_flatten, ← tallySum_flatten, htally .nodes,
      htally .relationships]
    rfl
  · rw [hsum TableReport.relationships Tally.relationships fun _ _ _ => rfl,
      ← Tally.relationships_sum, ← Tally.relationships_sum, ← tallySum_flatten,
      ← tallySum_flatten, htally .nodes, htally .relationships]
    exact (Nat.zero_add _).symm
  · have howed := sum_owed fun settlement member =>
      (hmembers .relationships settlement member).1
    have hrows := ((Settles.rows_flatten (hsettles .relationships)).map Work.owed).sum_nat
    rw [hrows, sum_owed_tableWork] at howed
    exact howed.symm
  · have hclean (phase : Phase) := flatMap_faults_eq_nil_iff fun settlement member =>
      (hmembers phase settlement member).1
    rw [Report.isClean, List.isEmpty_iff, List.append_eq_nil_iff, hclean .nodes,
      hclean .relationships]
    constructor
    · rintro ⟨hnodes, hrelationships⟩ phase
      cases phase with
      | nodes => exact hnodes
      | relationships => exact hrelationships
    · intro h
      exact ⟨h .nodes, h .relationships⟩

end Report

theorem accounts_of_completes {source : Phase → RowSource} {width : Nat}
    {sent : Phase → List Submission} {report : Report}
    (completes : Completes registry source width sent report) :
    ∃ settled, Accounts registry source sent settled report := by
  obtain ⟨passes, hends, hsent, rfl⟩ := completes
  have hsettled := fun phase => exists_settled_of_ends (hends phase)
  choose settled hsettles htallies hsubmitted using hsettled
  rw [htallies, htallies]
  refine ⟨settled, accounts_of_settles hsettles ?_⟩
  intro phase
  rw [hsent phase]
  exact hsubmitted phase

/-- The report of a load in collect mode accounts for every row and every
pattern exactly once, both if the rows are worked on one after another, as the
run does, and if several are worked on at once in any order. -/
theorem report_accounts (registry : Registry) (source : Phase → RowSource) (width : Nat) :
    (∀ sink start after report,
      run registry source sink ⟨width, .collect⟩ start = (after, .ok report) →
        ∃ sent settled,
          after.submitted = start.submitted ++ (sent .nodes ++ sent .relationships).toArray ∧
          Accounts registry source sent settled report) ∧
    (∀ sent report, Completes registry source width sent report →
      ∃ settled, Accounts registry source sent settled report) := by
  refine ⟨?_, fun sent report => accounts_of_completes⟩
  intro sink start after report done
  obtain ⟨sent, hsubmitted, hcompletes⟩ := completes_of_run done
  obtain ⟨settled, haccounts⟩ := accounts_of_completes hcompletes
  exact ⟨sent, settled, hsubmitted, haccounts⟩

end Load

end RowGraph
