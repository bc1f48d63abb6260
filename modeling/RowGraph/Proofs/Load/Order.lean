import RowGraph.Proofs.Load.Account
import RowGraph.Proofs.Registry.Order
import RowGraph.Proofs.Relationship.Growth

/-!
The order in which tables are registered. Two registries of the same tables do
the same for every row, and work on the same rows in both phases of a load. If
the graph answers each statement by its text alone, every row is settled in one
way whenever that happens, so that two loads send the same statements in each
phase and report the same counts and the same faults, each in another order.
-/

namespace RowGraph

namespace Load

variable {registry other : Registry} {source : Phase → RowSource}
  {answer : String → Option StoreFault}

def Work.answered (registry : Registry) (answer : String → Option StoreFault) (work : Work) :
    Settlement :=
  ⟨work, (work.statements registry).map fun text => ⟨text, answer text⟩⟩

def AreAnswered (answer : String → Option StoreFault) (submitted : List Submission) : Prop :=
  ∀ submission ∈ submitted, submission.refusal = answer submission.statement

theorem AreAnswered.eq_map {submitted : List Submission} (answered : AreAnswered answer submitted) :
    submitted = (submitted.map Submission.statement).map fun text => ⟨text, answer text⟩ := by
  have hsame : ∀ submission ∈ submitted,
      (⟨submission.statement, answer submission.statement⟩ : Submission) = submission := by
    intro submission member
    rw [← answered submission member]
  rw [List.map_map]
  exact (List.map_id submitted).symm.trans (List.map_congr_left fun _ member =>
    (hsame _ member).symm)

theorem Work.areAnswered_answered (work : Work) :
    AreAnswered answer (work.answered registry answer).submitted := by
  intro submission member
  obtain ⟨text, -, rfl⟩ := List.mem_map.mp member
  rfl

theorem Settlement.IsWhole.eq_answered {settlement : Settlement}
    (whole : settlement.IsWhole registry) (answered : AreAnswered answer settlement.submitted) :
    settlement.work.answered registry answer = settlement := by
  rw [Work.answered, ← whole, ← answered.eq_map]

theorem answers_of_text (statements : List String) (before : Array Submission) :
    answers (fun _ => answer) statements before =
      statements.map fun text => ⟨text, answer text⟩ := by
  induction statements generalizing before with
  | nil => rfl
  | cons statement rest ih => rw [answers, ih, List.map_cons]

theorem settleAll_of_text (works : List Work) (before : Array Submission) :
    settleAll registry (fun _ => answer) works before =
      works.map (Work.answered registry answer) := by
  induction works generalizing before with
  | nil => rfl
  | cons work rest ih =>
      rw [settleAll, ih, List.map_cons, Work.settle, answers_of_text]
      rfl

/-- That a load comes to its end with some submissions in each phase, all
answered by their texts, and a report. -/
structure Concludes (registry : Registry) (source : Phase → RowSource)
    (answer : String → Option StoreFault) (width : Nat) (sent : Phase → List Submission)
    (report : Report) : Prop where
  completes : Completes registry source width sent report
  answered : ∀ phase, AreAnswered answer (sent phase)

/-- A load in collect mode, one row after another, comes to its end if no scan
fails. -/
theorem run_concludes (reached : Plan.problem? registry source = none)
    (answer : String → Option StoreFault) (width : Nat) (start : Transcript) :
    let after := run registry source (fun _ => answer) ⟨width, .collect⟩ start
    ∃ sent report, after.2 = .ok report ∧
      after.1.submitted = start.submitted ++ (sent .nodes ++ sent .relationships).toArray ∧
      Concludes registry source answer width sent report := by
  intro after
  have hruns := run_runs registry source (fun _ => answer) ⟨width, .collect⟩ start
  have hends := hruns.ends
  rw [reached, stop?, firstStop?, Option.none_or, Option.map_none] at hends
  obtain ⟨report, hreport⟩ : ∃ report, after.2 = .ok report := ⟨_, hends⟩
  have hrun : run registry source (fun _ => answer) ⟨width, .collect⟩ start =
      (after.1, .ok report) := Prod.ext rfl hreport
  obtain ⟨sent, hsubmitted, hcompletes⟩ := completes_of_run hrun
  refine ⟨sent, report, hreport, hsubmitted, hcompletes, ?_⟩
  rw [hrun] at hruns
  have hsettled := hruns.of_ok.2.2.2
  rw [hsubmitted, settleAll_of_text] at hsettled
  have hlist := List.toArray_inj ((Array.append_right_inj _).mp hsettled)
  intro phase submission member
  have hmember : submission ∈ sent .nodes ++ sent .relationships := by
    cases phase with
    | nodes => exact List.mem_append_left _ member
    | relationships => exact List.mem_append_right _ member
  rw [hlist, List.flatMap_map, List.mem_flatMap] at hmember
  obtain ⟨work, -, hwork⟩ := hmember
  exact work.areAnswered_answered submission hwork

theorem Work.statements_of_perm (perm : registry.tables.Perm other.tables) (work : Work) :
    work.statements registry = work.statements other := by
  simp only [statements, TableDefinition.batch_of_perm perm]

theorem Work.unmade_of_perm (perm : registry.tables.Perm other.tables) (work : Work) :
    work.unmade registry = work.unmade other := by
  simp only [unmade, TableDefinition.batch_of_perm perm]

theorem Accounts.settled_perm {sent : Phase → List Submission}
    {settled : Phase → List (List Settlement)} {report : Report}
    (accounts : Accounts registry source sent settled report)
    (answered : ∀ phase, AreAnswered answer (sent phase)) (phase : Phase) :
    (settled phase).flatten.Perm
      ((registry.tables.flatMap (Plan.tableWork phase (source phase))).map
        (Work.answered registry answer)) := by
  have hsettles := accounts.settles phase
  have hsame : ∀ settlement ∈ (settled phase).flatten,
      settlement.work.answered registry answer = settlement := by
    intro settlement member
    have hwhole := (Settles.of_mem_flatten hsettles settlement member).1
    apply hwhole.eq_answered
    intro submission hsubmission
    apply answered phase
    rw [← (accounts.submitted phase).mem_iff, List.mem_flatMap]
    exact ⟨settlement, member, hsubmission⟩
  have hall : (settled phase).flatten =
      ((settled phase).flatten.map Settlement.work).map (Work.answered registry answer) := by
    rw [List.map_map]
    exact (List.map_id _).symm.trans (List.map_congr_left fun _ member => (hsame _ member).symm)
  rw [hall]
  exact (Settles.rows_flatten hsettles).map _

/-- That two loads send the same in each phase, and come to the same, but for
the order. -/
structure Agree (sent sent' : Phase → List Submission) (report report' : Report) : Prop where
  sent : ∀ phase, (sent phase).Perm (sent' phase)
  nodes : report.nodes = report'.nodes
  relationships : report.relationships = report'.relationships
  skipped : report.skipped = report'.skipped
  faults : report.faults.Perm report'.faults

theorem agree_of_perm (perm : registry.tables.Perm other.tables) {width width' : Nat}
    {sent sent' : Phase → List Submission} {report report' : Report}
    (concludes : Concludes registry source answer width sent report)
    (concludes' : Concludes other source answer width' sent' report') :
    Agree sent sent' report report' := by
  obtain ⟨settled, haccounts⟩ := accounts_of_completes concludes.completes
  obtain ⟨settled', haccounts'⟩ := accounts_of_completes concludes'.completes
  -- Both registries settle a row in one way, so only the order of the rows differs.
  have hanswered : Work.answered registry answer = Work.answered other answer := by
    funext work
    rw [Work.answered, Work.answered, work.statements_of_perm perm]
  have hfaults : Settlement.faults registry = Settlement.faults other := by
    funext settlement
    rw [Settlement.faults, Settlement.faults, settlement.work.unmade_of_perm perm]
  have hsettled (phase : Phase) : (settled phase).flatten.Perm (settled' phase).flatten := by
    have hrows := haccounts.settled_perm concludes.answered phase
    have hrows' := haccounts'.settled_perm concludes'.answered phase
    rw [hanswered] at hrows
    exact hrows.trans (((perm.flatMap_right _).map _).trans hrows'.symm)
  have hsent (phase : Phase) : (sent phase).Perm (sent' phase) :=
    (haccounts.submitted phase).symm.trans
      (((hsettled phase).flatMap_right _).trans (haccounts'.submitted phase))
  have hmet (phase : Phase) : ((settled phase).flatten.flatMap (Settlement.faults registry)).Perm
      ((settled' phase).flatten.flatMap (Settlement.faults other)) := by
    rw [hfaults]
    exact (hsettled phase).flatMap_right _
  have hnodes : report.nodes = report'.nodes := by
    rw [haccounts.nodes.2, haccounts'.nodes.2, (hsent .nodes).countP_eq]
  have hrelationships : report.relationships = report'.relationships := by
    rw [haccounts.relationships.2, haccounts'.relationships.2, (hsent .relationships).countP_eq]
  refine ⟨hsent, hnodes, hrelationships, ?_, ?_⟩
  · have hpatterns : (Plan.patterns registry source).Perm (Plan.patterns other source) :=
      (perm.filter _).flatMap_right _
    have hcount := hpatterns.length_eq
    rw [haccounts.patterns, haccounts'.patterns, (hmet .relationships).length_eq] at hcount
    omega
  · rw [haccounts.faults, haccounts'.faults]
    exact (hmet .nodes).append (hmet .relationships)

theorem problem?_of_perm (perm : registry.tables.Perm other.tables)
    (reached : Plan.problem? registry source = none) : Plan.problem? other source = none := by
  rw [Plan.problem?_eq_none_iff] at reached ⊢
  intro phase definition member
  exact reached phase definition ((perm.filter _).mem_iff.mpr member)

end Load

namespace Registry

/-- That nothing tells two registries apart but the order of what they do: they
give the same results for every row, and loads over them agree that get
every statement answered by its text, whether they work on one row after another
or on several at once. -/
structure SameButForOrder (registry other : Registry) : Prop where
  node : ∀ table row, registry.node table row = other.node table row
  batch : ∀ table row, registry.batch table row = other.batch table row
  runs : ∀ source answer, Plan.problem? registry source = none → ∀ width start width' start',
    let after := Load.run registry source (fun _ => answer) ⟨width, .collect⟩ start
    let after' := Load.run other source (fun _ => answer) ⟨width', .collect⟩ start'
    ∃ sent sent' report report', after.2 = .ok report ∧ after'.2 = .ok report' ∧
      after.1.submitted = start.submitted ++ (sent .nodes ++ sent .relationships).toArray ∧
      after'.1.submitted = start'.submitted ++ (sent' .nodes ++ sent' .relationships).toArray ∧
      Load.Concludes registry source answer width sent report ∧
      Load.Concludes other source answer width' sent' report' ∧
      Load.Agree sent sent' report report'
  interleaved : ∀ source answer width width' sent sent' report report',
    Load.Concludes registry source answer width sent report →
    Load.Concludes other source answer width' sent' report' →
      Load.Agree sent sent' report report'

theorem sameButForOrder_of_perm {registry other : Registry}
    (perm : registry.tables.Perm other.tables) : registry.SameButForOrder other := by
  refine ⟨fun table row => (results_of_perm perm table row).1,
    fun table row => (results_of_perm perm table row).2, ?_, ?_⟩
  · intro source answer reached width start width' start' after after'
    have reached' := Load.problem?_of_perm perm reached
    obtain ⟨sent, report, hreport, hsubmitted, hconcludes⟩ :=
      Load.run_concludes reached answer width start
    obtain ⟨sent', report', hreport', hsubmitted', hconcludes'⟩ :=
      Load.run_concludes reached' answer width' start'
    exact ⟨sent, sent', report, report', hreport, hreport', hsubmitted, hsubmitted', hconcludes,
      hconcludes', Load.agree_of_perm perm hconcludes hconcludes'⟩
  · intro source answer width width' sent sent' report report' hconcludes hconcludes'
    exact Load.agree_of_perm perm hconcludes hconcludes'

/-- Entries that can all be inserted can be inserted in any order, and nothing
tells the two registries apart but the order of what they do. Tables that are
added to a registry later change nothing for those that it has, except for the
faults of aliases that refer to one of the later tables. -/
theorem order_of_insertions_immaterial {entries reordered : List (TableSpec × TableSchema)}
    {registry : Registry} (inserted : insertAll entries .empty = .ok registry)
    (perm : entries.Perm reordered) :
    (∃ other, insertAll reordered .empty = .ok other ∧ registry.tables.Perm other.tables ∧
      registry.SameButForOrder other) ∧
    ∀ (before after : Registry) more, insertAll more before = .ok after →
      before.GrowsInto after := by
  constructor
  · obtain ⟨other, hother, htables⟩ := insertAll_of_perm inserted perm
    exact ⟨other, hother, htables, sameButForOrder_of_perm htables⟩
  · intro before after more hafter
    obtain ⟨added, htables, -⟩ := tables_of_insertAll hafter
    apply growsInto_of_subset
    rw [htables]
    exact List.subset_append_left _ _

/-- People who live in houses that people own. -/
def householdEntries : List (TableSpec × TableSchema) :=
  [(⟨"people", some fun _ => ["Person"], some id,
      some fun _ => [.shorthand "(this)-[:LIVES_IN]->(house)"]⟩,
    ⟨"people", ["id"], [⟨0, "house_id", "houses", "id"⟩],
      [("id", .integer), ("house_id", .integer)]⟩),
   (⟨"houses", some fun _ => ["House"], some id,
      some fun _ => [.shorthand "(owner)-[:OWNS]->(this)"]⟩,
    ⟨"houses", ["id"], [⟨0, "owner_id", "people", "id"⟩],
      [("id", .integer), ("owner_id", .integer)]⟩)]

theorem order_of_insertions_immaterial_household :
    ∃ registry, insertAll householdEntries .empty = .ok registry ∧
      householdEntries.Perm householdEntries.reverse ∧
      ∃ other, insertAll householdEntries.reverse .empty = .ok other ∧
        registry.tables.Perm other.tables ∧ registry.SameButForOrder other := by
  have perm : householdEntries.Perm householdEntries.reverse := (List.reverse_perm _).symm
  obtain ⟨registry, inserted⟩ :
      ∃ registry, insertAll householdEntries .empty = .ok registry := ⟨_, rfl⟩
  exact ⟨registry, inserted, perm, (order_of_insertions_immaterial inserted perm).1⟩

end Registry

end RowGraph
