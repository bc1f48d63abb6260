import RowGraph.Proofs.Load.Course

/-!
A load in collect mode follows its plan. It settles every row that the scans of
the plan yield, and a row that is settled has sent all of its statements,
whatever the graph refused. Refusals leave marks in the counts and in the log
and nowhere else, so they do not matter here.
-/

namespace RowGraph

open Load (Work Settlement)

namespace Plan

variable {phase : Phase} {registry : Registry} {source : RowSource}

theorem mem_of_mem_reached {definition : TableDefinition} {items : List TableDefinition}
    (member : definition ∈ reached source items) : definition ∈ items := by
  induction items with
  | nil => cases member
  | cons first rest ih =>
      rw [reached] at member
      split at member
      · rw [List.mem_singleton.mp member]
        exact List.mem_cons_self ..
      · rcases List.mem_cons.mp member with rfl | hlater
        · exact List.mem_cons_self ..
        · exact List.mem_cons_of_mem _ (ih hlater)

/-- What a phase sends for a row of a registered table is planned for it. -/
theorem statements_work {definition : TableDefinition} (member : definition ∈ registry.tables)
    (row : Row) : Work.statements registry ⟨phase, definition, row⟩ =
      ofRow phase registry definition.table row := by
  have hfound : registry.get? definition.table = some definition := Registry.get?_of_mem member
  cases phase with
  | nodes =>
      cases hnode : definition.node row <;>
        simp only [Work.statements, ofRow, Registry.node_of_get? hfound, hnode]
  | relationships => simp only [Work.statements, ofRow, Registry.batch_of_get? hfound]

theorem statements_phaseWork (phase : Phase) (registry : Registry) (source : RowSource) :
    (phaseWork phase registry source).flatMap (Work.statements registry) =
      ofPhase phase registry source := by
  rw [phaseWork, ofPhase, List.flatMap_assoc]
  apply List.flatMap_congr
  intro definition reached
  have member : definition ∈ registry.tables := List.mem_of_mem_filter (mem_of_mem_reached reached)
  rw [List.flatMap_map]
  apply List.flatMap_congr
  intro row _
  exact statements_work member row

/-- The plan has the statements of all rows that a load works on. -/
theorem statements_loadWork (registry : Registry) (source : Phase → RowSource) :
    (loadWork registry source).flatMap (Work.statements registry) = ofLoad registry source := by
  rw [loadWork, ofLoad, List.flatMap_append, statements_phaseWork]
  cases phaseProblem? .nodes registry (source .nodes) with
  | some problem => rfl
  | none => rw [statements_phaseWork]

end Plan

namespace Load

theorem statements_settleAll (registry : Registry) (sink : Sink) (works : List Work)
    (before : Array Submission) :
    ((settleAll registry sink works before).flatMap Settlement.submitted).map
      Submission.statement = works.flatMap (Work.statements registry) := by
  induction works generalizing before with
  | nil => rfl
  | cons work rest ih =>
      have hwhole : (work.settle registry sink before).submitted.map Submission.statement =
          work.statements registry := work.isWhole_settle before
      rw [settleAll, List.flatMap_cons, List.map_append, ih, hwhole]
      rfl

/-- Whatever the graph refuses, a load in collect mode submits the statements
of its plan in order and no others. It succeeds exactly if no scan fails, and
otherwise fails with the problem of the first table whose scan does. -/
theorem run_follows_plan (registry : Registry) (source : Phase → RowSource) (sink : Sink)
    (options : LoadOptions) (start : Transcript) :
    let after := run registry source sink { options with errorMode := .collect } start
    after.1.statements = start.statements ++ Plan.ofLoad registry source ∧
      (match Plan.problem? registry source with
        | none => ∃ report, after.2 = .ok report
        | some (table, problem) => after.2 = .error (.source table problem)) ∧
      ((∃ report, after.2 = .ok report) ↔
        ∀ phase, ∀ definition ∈ Plan.tables phase registry,
          Scan.problem? (source phase definition.table) = none) := by
  intro after
  have hruns : Runs registry .collect start.submitted _ _ _ after :=
    run_runs registry source sink { options with errorMode := .collect } start
  have hends := hruns.ends
  rw [stop?, firstStop?, Option.none_or] at hends
  refine ⟨?_, ?_, ?_⟩
  · have hsent := statements_settleAll registry sink (Plan.loadWork registry source)
      start.submitted
    rw [Plan.statements_loadWork] at hsent
    simp only [Transcript.statements, hruns.submitted, Array.toList_append, List.map_append]
    exact congrArg _ hsent
  · cases hproblem : Plan.problem? registry source with
    | none =>
        rw [hproblem] at hends
        exact ⟨_, hends⟩
    | some problem =>
        rw [hproblem] at hends
        exact hends
  · rw [← Plan.problem?_eq_none_iff]
    cases hproblem : Plan.problem? registry source with
    | none =>
        rw [hproblem] at hends
        exact ⟨fun _ => rfl, fun _ => ⟨_, hends⟩⟩
    | some problem =>
        rw [hproblem] at hends
        have hfailed : after.2 = .error (Fault.source problem.1 problem.2) := hends
        simp [hfailed]

end Load

end RowGraph
