import RowGraph.Proofs.Load.Account
import RowGraph.Proofs.Load.FailFast
import RowGraph.Proofs.Load.Preview
import RowGraph.Proofs.Relationship.Failures

/-!
Where the faults of loads and previews come from. Whatever a load returns or
records, in either mode and in whatever order its rows are worked on, is the
problem of a scan, a fault of a row that a scan yielded, or the refusal of a
statement of such a row. A preview has no refusals.
-/

namespace RowGraph

open Load (Work Settlement)

/-- The faults that can be met in work on the rows of registered tables. -/
inductive Registry.Meets (registry : Registry) (source : Phase → RowSource) : Fault → Prop where
  | scan (phase : Phase) (definition : TableDefinition) (problem : StoreFault)
      (member : definition ∈ registry.tables)
      (broken : Scan.problem? (source phase definition.table) = some problem) :
      Meets registry source (.source definition.table problem)
  | row (phase : Phase) (definition : TableDefinition) (row : Row) (fault : Fault)
      (member : definition ∈ registry.tables)
      (yielded : row ∈ Scan.yielded (source phase definition.table))
      (fails : definition.FailsWith registry row fault) : Meets registry source fault
  | refusal (phase : Phase) (definition : TableDefinition) (row : Row) (statement : String)
      (problem : StoreFault) (member : definition ∈ registry.tables)
      (yielded : row ∈ Scan.yielded (source phase definition.table)) :
      Meets registry source
        (.sink definition.table (definition.rowKey row) statement problem)

variable {registry : Registry} {source : Phase → RowSource} {fault : Fault}

theorem Load.Work.failsWith_of_mem_unmade {work : Work} (member : fault ∈ work.unmade registry) :
    work.definition.FailsWith registry work.row fault := by
  unfold unmade at member
  split at member
  · split at member
    · cases member
    · rename_i found hnode
      rw [List.mem_singleton.mp member]
      exact TableDefinition.failsWith_of_node hnode
  · exact TableDefinition.failsWith_of_mem_faults member

/-- That a row is one which a scan of a registered table yields. -/
def Load.Work.IsRead (registry : Registry) (source : Phase → RowSource) (work : Work) : Prop :=
  work.definition ∈ registry.tables ∧
    work.row ∈ Scan.yielded (source work.phase work.definition.table)

theorem Load.Settlement.meets_of_mem_faults {settlement : Settlement}
    (read : settlement.work.IsRead registry source)
    (member : fault ∈ settlement.faults registry) : registry.Meets source fault := by
  obtain ⟨hmember, hyielded⟩ := read
  rcases List.mem_append.mp member with hunmade | hrefused
  · exact .row _ _ _ fault hmember hyielded (Work.failsWith_of_mem_unmade hunmade)
  · obtain ⟨submission, -, hrefusal⟩ := List.mem_filterMap.mp hrefused
    obtain ⟨problem, -, rfl⟩ := Option.map_eq_some_iff.mp hrefusal
    exact .refusal _ _ _ submission.statement problem hmember hyielded

/-- Where a fault of a load comes from: a scan that broke, or the settlement of a
row that a scan yielded. -/
inductive Load.Arises (registry : Registry) (source : Phase → RowSource) : Fault → Prop where
  | scan (phase : Phase) (definition : TableDefinition) (problem : StoreFault)
      (member : definition ∈ registry.tables)
      (broken : Scan.problem? (source phase definition.table) = some problem) :
      Arises registry source (.source definition.table problem)
  | row (settlement : Settlement) (fault : Fault)
      (read : settlement.work.IsRead registry source) (whole : settlement.IsWhole registry)
      (met : fault ∈ settlement.faults registry) : Arises registry source fault

theorem Load.Arises.meets (arises : Load.Arises registry source fault) :
    registry.Meets source fault := by
  cases arises with
  | scan phase definition problem member broken =>
      exact .scan phase definition problem member broken
  | row settlement fault read whole met => exact settlement.meets_of_mem_faults read met

namespace Plan

theorem reached_subset (source : RowSource) (items : List TableDefinition) :
    reached source items ⊆ items := by
  induction items with
  | nil => exact List.Subset.refl _
  | cons definition rest ih =>
      rw [reached]
      split
      · exact List.cons_subset_cons definition (List.nil_subset rest)
      · exact List.cons_subset_cons definition ih

theorem isRead_of_mem_phaseWork {phase : Phase} {work : Work}
    (member : work ∈ phaseWork phase registry (source phase)) : work.IsRead registry source := by
  obtain ⟨definition, hreached, hwork⟩ := List.mem_flatMap.mp member
  obtain ⟨row, hrow, rfl⟩ := List.mem_map.mp hwork
  exact ⟨List.mem_of_mem_filter (reached_subset _ _ hreached), hrow⟩

theorem isRead_of_mem_loadWork {work : Work} (member : work ∈ loadWork registry source) :
    work.IsRead registry source := by
  rcases List.mem_append.mp member with hnodes | hrelationships
  · exact isRead_of_mem_phaseWork hnodes
  · split at hrelationships
    · exact isRead_of_mem_phaseWork hrelationships
    · cases hrelationships

theorem arises_of_problem? {table : String} {problem : StoreFault}
    (h : problem? registry source = some (table, problem)) :
    Load.Arises registry source (.source table problem) := by
  have hphase : ∃ phase, phaseProblem? phase registry (source phase) = some (table, problem) := by
    rcases Option.or_eq_some_iff.mp h with hnodes | ⟨-, hrelationships⟩
    · exact ⟨.nodes, hnodes⟩
    · exact ⟨.relationships, hrelationships⟩
  obtain ⟨phase, hfirst⟩ := hphase
  obtain ⟨definition, hscanned, hbroken⟩ := List.exists_of_findSome?_eq_some hfirst
  obtain ⟨found, hproblem, hfound⟩ := Option.map_eq_some_iff.mp hbroken
  obtain ⟨rfl, rfl⟩ := Prod.mk.inj hfound
  exact .scan phase definition found (List.mem_of_mem_filter hscanned) hproblem

end Plan

namespace Load

theorem arises_of_mem_settleAll {sink : Sink} {works : List Work} {before : Array Submission}
    (read : ∀ work ∈ works, work.IsRead registry source)
    (member : fault ∈ (settleAll registry sink works before).flatMap
      (Settlement.faults registry)) : Arises registry source fault := by
  obtain ⟨settlement, hsettled, hfault⟩ := List.mem_flatMap.mp member
  have hwork : settlement.work ∈ works := by
    have hworks : (settleAll registry sink works before).map Settlement.work = works :=
      work_settleAll works before
    rw [← hworks]
    exact List.mem_map_of_mem hsettled
  exact .row settlement fault (read _ hwork) (isWhole_of_mem_settleAll hsettled) hfault

theorem arises_of_run (registry : Registry) (source : Phase → RowSource) (sink : Sink)
    (options : LoadOptions) (start : Transcript) :
    match (run registry source sink options start).2 with
    | .error fault => Arises registry source fault
    | .ok report => ∀ fault ∈ report.faults, Arises registry source fault := by
  have hends := (run_runs registry source sink options start).ends
  have hread : ∀ work ∈ Plan.loadWork registry source, work.IsRead registry source :=
    fun _ => Plan.isRead_of_mem_loadWork
  cases hstop : stop? registry options.errorMode
      (settleAll registry sink (Plan.loadWork registry source) start.submitted) with
  | some fault =>
      rw [hstop, Option.some_or] at hends
      rw [hends]
      apply arises_of_mem_settleAll hread
      -- Only fail-fast mode stops at a row.
      cases hmode : options.errorMode with
      | collect =>
          rw [hmode] at hstop
          cases hstop
      | failFast =>
          rw [hmode] at hstop
          exact List.mem_of_head? hstop
  | none =>
      rw [hstop, Option.none_or] at hends
      cases hproblem : Plan.problem? registry source with
      | some problem =>
          rw [hproblem] at hends
          rw [hends]
          exact Plan.arises_of_problem? hproblem
      | none =>
          rw [hproblem] at hends
          rw [hends]
          intro fault member
          rw [faults_settledReport start.submitted hproblem] at member
          exact arises_of_mem_settleAll hread member

theorem arises_of_completes {width : Nat} {sent : Phase → List Submission} {report : Report}
    (completes : Completes registry source width sent report) :
    ∀ fault ∈ report.faults, Arises registry source fault := by
  obtain ⟨settled, haccounts⟩ := accounts_of_completes completes
  have hphase (phase : Phase) : ∀ settlement ∈ (settled phase).flatten,
      settlement.work.IsRead registry source := by
    intro settlement member
    have hrows := (Settles.rows_flatten (haccounts.settles phase)).mem_iff.mp
      (List.mem_map_of_mem member)
    obtain ⟨definition, hdefinition, hwork⟩ := List.mem_flatMap.mp hrows
    obtain ⟨-, row, hrow, heq⟩ := Plan.mem_tableWork_iff.mp hwork
    rw [heq]
    exact ⟨hdefinition, hrow⟩
  have hfaults (phase : Phase) : ∀ fault ∈ (settled phase).flatten.flatMap
      (Settlement.faults registry), Arises registry source fault := by
    intro fault member
    obtain ⟨settlement, hsettled, hfault⟩ := List.mem_flatMap.mp member
    exact .row settlement fault (hphase phase settlement hsettled)
      (Settles.of_mem_flatten (haccounts.settles phase) settlement hsettled).1 hfault
  intro fault member
  rw [haccounts.faults] at member
  rcases List.mem_append.mp member with hnodes | hrelationships
  · exact hfaults .nodes fault hnodes
  · exact hfaults .relationships fault hrelationships

theorem meets_of_run (registry : Registry) (source : Phase → RowSource) (sink : Sink)
    (options : LoadOptions) (start : Transcript) :
    match (run registry source sink options start).2 with
    | .error fault => registry.Meets source fault
    | .ok report => ∀ fault ∈ report.faults, registry.Meets source fault := by
  have harises := arises_of_run registry source sink options start
  split at harises
  · exact harises.meets
  · exact fun fault member => (harises fault member).meets

theorem meets_of_completes {width : Nat} {sent : Phase → List Submission} {report : Report}
    (completes : Completes registry source width sent report) :
    ∀ fault ∈ report.faults, registry.Meets source fault :=
  fun fault member => (arises_of_completes completes fault member).meets

end Load

namespace Preview

theorem mem_unmade_of_made {works : List Work} (h : made registry works = .error fault) :
    ∃ work ∈ works, fault ∈ work.unmade registry := by
  unfold made unlessFaults at h
  split at h
  · cases h
  · rename_i found rest hfaults
    obtain rfl := Except.error.inj h
    rw [← List.mem_flatMap, hfaults]
    exact List.mem_cons_self ..

theorem meets_of_run_all {definition : TableDefinition} {source : RowSource}
    {transcript : Transcript} (member : definition ∈ registry.tables)
    (h : (run registry source definition.table none transcript).2 = .error fault) :
    registry.Meets (fun _ => source) fault := by
  rw [run_eq (Registry.get?_of_mem member)] at h
  split at h
  · rename_i problem hproblem
    obtain rfl := Except.error.inj h
    exact .scan .nodes definition problem member hproblem
  · obtain ⟨work, hwork, hunmade⟩ := mem_unmade_of_made h
    have hread : work.definition = definition ∧
        work.row ∈ Scan.yielded (source definition.table) := by
      rcases List.mem_append.mp hwork with hnodes | hrelationships
      · obtain ⟨row, hrow, rfl⟩ := List.mem_map.mp hnodes
        exact ⟨rfl, hrow⟩
      · obtain ⟨row, hrow, rfl⟩ := List.mem_map.mp hrelationships
        exact ⟨rfl, hrow⟩
    obtain ⟨hdefinition, hrow⟩ := hread
    have hfails := Work.failsWith_of_mem_unmade hunmade
    rw [hdefinition] at hfails
    exact .row .nodes definition work.row fault member hrow hfails

/-- A scan that ends early yields no other rows and breaks for no other
reason. -/
theorem meets_of_upTo {source : RowSource} {table : String} {limit : Nat}
    (h : registry.Meets (fun _ => source.upTo table limit) fault) :
    registry.Meets (fun _ => source) fault := by
  have hscan (name : String) :
      Scan.yielded (source.upTo table limit name) ⊆ Scan.yielded (source name) ∧
        ∀ problem, Scan.problem? (source.upTo table limit name) = some problem →
          Scan.problem? (source name) = some problem := by
    unfold RowSource.upTo
    split
    · cases source name with
      | error problem => exact ⟨List.Subset.refl _, fun _ hproblem => hproblem⟩
      | ok scan =>
          refine ⟨List.take_subset limit scan.rows, ?_⟩
          intro problem hproblem
          simp only [Except.map, Scan.upTo, Scan.problem?] at hproblem
          split at hproblem
          · cases hproblem
          · exact hproblem
    · exact ⟨List.Subset.refl _, fun _ hproblem => hproblem⟩
  cases h with
  | scan phase definition problem member broken =>
      exact .scan phase definition problem member ((hscan definition.table).2 problem broken)
  | row phase definition row fault member yielded fails =>
      exact .row phase definition row fault member ((hscan definition.table).1 yielded) fails
  | refusal phase definition row statement problem member yielded =>
      exact .refusal phase definition row statement problem member
        ((hscan definition.table).1 yielded)

theorem meets_of_run {definition : TableDefinition} {source : RowSource} {limit : Option Nat}
    {transcript : Transcript} (member : definition ∈ registry.tables)
    (h : (run registry source definition.table limit transcript).2 = .error fault) :
    registry.Meets (fun _ => source) fault := by
  cases limit with
  | none => exact meets_of_run_all member h
  | some limit =>
      rw [run_upTo] at h
      exact meets_of_upTo (meets_of_run_all member h)

end Preview

end RowGraph
