import RowGraph.Proofs.Load.Course

/-!
A load in fail-fast mode is the same load in collect mode, cut at the first row
that has a fault. Both go through one list of settlements, that of the rows of
the plan, since up to the cut the graph has received the same statements. The
cut is made after the row is settled: all its statements are sent, also those
after the one that was refused, and the fault that is reported is the first of
the row in the order of the report, not the first that was met.
-/

namespace RowGraph.Load

variable {registry : Registry} {source : Phase → RowSource} {sink : Sink}

/-- How a load in fail-fast mode compares with one in collect mode that starts
with the same submissions and goes through the given settlements. -/
inductive Cuts (registry : Registry) (source : Phase → RowSource) (before : Array Submission)
    (settled : List Settlement) (collected stopped : Transcript × Except Fault Report) : Prop where
  /-- It ends with the first row that has a fault, and with its first fault. -/
  | atRow {first later : List Settlement} {failing : Settlement} {fault : Fault}
      {more : List Fault}
      (course : settled = first ++ failing :: later)
      (clean : ∀ settlement ∈ first, settlement.faults registry = [])
      (failed : failing.faults registry = fault :: more)
      (submitted : stopped.1.submitted =
        before ++ ((first ++ [failing]).flatMap Settlement.submitted).toArray)
      (ends : stopped.2 = .error fault)
  /-- No row has a fault, and a scan ends both loads. -/
  | atScan {table : String} {problem : StoreFault}
      (clean : ∀ settlement ∈ settled, settlement.faults registry = [])
      (met : Plan.problem? registry source = some (table, problem))
      (submitted : stopped.1.submitted = collected.1.submitted)
      (collects : collected.2 = .error (.source table problem))
      (ends : stopped.2 = .error (.source table problem))
  /-- Nothing fails, and both loads give one report. -/
  | nowhere {report : Report}
      (clean : ∀ settlement ∈ settled, settlement.faults registry = [])
      (reached : Plan.problem? registry source = none)
      (submitted : stopped.1.submitted = collected.1.submitted)
      (collects : collected.2 = .ok report)
      (ends : stopped.2 = .ok report)

theorem stop?_of_clean {mode : ErrorMode} {settled : List Settlement}
    (clean : ∀ settlement ∈ settled, settlement.faults registry = []) :
    stop? registry mode settled = none := by
  have hfaults : settled.flatMap (Settlement.faults registry) = [] := by
    rwa [List.flatMap_eq_nil_iff]
  rw [stop?, hfaults]
  cases mode <;> rfl

/-- No row has a fault, or one is the first that has. -/
theorem clean_or_first_fault (registry : Registry) (settled : List Settlement) :
    (∀ settlement ∈ settled, settlement.faults registry = []) ∨
      ∃ first failing later fault more, settled = first ++ failing :: later ∧
        (∀ settlement ∈ first, settlement.faults registry = []) ∧
        failing.faults registry = fault :: more := by
  induction settled with
  | nil => exact .inl (List.forall_mem_nil _)
  | cons current rest ih =>
      cases hfaults : current.faults registry with
      | cons fault more =>
          exact .inr ⟨[], current, rest, fault, more, rfl, List.forall_mem_nil _, hfaults⟩
      | nil =>
          have hcons {others : List Settlement}
              (clean : ∀ settlement ∈ others, settlement.faults registry = []) :
              ∀ settlement ∈ current :: others, settlement.faults registry = [] :=
            List.forall_mem_cons.mpr ⟨hfaults, clean⟩
          obtain hclean | ⟨first, failing, later, fault, more, rfl, hclean, hfailed⟩ := ih
          · exact .inl (hcons hclean)
          · exact .inr ⟨current :: first, failing, later, fault, more, rfl, hcons hclean, hfailed⟩

theorem failFast_first_fault {first : List Settlement} (later : List Settlement)
    {failing : Settlement} {fault : Fault} {more : List Fault}
    (clean : ∀ settlement ∈ first, settlement.faults registry = [])
    (failed : failing.faults registry = fault :: more) :
    reached registry .failFast (first ++ failing :: later) = first ++ [failing] ∧
      stop? registry .failFast (first ++ failing :: later) = some fault := by
  have hfirst : stop? registry .failFast first = none := stop?_of_clean clean
  constructor
  · rw [reached_append hfirst, reached, untilFault, failed, if_neg (List.cons_ne_nil _ _)]
  · rw [stop?_append, hfirst, Option.none_or]
    simp [stop?, firstStop?, failed]

theorem faults_settledReport (before : Array Submission)
    (reached : Plan.problem? registry source = none) :
    (settledReport registry source sink before).faults =
      (settleAll registry sink (Plan.loadWork registry source) before).flatMap
        (Settlement.faults registry) := by
  rw [settleAll_loadWork before (Option.or_eq_none_iff.mp reached).1, List.flatMap_append]
  simp only [← faults_tallySum, tallySum_flatten]
  rfl

section

variable {before : Array Submission} {settled : List Settlement} {found report : Report}
  {collected stopped : Transcript × Except Fault Report}

/-- Going through the same settlements, fail-fast mode cuts where it has to. -/
theorem cuts_of_runs
    (hcollected : Runs registry .collect before settled
      ((Plan.problem? registry source).map fun (table, problem) => Fault.source table problem)
      found collected)
    (hstopped : Runs registry .failFast before settled
      ((Plan.problem? registry source).map fun (table, problem) => Fault.source table problem)
      found stopped) :
    Cuts registry source before settled collected stopped := by
  have hends := hstopped.ends
  -- Without a fault fail-fast mode goes as far as collect mode does, and both
  -- meet the scan that fails, if one does.
  obtain hclean | ⟨first, failing, later, fault, more, rfl, hclean, hfailed⟩ :=
    clean_or_first_fault registry settled
  · have hnone : stop? registry .failFast settled = none := stop?_of_clean hclean
    have hsame : stopped.1.submitted = collected.1.submitted := by
      rw [hcollected.submitted, hstopped.submitted, reached_of_no_stop hnone]
      rfl
    have hcollects := hcollected.ends
    rw [hnone, Option.none_or] at hends
    rw [stop?, firstStop?, Option.none_or] at hcollects
    cases hproblem : Plan.problem? registry source with
    | none =>
        rw [hproblem] at hends hcollects
        exact .nowhere hclean hproblem hsame hcollects hends
    | some problem =>
        rw [hproblem] at hends hcollects
        exact .atScan hclean hproblem hsame hcollects hends
  · obtain ⟨hreached, hstop⟩ := failFast_first_fault later hclean hfailed
    have hsubmitted := hstopped.submitted
    rw [hreached] at hsubmitted
    rw [hstop] at hends
    exact .atRow rfl hclean hfailed hsubmitted hends

/-- What is sent before the cut is sent without it. -/
theorem Cuts.submitted_within (cuts : Cuts registry source before settled collected stopped)
    (all : collected.1.submitted =
      before ++ (settled.flatMap Settlement.submitted).toArray) :
    stopped.1.submitted.toList <+: collected.1.submitted.toList := by
  cases cuts with
  | atRow course clean failed submitted ends =>
      rw [submitted, all, course]
      simp
  | atScan clean met submitted collects ends => simp only [submitted, List.prefix_rfl]
  | nowhere clean reached submitted collects ends => simp only [submitted, List.prefix_rfl]

/-- If collect mode gives a report, fail-fast mode ends with its first fault,
and with the report if that has none. -/
theorem Cuts.ends_of_report (cuts : Cuts registry source before settled collected stopped)
    (reported : collected.2 = .ok report)
    (recorded : report.faults = settled.flatMap (Settlement.faults registry)) :
    stopped.2 = match report.faults with
      | [] => .ok report
      | fault :: _ => .error fault := by
  rw [recorded]
  cases cuts with
  | atRow course clean failed submitted ends =>
      have hclean := List.flatMap_eq_nil_iff.mpr clean
      simp [ends, course, hclean, failed]
  | atScan clean met submitted collects ends =>
      rw [collects] at reported
      cases reported
  | nowhere clean reached submitted collects ends =>
      rw [List.flatMap_eq_nil_iff.mpr clean, ends, ← collects, reported]

end

theorem faults_of_collected {before : Array Submission} {report : Report}
    {collected : Transcript × Except Fault Report}
    (hcollected : Runs registry .collect before
      (settleAll registry sink (Plan.loadWork registry source) before)
      ((Plan.problem? registry source).map fun (table, problem) => Fault.source table problem)
      (settledReport registry source sink before) collected)
    (reported : collected.2 = .ok report) :
    report.faults = (settleAll registry sink (Plan.loadWork registry source) before).flatMap
      (Settlement.faults registry) := by
  have hends := hcollected.ends
  rw [reported, stop?, firstStop?, Option.none_or] at hends
  cases hproblem : Plan.problem? registry source with
  | some problem =>
      rw [hproblem] at hends
      cases hends
  | none =>
      rw [hproblem] at hends
      rw [Except.ok.inj hends, faults_settledReport before hproblem]

/-- A load in fail-fast mode and the same load in collect mode go through one
list of settlements, and the first is the second cut at the first row that has
a fault. -/
theorem run_failFast_cut (registry : Registry) (source : Phase → RowSource) (sink : Sink)
    (options : LoadOptions) (start : Transcript) :
    let collected := run registry source sink { options with errorMode := .collect } start
    let stopped := run registry source sink { options with errorMode := .failFast } start
    ∃ settled : List Settlement,
      settled.map Settlement.work = Plan.loadWork registry source ∧
      (∀ settlement ∈ settled, settlement.IsWhole registry) ∧
      collected.1.submitted =
        start.submitted ++ (settled.flatMap Settlement.submitted).toArray ∧
      (∀ report, collected.2 = .ok report →
        report.faults = settled.flatMap (Settlement.faults registry) ∧
        stopped.2 = match report.faults with
          | [] => .ok report
          | fault :: _ => .error fault) ∧
      stopped.1.submitted.toList <+: collected.1.submitted.toList ∧
      Cuts registry source start.submitted settled collected stopped := by
  intro collected stopped
  have hcollected := run_runs registry source sink { options with errorMode := .collect } start
  have hstopped := run_runs registry source sink { options with errorMode := .failFast } start
  have hcuts := cuts_of_runs hcollected hstopped
  refine ⟨_, work_settleAll _ _, ?_, hcollected.submitted, ?_,
    hcuts.submitted_within hcollected.submitted, hcuts⟩
  · intro settlement member
    exact isWhole_of_mem_settleAll member
  · intro report reported
    have hrecorded := faults_of_collected hcollected reported
    exact ⟨hrecorded, hcuts.ends_of_report reported hrecorded⟩

end RowGraph.Load
