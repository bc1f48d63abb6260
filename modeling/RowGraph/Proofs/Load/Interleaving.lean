import Mathlib.Logic.Relation
import RowGraph.Proofs.Load.Course

/-!
A load that works on several rows at once. A pass over the rows of a scan
begins them in order, a given number at a time. Each row that is under way
sends its statements one after another, but the statements of different rows
alternate in any order, and the graph answers each as it likes. A row whose
statements are all answered is settled: what it adds to the counts is added,
whichever row that is.

Whatever the order, a pass that comes to its end has settled each of its rows
once. Going through the rows one after another is one of these passes.
-/

namespace RowGraph.Load

open Relation (ReflTransGen)

/-- How far a pass over rows has come: the rows that are not begun, those that
are under way with what was sent for them so far, all that was sent, and the
counts of the rows that are settled. -/
structure Pass where
  waiting : List Work
  underway : List Settlement
  sent : List Submission
  total : Tally

namespace Pass

/-- What can happen next in a pass that works on a number of rows at once. -/
inductive Step (registry : Registry) (width : Nat) : Pass → Pass → Prop where
  /-- The next row is begun while there is room. -/
  | start (work : Work) (waiting : List Work) (underway : List Settlement)
      (sent : List Submission) (total : Tally) (room : underway.length < max width 1) :
      Step registry width ⟨work :: waiting, underway, sent, total⟩
        ⟨waiting, underway ++ [⟨work, []⟩], sent, total⟩
  /-- A row sends its next statement, which is answered. -/
  | send (waiting : List Work) (first later : List Settlement) (work : Work)
      (answered sent : List Submission) (total : Tally) (submission : Submission)
      (rest : List String)
      (next : work.statements registry =
        answered.map Submission.statement ++ submission.statement :: rest) :
      Step registry width ⟨waiting, first ++ ⟨work, answered⟩ :: later, sent, total⟩
        ⟨waiting, first ++ ⟨work, answered ++ [submission]⟩ :: later, sent ++ [submission], total⟩
  /-- A row whose statements are all answered is settled. -/
  | settle (waiting : List Work) (first later : List Settlement) (settled : Settlement)
      (sent : List Submission) (total : Tally) (whole : settled.IsWhole registry) :
      Step registry width ⟨waiting, first ++ settled :: later, sent, total⟩
        ⟨waiting, first ++ later, sent, total.add (settled.tally registry)⟩

def Ends (registry : Registry) (width : Nat) (works : List Work) (sent : List Submission)
    (total : Tally) : Prop :=
  ReflTransGen (Step registry width) ⟨works, [], [], .zero⟩ ⟨[], [], sent, total⟩

/-- That the rows of a pass are in it once, that those which are settled are
settled wholly, that what is sent for each is in its order among all that is
sent, and that the settled rows make up the counts. -/
structure Keeps (registry : Registry) (works : List Work) (settled : List Settlement)
    (pass : Pass) : Prop where
  rows : ((settled ++ pass.underway).map Settlement.work ++ pass.waiting).Perm works
  whole : ∀ settlement ∈ settled, settlement.IsWhole registry
  sent : ((settled ++ pass.underway).flatMap Settlement.submitted).Perm pass.sent
  ordered : ∀ settlement ∈ settled ++ pass.underway, settlement.submitted.Sublist pass.sent
  total : pass.total = tallySum registry settled

variable {registry : Registry} {width : Nat} {works : List Work} {settled : List Settlement}
  {pass next : Pass} {sent : List Submission} {total : Tally}

/-- No step loses a row or counts one twice. -/
theorem Step.keeps (step : Step registry width pass next)
    (kept : Keeps registry works settled pass) :
    ∃ more, Keeps registry works (settled ++ more) next := by
  obtain ⟨hrows, hwhole, hsent, hordered, htotal⟩ := kept
  cases step with
  | start work waiting underway sent total room =>
      refine ⟨[], ?_, ?_, ?_, ?_, ?_⟩
      · simpa using hrows
      · simpa using hwhole
      · simpa using hsent
      · intro settlement member
        rw [List.append_nil, ← List.append_assoc, List.mem_append, List.mem_singleton] at member
        rcases member with hbefore | rfl
        · exact hordered settlement hbefore
        · exact List.nil_sublist _
      · simpa using htotal
  | send waiting first later work answered sent total submission rest next =>
      refine ⟨[], ?_, ?_, ?_, ?_, ?_⟩
      · simpa using hrows
      · simpa using hwhole
      · -- The statement is the last of all that were sent, but the row need not
        -- be the last of those under way.
        have hlast : ([submission] ++ later.flatMap Settlement.submitted).Perm
            (later.flatMap Settlement.submitted ++ [submission]) := List.perm_append_comm
        have hmoved := hlast.append_left
          (settled.flatMap Settlement.submitted ++ first.flatMap Settlement.submitted ++ answered)
        apply List.Perm.trans (by simpa using hmoved)
        simpa using hsent.append_right [submission]
      · intro settlement member
        have hmember : settlement = ⟨work, answered ++ [submission]⟩ ∨
            settlement ∈ settled ++ (first ++ ⟨work, answered⟩ :: later) := by
          simp only [List.append_nil, List.mem_append, List.mem_cons] at member ⊢
          tauto
        rcases hmember with rfl | hbefore
        · have hanswered : answered.Sublist sent := hordered ⟨work, answered⟩ (by simp)
          exact hanswered.append_right [submission]
        · exact (hordered settlement hbefore).trans (List.sublist_append_left _ _)
      · simpa using htotal
  | settle waiting first later finished sent total whole =>
      have hmoved : (settled ++ [finished] ++ (first ++ later)).Perm
          (settled ++ (first ++ finished :: later)) := by
        rw [List.append_assoc, List.singleton_append]
        exact List.perm_middle.symm.append_left settled
      refine ⟨[finished], ?_, ?_, ?_, ?_, ?_⟩
      · exact ((hmoved.map Settlement.work).append_right waiting).trans hrows
      · intro settlement member
        rcases List.mem_append.mp member with hbefore | hlast
        · exact hwhole settlement hbefore
        · rwa [List.mem_singleton.mp hlast]
      · exact (hmoved.flatMap_right Settlement.submitted).trans hsent
      · exact fun settlement member => hordered settlement (hmoved.mem_iff.mp member)
      · have hone : tallySum registry [finished] = finished.tally registry := Tally.add_zero _
        simp only at htotal ⊢
        rw [tallySum_append, hone, htotal]

/-- A pass that comes to its end has settled each of its rows once. -/
theorem Ends.exists_settled (ends : Ends registry width works sent total) :
    ∃ settled : List Settlement, (settled.map Settlement.work).Perm works ∧
      (∀ settlement ∈ settled, settlement.IsWhole registry) ∧
      (settled.flatMap Settlement.submitted).Perm sent ∧
      (∀ settlement ∈ settled, settlement.submitted.Sublist sent) ∧
      total = tallySum registry settled := by
  have hkeeps : ∀ last, ReflTransGen (Step registry width) ⟨works, [], [], .zero⟩ last →
      ∃ settled, Keeps registry works settled last := by
    intro last steps
    induction steps with
    | refl => exact ⟨[], by simp, by simp, by simp, by simp, rfl⟩
    | tail steps step ih =>
        obtain ⟨settled, hkept⟩ := ih
        obtain ⟨more, hmore⟩ := step.keeps hkept
        exact ⟨settled ++ more, hmore⟩
  obtain ⟨settled, hrows, hwhole, hsent, hordered, htotal⟩ := hkeeps _ ends
  simp only [List.append_nil] at hrows hsent hordered
  exact ⟨settled, hrows, hwhole, hsent, hordered, htotal⟩

/-- A pass sends all statements of its rows, those of each row in their
order. -/
theorem Ends.statements (ends : Ends registry width works sent total) :
    (sent.map Submission.statement).Perm (works.flatMap (Work.statements registry)) ∧
      ∀ work ∈ works, (work.statements registry).Sublist (sent.map Submission.statement) := by
  obtain ⟨settled, hrows, hwhole, hsent, hordered, -⟩ := ends.exists_settled
  have hstatements : ∀ settlement ∈ settled,
      settlement.submitted.map Submission.statement = settlement.work.statements registry := hwhole
  constructor
  · have hall : (settled.flatMap Settlement.submitted).map Submission.statement =
        (settled.map Settlement.work).flatMap (Work.statements registry) := by
      rw [List.map_flatMap, List.flatMap_map]
      exact List.flatMap_congr hstatements
    have hperm := hsent.symm.map Submission.statement
    rw [hall] at hperm
    exact hperm.trans (hrows.flatMap_right _)
  · intro work member
    obtain ⟨settlement, hmember, rfl⟩ := List.mem_map.mp (hrows.mem_iff.mpr member)
    rw [← hstatements settlement hmember]
    exact (hordered settlement hmember).map _

/-- That at most one row of a pass is under way, and what is sent is sent row by
row: all statements of the rows before it, and some of its own. -/
structure InTurn (registry : Registry) (works : List Work) (pass : Pass) : Prop where
  alone : pass.underway.length ≤ 1
  course : ∃ done, works = done ++ pass.underway.map Settlement.work ++ pass.waiting ∧
    pass.sent.map Submission.statement = done.flatMap (Work.statements registry) ++
      pass.underway.flatMap fun settlement => settlement.submitted.map Submission.statement

theorem eq_nil_of_alone {first later : List Settlement} {settlement : Settlement}
    (alone : (first ++ settlement :: later).length ≤ 1) : first = [] ∧ later = [] := by
  rw [List.length_append, List.length_cons] at alone
  exact ⟨List.length_eq_zero_iff.mp (by omega), List.length_eq_zero_iff.mp (by omega)⟩

/-- A pass that works on one row at a time stays so. -/
theorem Step.inTurn (step : Step registry width pass next) (one : width ≤ 1)
    (turn : InTurn registry works pass) : InTurn registry works next := by
  obtain ⟨halone, finished, hworks, hsent⟩ := turn
  cases step with
  | start work waiting underway sent total room =>
      have hempty : underway = [] := List.length_eq_zero_iff.mp (by omega)
      subst hempty
      exact ⟨Nat.le_refl 1, finished, by simpa using hworks, by simpa using hsent⟩
  | send waiting first later work answered sent total submission rest next =>
      obtain ⟨rfl, rfl⟩ := eq_nil_of_alone halone
      refine ⟨halone, finished, hworks, ?_⟩
      simp only [List.nil_append, List.flatMap_cons, List.flatMap_nil, List.append_nil,
        List.map_append] at hsent ⊢
      rw [hsent, List.append_assoc]
  | settle waiting first later settled sent total whole =>
      obtain ⟨rfl, rfl⟩ := eq_nil_of_alone halone
      refine ⟨Nat.zero_le 1, finished ++ [settled.work], by simpa using hworks, ?_⟩
      have hwhole : settled.submitted.map Submission.statement =
        settled.work.statements registry := whole
      simpa [hwhole] using hsent

/-- A pass that works on one row at a time sends the statements in the order of
the rows. -/
theorem Ends.statements_of_one (ends : Ends registry width works sent total) (one : width ≤ 1) :
    sent.map Submission.statement = works.flatMap (Work.statements registry) := by
  have hturn : ∀ last, ReflTransGen (Step registry width) ⟨works, [], [], .zero⟩ last →
      InTurn registry works last := by
    intro last steps
    induction steps with
    | refl => exact ⟨Nat.zero_le 1, [], by simp, by simp⟩
    | tail steps step ih => exact step.inTurn one ih
  obtain ⟨-, finished, hworks, hsent⟩ := hturn _ ends
  simp only [List.map_nil, List.append_nil, List.flatMap_nil] at hworks hsent
  rw [hsent, hworks]

/-- Two rows under way at once, which send their statements by turns. -/
theorem ends_alternating {first second : Work} {a b c d : String}
    (hfirst : first.statements registry = [a, b])
    (hsecond : second.statements registry = [c, d]) :
    Ends registry 2 [first, second] [⟨a, none⟩, ⟨c, none⟩, ⟨b, none⟩, ⟨d, none⟩]
      (tallySum registry [⟨first, [⟨a, none⟩, ⟨b, none⟩]⟩, ⟨second, [⟨c, none⟩, ⟨d, none⟩]⟩]) := by
  let one : Settlement := ⟨first, [⟨a, none⟩, ⟨b, none⟩]⟩
  let two : Settlement := ⟨second, [⟨c, none⟩, ⟨d, none⟩]⟩
  have htotal : tallySum registry [one, two] =
      (Tally.zero.add (one.tally registry)).add (two.tally registry) := by
    simp [tallySum, Tally.sum]
  rw [htotal]
  -- Both rows are begun before the first statement of either is sent.
  refine .head (.start first [second] [] [] .zero Nat.two_pos) ?_
  refine .head (.start second [] [⟨first, []⟩] [] .zero Nat.one_lt_two) ?_
  refine .head (.send [] [] [⟨second, []⟩] first [] [] .zero ⟨a, none⟩ [b] hfirst) ?_
  refine .head (.send [] [⟨first, [⟨a, none⟩]⟩] [] second [] _ .zero ⟨c, none⟩ [d] hsecond) ?_
  refine .head (.send [] [] [⟨second, [⟨c, none⟩]⟩] first [⟨a, none⟩] _ .zero ⟨b, none⟩ []
    hfirst) ?_
  refine .head (.send [] [one] [] second [⟨c, none⟩] _ .zero ⟨d, none⟩ [] hsecond) ?_
  refine .head (.settle [] [] [two] one _ .zero hfirst.symm) ?_
  exact .head (.settle [] [] [] two _ _ hsecond.symm) .refl

variable {sink : Sink}

/-- A row alone under way gets the answers to the rest of its statements. -/
theorem steps_answers (width : Nat) (sink : Sink) (waiting : List Work) (work : Work)
    (answered sent : List Submission) (total : Tally) (rest : List String)
    (before : Array Submission)
    (next : work.statements registry = answered.map Submission.statement ++ rest) :
    ReflTransGen (Step registry width) ⟨waiting, [⟨work, answered⟩], sent, total⟩
      ⟨waiting, [⟨work, answered ++ answers sink rest before⟩],
        sent ++ answers sink rest before, total⟩ := by
  -- The answers that are known move over to the answered ones one by one.
  induction rest generalizing answered sent before with
  | nil =>
      simp only [answers, List.append_nil]
      exact ReflTransGen.refl
  | cons statement rest ih =>
      let submission : Submission := ⟨statement, sink before statement⟩
      have hstep : Step registry width ⟨waiting, [⟨work, answered⟩], sent, total⟩
          ⟨waiting, [⟨work, answered ++ [submission]⟩], sent ++ [submission], total⟩ :=
        .send waiting [] [] work answered sent total submission rest next
      have hrest := ih (answered ++ [submission]) (sent ++ [submission]) (before.push submission)
        (by simpa [submission] using next)
      simp only [List.append_assoc, List.singleton_append] at hrest
      exact ReflTransGen.head (by simpa using hstep) hrest

/-- Settling rows one after another is a pass, however many rows it could work
on at once. -/
theorem steps_settleAll (registry : Registry) (width : Nat) (sink : Sink) (works : List Work)
    (sent : List Submission) (total : Tally) (before : Array Submission) :
    let settled := settleAll registry sink works before
    ReflTransGen (Step registry width) ⟨works, [], sent, total⟩
      ⟨[], [], sent ++ settled.flatMap Settlement.submitted,
        total.add (tallySum registry settled)⟩ := by
  induction works generalizing sent total before with
  | nil =>
      have hnone : total.add (tallySum registry []) = total := Tally.add_zero total
      simp only [settleAll, List.flatMap_nil, List.append_nil, hnone]
      exact ReflTransGen.refl
  | cons work rest ih =>
      obtain ⟨settled, hsettled⟩ : ∃ settled, settled =
        work.settle registry sink before := ⟨_, rfl⟩
      have hstart : Step registry width ⟨work :: rest, [], sent, total⟩
          ⟨rest, [⟨work, []⟩], sent, total⟩ :=
        .start work rest [] sent total (Nat.lt_of_lt_of_le Nat.zero_lt_one (Nat.le_max_right _ _))
      have hanswers := steps_answers width sink rest work [] sent total
        (work.statements registry) before rfl
      rw [List.nil_append] at hanswers
      change ReflTransGen _ _ (Pass.mk rest [work.settle registry sink before]
        (sent ++ (work.settle registry sink before).submitted) total) at hanswers
      rw [← hsettled] at hanswers
      have hsettle : Step registry width ⟨rest, [settled], sent ++ settled.submitted, total⟩
          ⟨rest, [], sent ++ settled.submitted, total.add (settled.tally registry)⟩ :=
        .settle rest [] [] settled _ total (hsettled ▸ work.isWhole_settle before)
      have hrest := ih (sent ++ settled.submitted) (total.add (settled.tally registry))
        (before ++ settled.submitted.toArray)
      simp only [settleAll, ← hsettled]
      have hsum (more : List Settlement) : tallySum registry (settled :: more) =
          (settled.tally registry).add (tallySum registry more) := rfl
      simp only [List.flatMap_cons, hsum, ← Tally.add_assoc, ← List.append_assoc]
      exact ((ReflTransGen.single hstart).trans hanswers).trans
        ((ReflTransGen.single hsettle).trans hrest)

theorem ends_settleAll (registry : Registry) (width : Nat) (sink : Sink) (works : List Work)
    (before : Array Submission) :
    let settled := settleAll registry sink works before
    Ends registry width works (settled.flatMap Settlement.submitted)
      (tallySum registry settled) := by
  have hsteps := steps_settleAll registry width sink works [] .zero before
  simp only [List.nil_append, Tally.zero_add] at hsteps
  exact hsteps

end Pass

/-- That a phase comes to the end of a table, with all that it sent for the
table and the counts of the table. A table that the phase does not scan has no
rows to work on. -/
def TableEnds (phase : Phase) (registry : Registry) (source : RowSource) (width : Nat)
    (definition : TableDefinition) (pass : List Submission × Tally) : Prop :=
  Plan.tableProblem? phase source definition = none ∧
    Pass.Ends registry width (Plan.tableWork phase source definition) pass.1 pass.2

/-- That a load that works on a number of rows at once comes to its end: the
tables follow each other, and the relationships of all tables follow the
nodes. -/
def Completes (registry : Registry) (source : Phase → RowSource) (width : Nat)
    (sent : Phase → List Submission) (report : Report) : Prop :=
  ∃ passes : Phase → List (List Submission × Tally),
    (∀ phase, List.Forall₂ (TableEnds phase registry (source phase) width) registry.tables
      (passes phase)) ∧
    (∀ phase, sent phase = (passes phase).flatMap Prod.fst) ∧
    report = Report.ofTallies registry ((passes .nodes).map Prod.snd)
      ((passes .relationships).map Prod.snd)

variable {registry : Registry} {source : Phase → RowSource} {sink : Sink} {width : Nat}

theorem settleEach_ends {phase : Phase} {source : RowSource} {items : List TableDefinition}
    (reached : ∀ definition ∈ items, Plan.tableProblem? phase source definition = none)
    (before : Array Submission) :
    List.Forall₂ (TableEnds phase registry source width) items
      ((settleEach registry sink (Plan.works phase source items) before).map fun settled =>
        (settled.flatMap Settlement.submitted, tallySum registry settled)) := by
  rw [Plan.works_of_no_problem reached]
  induction items generalizing before with
  | nil => exact .nil
  | cons definition rest ih =>
      have hfirst := reached definition (List.mem_cons_self ..)
      have hpass := Pass.ends_settleAll registry width sink
        (Plan.tableWork phase source definition) before
      refine .cons ⟨hfirst, hpass⟩ ?_
      exact ih (fun other member => reached other (List.mem_cons_of_mem _ member)) _

/-- A load in collect mode that gives a report comes to its end in the sense
of passes. -/
theorem completes_of_run {start after : Transcript} {report : Report}
    (done : run registry source sink ⟨width, .collect⟩ start = (after, .ok report)) :
    ∃ sent : Phase → List Submission,
      after.submitted = start.submitted ++ (sent .nodes ++ sent .relationships).toArray ∧
      Completes registry source width sent report := by
  have hrun := run_runs registry source sink ⟨width, .collect⟩ start
  rw [done] at hrun
  obtain ⟨-, hproblem, hreport, hsubmitted⟩ := hrun.of_ok
  rw [Option.map_eq_none_iff] at hproblem
  have hnodes := (Option.or_eq_none_iff.mp hproblem).1
  let nodes := settleEach registry sink
    (Plan.works .nodes (source .nodes) registry.tables) start.submitted
  let middle := start.submitted ++ (nodes.flatten.flatMap Settlement.submitted).toArray
  let relationships := settleEach registry sink
    (Plan.works .relationships (source .relationships) registry.tables) middle
  let ledger : List Settlement → List Submission × Tally := fun settled =>
    (settled.flatMap Settlement.submitted, tallySum registry settled)
  let passes : Phase → List (List Submission × Tally) := fun phase =>
    phase.casesOn (nodes.map ledger) (relationships.map ledger)
  refine ⟨fun phase => (passes phase).flatMap Prod.fst, ?_, passes, ?_, fun phase => rfl, ?_⟩
  · rw [hsubmitted, settleAll_loadWork _ hnodes]
    have hpasses (settled : List (List Settlement)) : (settled.map ledger).flatMap Prod.fst =
        settled.flatten.flatMap Settlement.submitted := by
      rw [List.flatMap_map, List.flatten_eq_flatMap, List.flatMap_assoc]
      rfl
    simp only [passes, hpasses]
    rw [List.flatMap_append]
  · intro phase
    cases phase with
    | nodes => exact settleEach_ends (tableProblem?_eq_none hproblem) _
    | relationships => exact settleEach_ends (tableProblem?_eq_none hproblem) _
  · rw [hreport]
    simp only [passes, List.map_map]
    rfl

end RowGraph.Load
