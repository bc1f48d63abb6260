import Mathlib.Data.List.Basic
import RowGraph.Proofs.Load.Tally
import RowGraph.Proofs.Registry.Lookup

/-!
What becomes of one row. A phase has statements for it, and faults that are
found while these are made; the graph answers every statement. The settlement
of a row is all of its statements with their answers, and decides what the row
adds to the tallies: every accepted statement counts, and every refusal is a
fault after those of the making.

So a settled row is accounted for exactly once. A row of the node phase has
either a node or a fault, and every pattern of a row of the relationship phase
has a relationship, nothing to link, or a fault.
-/

namespace RowGraph

def Submission.isAccepted (submission : Submission) : Bool :=
  submission.refusal.isNone

namespace Load

/-- A row that a phase works on. -/
structure Work where
  phase : Phase
  definition : TableDefinition
  row : Row

namespace Work

def statements (registry : Registry) (work : Work) : List String :=
  match work.phase with
  | .nodes =>
    match work.definition.node work.row with
    | .ok statement => [statement.text]
    | .error _ => []
  | .relationships =>
    (work.definition.batch registry work.row).statements.map Cypher.EdgeStatement.text

/-- The faults met while the statements of a row are made. -/
def unmade (registry : Registry) (work : Work) : List Fault :=
  match work.phase with
  | .nodes =>
    match work.definition.node work.row with
    | .ok _ => []
    | .error fault => [fault]
  | .relationships => (work.definition.batch registry work.row).faults

def skipped (registry : Registry) (work : Work) : Nat :=
  match work.phase with
  | .nodes => 0
  | .relationships => (work.definition.batch registry work.row).skipped

/-- What a phase owes a row: its node, or an answer to each of its patterns. -/
def owed (work : Work) : Nat :=
  match work.phase with
  | .nodes => 1
  | .relationships => (work.definition.relationships work.row).length

def refusal? (work : Work) (submission : Submission) : Option Fault :=
  submission.refusal.map
    (.sink work.definition.table (work.definition.rowKey work.row) submission.statement)

end Work

/-- A row and the statements that were sent for it, with their answers. -/
structure Settlement where
  work : Work
  submitted : List Submission

namespace Settlement

def faults (registry : Registry) (settlement : Settlement) : List Fault :=
  settlement.work.unmade registry ++ settlement.submitted.filterMap settlement.work.refusal?

def accepted (settlement : Settlement) : Nat :=
  settlement.submitted.countP Submission.isAccepted

def outcome (registry : Registry) (settlement : Settlement) : RowOutcome :=
  match settlement.work.phase with
  | .nodes => ⟨settlement.accepted, 0, 0, settlement.faults registry⟩
  | .relationships =>
    ⟨0, settlement.accepted, settlement.work.skipped registry, settlement.faults registry⟩

def tally (registry : Registry) (settlement : Settlement) : Tally :=
  (settlement.outcome registry).tally

/-- That the statements which were sent for a row are all of its statements. -/
def IsWhole (registry : Registry) (settlement : Settlement) : Prop :=
  settlement.submitted.map Submission.statement = settlement.work.statements registry

variable {registry : Registry} {settlement : Settlement}

@[simp] theorem faults_outcome :
    (settlement.outcome registry).faults = settlement.faults registry := by
  unfold outcome
  split <;> rfl

@[simp] theorem faults_tally :
    (settlement.tally registry).faults = settlement.faults registry :=
  faults_outcome

theorem accepted_add_refused (work : Work) (submitted : List Submission) :
    submitted.countP Submission.isAccepted + (submitted.filterMap work.refusal?).length =
      submitted.length := by
  induction submitted with
  | nil => rfl
  | cons first rest ih =>
      obtain ⟨statement, refusal⟩ := first
      cases refusal with
      | none =>
          simp only [List.countP_cons, List.filterMap_cons, List.length_cons, Work.refusal?,
            Submission.isAccepted, Option.isNone_none, Option.map_none, if_true]
          omega
      | some problem =>
          simp only [List.countP_cons, List.filterMap_cons, List.length_cons, Work.refusal?,
            Submission.isAccepted, Option.isNone_some, Option.map_some, Bool.false_eq_true,
            if_false]
          omega

end Settlement

theorem length_outcomes (batch : Batch) :
    batch.statements.length + batch.skipped + batch.faults.length = batch.outcomes.length := by
  unfold Batch.statements Batch.skipped Batch.faults
  induction batch.outcomes with
  | nil => rfl
  | cons first rest ih =>
      obtain ⟨pattern, outcome⟩ := first
      cases outcome with
      | linked statement => simp; omega
      | skipped => simp; omega
      | failed fault => simp; omega

/-- The statements, skipped patterns and faults that the making of a row's
statements ends with are all that the phase owes the row. -/
theorem Work.owed_eq (registry : Registry) (work : Work) :
    (work.statements registry).length + work.skipped registry + (work.unmade registry).length =
      work.owed := by
  obtain ⟨phase, definition, row⟩ := work
  cases phase with
  | nodes =>
      simp only [statements, skipped, unmade, owed]
      cases definition.node row <;> rfl
  | relationships =>
      have hbatch := length_outcomes (definition.batch registry row)
      simpa [statements, skipped, unmade, owed, TableDefinition.batch] using hbatch

/-- A settled row is accounted for exactly once. -/
theorem Settlement.IsWhole.owed_eq {registry : Registry} {settlement : Settlement}
    (whole : settlement.IsWhole registry) :
    settlement.accepted + settlement.work.skipped registry +
      (settlement.faults registry).length = settlement.work.owed := by
  have hanswers := accepted_add_refused settlement.work settlement.submitted
  have howed := settlement.work.owed_eq registry
  rw [← whole, List.length_map] at howed
  rw [accepted, faults, List.length_append]
  omega

def answers (sink : Sink) : List String → Array Submission → List Submission
  | [], _ => []
  | statement :: rest, before =>
    let submission : Submission := ⟨statement, sink before statement⟩
    submission :: answers sink rest (before.push submission)

def Work.settle (registry : Registry) (sink : Sink) (work : Work) (before : Array Submission) :
    Settlement :=
  ⟨work, answers sink (work.statements registry) before⟩

/-- The settlements of rows that are worked through one after another. -/
def settleAll (registry : Registry) (sink : Sink) :
    List Work → Array Submission → List Settlement
  | [], _ => []
  | work :: rest, before =>
    let settled := work.settle registry sink before
    settled :: settleAll registry sink rest (before ++ settled.submitted.toArray)

variable {registry : Registry} {sink : Sink}

theorem statements_answers (statements : List String) (before : Array Submission) :
    (answers sink statements before).map Submission.statement = statements := by
  induction statements generalizing before with
  | nil => rfl
  | cons statement rest ih => rw [answers, List.map_cons, ih]

theorem Work.isWhole_settle (work : Work) (before : Array Submission) :
    (work.settle registry sink before).IsWhole registry :=
  statements_answers _ before

theorem isWhole_of_mem_settleAll {works : List Work} {before : Array Submission}
    {settlement : Settlement} (member : settlement ∈ settleAll registry sink works before) :
    settlement.IsWhole registry := by
  induction works generalizing before with
  | nil => cases member
  | cons work rest ih =>
      rcases List.mem_cons.mp member with rfl | hlater
      · exact work.isWhole_settle before
      · exact ih hlater

theorem work_settleAll (works : List Work) (before : Array Submission) :
    (settleAll registry sink works before).map Settlement.work = works := by
  induction works generalizing before with
  | nil => rfl
  | cons work rest ih =>
      rw [settleAll, List.map_cons, ih]
      rfl

theorem settleAll_append (first rest : List Work) (before : Array Submission) :
    settleAll registry sink (first ++ rest) before =
      settleAll registry sink first before ++ settleAll registry sink rest (before ++
        ((settleAll registry sink first before).flatMap Settlement.submitted).toArray) := by
  induction first generalizing before with
  | nil => simp [settleAll]
  | cons work first ih =>
      rw [List.cons_append, settleAll, ih]
      simp [settleAll, Array.append_assoc]

/-- Submitting statements one after another comes to the answers. -/
theorem submitAll_answers (sink : Sink) (work : Work) (statements : List String)
    (transcript : Transcript) :
    let sent := answers sink statements transcript.submitted
    let after := submitAll sink work.definition work.row statements transcript
    after.1.submitted = transcript.submitted ++ sent.toArray ∧
      after.2 = (sent.countP Submission.isAccepted, sent.filterMap work.refusal?) := by
  induction statements generalizing transcript with
  | nil => simp [answers, submitAll]
  | cons statement rest ih =>
      let submission : Submission := ⟨statement, sink transcript.submitted statement⟩
      let next : Transcript := {
        transcript.log (executingEntry work.definition statement) with
        submitted := transcript.submitted.push submission }
      have hsubmit : submit sink work.definition work.row statement transcript =
          (next, work.refusal? submission) := rfl
      obtain ⟨hsent, hresult⟩ := ih next
      have hnext : next.submitted = transcript.submitted.push submission := rfl
      rw [hnext] at hsent hresult
      simp only [answers, submitAll, hsubmit]
      cases hrefusal : submission.refusal with
      | none =>
          have hnone : work.refusal? submission = none := by simp [Work.refusal?, hrefusal]
          have haccepted : submission.isAccepted = true := by
            simp [Submission.isAccepted, hrefusal]
          simp only [hnone, hsent, hresult]
          exact ⟨by simp [submission], by simp [submission, hnone, haccepted]⟩
      | some problem =>
          obtain ⟨fault, hfault⟩ : ∃ fault, work.refusal? submission = some fault := by
            simp [Work.refusal?, hrefusal]
          have hrefused : submission.isAccepted = false := by
            simp [Submission.isAccepted, hrefusal]
          simp only [hfault, hsent, hresult]
          exact ⟨by simp [submission], by simp [submission, hfault, hrefused]⟩

/-- Working on a row of a registered table settles it. -/
theorem row_settle (sink : Sink) (work : Work)
    (registered : registry.get? work.definition.table = some work.definition)
    (transcript : Transcript) :
    let settled := work.settle registry sink transcript.submitted
    let after := row work.phase registry sink work.definition work.row transcript
    after.1.submitted = transcript.submitted ++ settled.submitted.toArray ∧
      after.2 = settled.outcome registry := by
  obtain ⟨phase, definition, current⟩ := work
  cases phase with
  | nodes =>
      have hnode : registry.node definition.table current = definition.node current :=
        Registry.node_of_get? registered current
      cases hmade : definition.node current with
      | error fault =>
          simp [row, nodeRow, hnode, hmade, Work.settle, Work.statements, answers,
            Settlement.outcome, Settlement.accepted, Settlement.faults, Work.unmade]
      | ok statement =>
          obtain ⟨hsent, hresult⟩ := submitAll_answers sink
            ⟨.nodes, definition, current⟩ [statement.text] transcript
          simp only [row, nodeRow, hnode, hmade, hresult]
          simp only [Work.settle, Work.statements, hmade]
          refine ⟨hsent, ?_⟩
          simp [Settlement.outcome, Settlement.accepted, Settlement.faults, Work.unmade, hmade]
  | relationships =>
      have hbatch : registry.batch definition.table current =
          .ok (definition.batch registry current) := Registry.batch_of_get? registered current
      obtain ⟨hsent, hresult⟩ := submitAll_answers sink
        ⟨.relationships, definition, current⟩
        ((definition.batch registry current).statements.map Cypher.EdgeStatement.text)
        (transcript.logAll (definition.batch registry current).entries)
      simp only [row, relationshipRow, hbatch, hresult]
      exact ⟨hsent, rfl⟩

end Load

end RowGraph
