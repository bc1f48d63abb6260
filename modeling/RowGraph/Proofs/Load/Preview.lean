import RowGraph.Engine
import RowGraph.Proofs.Load.Interleaving
import RowGraph.Proofs.Load.Run

/-!
A preview foresees a load. A preview works on the rows of one table, first for
their nodes and then for their relationships; a load works on the same rows
among those of all other tables, one phase after the other. Both make the same
statements of a row, so that what a preview returns is what a load sends for the
table, and a preview fails with the first fault that the load would have met.

The order is that of the preview while one row is worked on at a time, and also
if the graph answers every statement at once. Otherwise the statements of
different rows may change places within a phase.

A preview of a number of rows is a preview of a scan that ends after as many
items.
-/

namespace RowGraph

open Load (Work Settlement settleAll)

namespace Scan

/-- What a scan yields, item by item: its rows, and the fault that ends it. -/
def items (scan : Scan) : List (Except StoreFault Row) :=
  scan.rows.map .ok ++ scan.broken.toList.map .error

def upTo (scan : Scan) (limit : Nat) : Scan :=
  ⟨scan.rows.take limit, if limit ≤ scan.rows.length then none else scan.broken⟩

theorem items_upTo (scan : Scan) (limit : Nat) :
    (scan.upTo limit).items = scan.items.take limit := by
  rw [items, items, List.take_append, List.length_map, upTo, List.map_take]
  by_cases hlimit : limit ≤ scan.rows.length
  · simp [hlimit]
  · have hbroken : scan.broken.toList.map (Except.error (α := Row)) =
        (scan.broken.toList.map Except.error).take (limit - scan.rows.length) := by
      rw [List.take_of_length_le]
      rw [List.length_map]
      have hone := Option.length_toList_le (o := scan.broken)
      omega
    rw [if_neg hlimit, ← hbroken]

end Scan

/-- A source in which the scan of one table ends after a number of items. -/
def RowSource.upTo (source : RowSource) (table : String) (limit : Nat) : RowSource := fun name =>
  if name = table then (source name).map (Scan.upTo · limit) else source name

namespace Preview

variable {registry : Registry} {definition : TableDefinition} {source : RowSource}

theorem firstRows_upTo (scan : Scan) (limit : Nat) :
    firstRows scan (some limit) = firstRows (scan.upTo limit) none := by
  unfold firstRows Scan.upTo
  by_cases hlimit : limit ≤ scan.rows.length
  · simp [hlimit]
  · have hall : scan.rows.take limit = scan.rows := List.take_of_length_le (by omega)
    simp [hlimit, hall]

theorem firstRows_none (scan : Scan) :
    firstRows scan none = match Scan.problem? (.ok scan) with
      | some problem => .error problem
      | none => .ok (Scan.yielded (.ok scan)) := rfl

/-- A preview of a number of rows is one of a scan that ends after them. -/
theorem run_upTo (registry : Registry) (source : RowSource) (table : String) (limit : Nat)
    (transcript : Transcript) :
    run registry source table (some limit) transcript =
      run registry (source.upTo table limit) table none transcript := by
  unfold run
  cases hscan : source table with
  | error problem => simp only [RowSource.upTo, if_true, hscan, Except.map]
  | ok scan => simp only [RowSource.upTo, if_true, hscan, Except.map, firstRows_upTo]

def unlessFaults {α : Type} (faults : List Fault) (value : α) : Except Fault α :=
  match faults with
  | [] => .ok value
  | fault :: _ => .error fault

def made (registry : Registry) (works : List Work) : Except Fault (List String) :=
  unlessFaults (works.flatMap (Work.unmade registry)) (works.flatMap (Work.statements registry))

theorem made_append (first rest : List Work) :
    made registry (first ++ rest) =
      match made registry first with
      | .error fault => .error fault
      | .ok texts => (made registry rest).map (texts ++ ·) := by
  unfold made
  rw [List.flatMap_append, List.flatMap_append]
  cases first.flatMap (Work.unmade registry) with
  | cons fault faults => rfl
  | nil => cases rest.flatMap (Work.unmade registry) <;> rfl

theorem made_cons (work : Work) (rest : List Work) :
    made registry (work :: rest) =
      match unlessFaults (work.unmade registry) (work.statements registry) with
      | .error fault => .error fault
      | .ok texts => (made registry rest).map (texts ++ ·) := by
  have hone : made registry [work] =
      unlessFaults (work.unmade registry) (work.statements registry) := by
    simp [made]
  rw [← hone]
  exact made_append [work] rest

theorem nodes_eq (registered : registry.get? definition.table = some definition)
    (rows : List Row) :
    nodes registry definition.table rows =
      made registry (rows.map (Work.mk .nodes definition)) := by
  induction rows with
  | nil => rfl
  | cons row rest ih =>
      rw [nodes, List.map_cons, made_cons, ← ih, Registry.node_of_get? registered]
      cases hnode : definition.node row with
      | error fault => simp [Work.unmade, hnode, unlessFaults]
      | ok statement =>
          simp only [Work.unmade, Work.statements, hnode, unlessFaults]
          cases nodes registry definition.table rest <;> rfl

theorem relationships_eq (registered : registry.get? definition.table = some definition)
    (rows : List Row) :
    (relationships registry definition.table rows).2 =
      made registry (rows.map (Work.mk .relationships definition)) := by
  induction rows with
  | nil => rfl
  | cons row rest ih =>
      rw [List.map_cons, made_cons, ← ih]
      simp only [relationships, Registry.batch_of_get? registered, Work.unmade, Work.statements,
        Batch.result]
      cases (definition.batch registry row).faults <;> rfl

theorem ofRows_eq (registered : registry.get? definition.table = some definition)
    (rows : List Row) (transcript : Transcript) :
    (ofRows registry definition.table rows transcript).2 =
      made registry (rows.map (Work.mk .nodes definition) ++
        rows.map (Work.mk .relationships definition)) := by
  rw [made_append, ← nodes_eq registered, ← relationships_eq registered, ofRows]
  cases nodes registry definition.table rows with
  | error fault => rfl
  | ok texts =>
      cases relationships registry definition.table rows with
      | mk entries result => cases result <;> rfl

theorem run_eq (registered : registry.get? definition.table = some definition)
    (transcript : Transcript) :
    (run registry source definition.table none transcript).2 =
      match Scan.problem? (source definition.table) with
      | some problem => .error (.source definition.table problem)
      | none =>
        let rows := Scan.yielded (source definition.table)
        made registry (rows.map (Work.mk .nodes definition) ++
          rows.map (Work.mk .relationships definition)) := by
  rw [run, if_pos (Registry.contains_of_get? registered)]
  cases source definition.table with
  | error problem => rfl
  | ok scan =>
      simp only [firstRows_none]
      cases Scan.problem? (.ok scan) with
      | some problem => rfl
      | none => exact ofRows_eq registered _ _

theorem submitted_ofRows (registry : Registry) (table : String) (rows : List Row)
    (transcript : Transcript) :
    (ofRows registry table rows transcript).1.submitted = transcript.submitted := by
  unfold ofRows
  cases nodes registry table rows with
  | error fault => rfl
  | ok texts =>
      cases relationships registry table rows with
      | mk entries result => cases result <;> rfl

theorem submitted_run (registry : Registry) (source : RowSource) (table : String)
    (limit : Option Nat) (transcript : Transcript) :
    (run registry source table limit transcript).1.submitted = transcript.submitted := by
  unfold run
  split
  · cases source table with
    | error problem => rfl
    | ok scan =>
        cases hrows : firstRows scan limit with
        | error problem => simp only [hrows]; rfl
        | ok rows => simp only [hrows, submitted_ofRows]; rfl
  · rfl

end Preview

/-- The work of a load on one table in one phase is that on the rows of its
scan. -/
theorem Plan.filter_loadWork {registry : Registry} {definition : TableDefinition}
    {source : Phase → RowSource} (member : definition ∈ registry.tables)
    (reached : problem? registry source = none) (phase : Phase) :
    ((loadWork registry source).filter fun work =>
        work.phase = phase ∧ work.definition.table = definition.table) =
      tableWork phase (source phase) definition := by
  have hphaseWork (other : Phase) : phaseWork other registry (source other) =
      registry.tables.flatMap (tableWork other (source other)) := by
    rw [← Load.flatten_works_tables, works_of_no_problem (Load.tableProblem?_eq_none reached),
      List.flatMap_def]
  have hsame : ((phaseWork phase registry (source phase)).filter fun work =>
        work.phase = phase ∧ work.definition.table = definition.table) =
      tableWork phase (source phase) definition := by
    rw [hphaseWork, List.filter_flatMap, flatMap_of_key registry.names_nodup member]
    · rw [List.filter_eq_self]
      intro work hwork
      obtain ⟨-, row, -, rfl⟩ := mem_tableWork_iff.mp hwork
      simp
    · intro other _ hne
      rw [List.filter_eq_nil_iff]
      intro work hwork
      obtain ⟨-, row, -, rfl⟩ := mem_tableWork_iff.mp hwork
      simp [hne]
  have hother (other : Phase) (hne : other ≠ phase) :
      ((phaseWork other registry (source other)).filter fun work =>
        work.phase = phase ∧ work.definition.table = definition.table) = [] := by
    rw [List.filter_eq_nil_iff]
    intro work hwork
    rw [hphaseWork, List.mem_flatMap] at hwork
    obtain ⟨table, -, hwork⟩ := hwork
    obtain ⟨-, row, -, rfl⟩ := mem_tableWork_iff.mp hwork
    simp [hne]
  have hnodes : phaseProblem? .nodes registry (source .nodes) = none :=
    (Option.or_eq_none_iff.mp reached).1
  rw [loadWork, hnodes, List.filter_append]
  cases phase with
  | nodes => rw [hsame, hother .relationships (by simp), List.append_nil]
  | relationships => rw [hsame, hother .nodes (by simp), List.nil_append]

namespace Load

variable {registry : Registry} {definition : TableDefinition} {settled : List Settlement}

def sentFor (phase : Phase) (table : String) (settled : List Settlement) : List String :=
  (settled.filter fun settlement =>
    settlement.work.phase = phase ∧ settlement.work.definition.table = table).flatMap
      fun settlement => settlement.submitted.map Submission.statement

theorem sentFor_eq (whole : ∀ settlement ∈ settled, settlement.IsWhole registry) (phase : Phase)
    (table : String) :
    sentFor phase table settled =
      ((settled.map Settlement.work).filter fun work =>
        work.phase = phase ∧ work.definition.table = table).flatMap
          (Work.statements registry) := by
  rw [List.filter_map, List.flatMap_map, sentFor]
  apply List.flatMap_congr
  intro settlement member
  exact whole settlement (List.mem_of_mem_filter member)

/-- What is sent for a table that maps no relationships is complete without the
second phase. -/
theorem statements_tableWork (phase : Phase) (registry : Registry) (source : RowSource)
    (definition : TableDefinition) :
    (Plan.tableWork phase source definition).flatMap (Work.statements registry) =
      ((Scan.yielded (source definition.table)).map (Work.mk phase definition)).flatMap
        (Work.statements registry) := by
  unfold Plan.tableWork
  split
  · rfl
  · rename_i hscans
    cases phase with
    | nodes => exact absurd rfl hscans
    | relationships =>
        have hnone : definition.relationships? = none := by
          simpa [Plan.scans, TableDefinition.hasRelationships] using hscans
        symm
        rw [List.flatMap_nil, List.flatMap_eq_nil_iff]
        intro work hwork
        obtain ⟨row, -, rfl⟩ := List.mem_map.mp hwork
        simp [Work.statements, TableDefinition.batch, TableDefinition.relationships, hnone,
          Batch.statements]

theorem sentFor_run {source : RowSource} {sink : Sink} {options : LoadOptions}
    {start after : Transcript} {report : Report} (member : definition ∈ registry.tables)
    (done : run registry (fun _ => source) sink options start = (after, .ok report)) :
    let rows := Scan.yielded (source definition.table)
    ∃ settled : List Settlement,
      settled.map Settlement.work = Plan.loadWork registry (fun _ => source) ∧
      (∀ settlement ∈ settled, settlement.IsWhole registry) ∧
      after.submitted = start.submitted ++ (settled.flatMap Settlement.submitted).toArray ∧
      ∀ phase, sentFor phase definition.table settled =
        (rows.map (Work.mk phase definition)).flatMap (Work.statements registry) := by
  have hrun := run_runs registry (fun _ => source) sink options start
  rw [done] at hrun
  obtain ⟨-, hproblem, -, hsubmitted⟩ := hrun.of_ok
  rw [Option.map_eq_none_iff] at hproblem
  have hworks : (settleAll registry sink (Plan.loadWork registry fun _ => source)
      start.submitted).map Settlement.work = Plan.loadWork registry fun _ => source :=
    work_settleAll _ _
  have hwhole : ∀ settlement ∈ settleAll registry sink
      (Plan.loadWork registry fun _ => source) start.submitted, settlement.IsWhole registry :=
    fun _ => isWhole_of_mem_settleAll
  refine ⟨_, hworks, hwhole, hsubmitted, fun phase => ?_⟩
  rw [sentFor_eq hwhole, hworks, Plan.filter_loadWork member hproblem, statements_tableWork]

end Load

/-- What is sent for a table in a phase, in whatever order rows are worked on. -/
theorem Load.TableEnds.statements {phase : Phase} {registry : Registry} {source : RowSource}
    {width : Nat} {definition : TableDefinition} {pass : List Submission × Tally}
    (ends : TableEnds phase registry source width definition pass)
    (member : definition ∈ registry.tables) :
    let rows := Scan.yielded (source definition.table)
    let sent := pass.1.map Submission.statement
    sent.Perm (rows.flatMap (Plan.ofRow phase registry definition.table)) ∧
      (∀ row ∈ rows, (Plan.ofRow phase registry definition.table row).Sublist sent) ∧
      (width ≤ 1 → sent = rows.flatMap (Plan.ofRow phase registry definition.table)) := by
  intro rows sent
  have hrows : (Plan.tableWork phase source definition).flatMap (Work.statements registry) =
      rows.flatMap (Plan.ofRow phase registry definition.table) := by
    rw [statements_tableWork, List.flatMap_map]
    exact List.flatMap_congr fun row _ => Plan.statements_work member row
  obtain ⟨hall, hordered⟩ := ends.2.statements
  refine ⟨hrows ▸ hall, ?_, fun one => hrows ▸ ends.2.statements_of_one one⟩
  intro row hrow
  cases hscans : Plan.scans phase definition with
  | true =>
      have hwork : Work.mk phase definition row ∈ Plan.tableWork phase source definition :=
        Plan.mem_tableWork_iff.mpr ⟨hscans, row, hrow, rfl⟩
      rw [← Plan.statements_work member]
      exact hordered _ hwork
  | false =>
      -- The rows of a table that is not scanned have no statements.
      have hnone : Plan.tableWork phase source definition = [] := by
        simp [Plan.tableWork, hscans]
      rw [hnone, List.flatMap_nil, eq_comm, List.flatMap_eq_nil_iff] at hrows
      rw [hrows row hrow]
      exact List.nil_sublist sent

/-- How a preview of a registered table compares with a load of the same
source. -/
structure Engine.Foresees (engine : Engine) (source : RowSource) (definition : TableDefinition) :
    Prop where
  /-- If the graph answers at once, what a preview returns is what a load that
  comes to its end sends for the table: first all that is sent for nodes, then
  all that is sent for relationships. -/
  loads : ∀ statements, (engine.preview source definition.table none).2 = .ok statements →
    ∀ sink options report, (engine.load source sink options).2 = .ok report →
      ∃ settled : List Settlement,
        settled.map Settlement.work = Plan.loadWork engine.registry (fun _ => source) ∧
        (∀ settlement ∈ settled, settlement.IsWhole engine.registry) ∧
        (engine.load source sink options).1.transcript.submitted =
          engine.transcript.submitted ++ (settled.flatMap Settlement.submitted).toArray ∧
        statements = Load.sentFor .nodes definition.table settled ++
          Load.sentFor .relationships definition.table settled
  /-- If answers take time, each phase of a load that comes to its end still
  sends its part of the preview for the table, with the statements of each row in
  order, and all of them in order if one row is under way at a time. -/
  interleaves : ∀ statements, (engine.preview source definition.table none).2 = .ok statements →
    let rows := Scan.yielded (source definition.table)
    let part := fun phase => rows.flatMap (Plan.ofRow phase engine.registry definition.table)
    statements = part .nodes ++ part .relationships ∧
      ∀ width (passes : Phase → List (List Submission × Tally)),
        (∀ phase, List.Forall₂ (Load.TableEnds phase engine.registry source width)
          engine.registry.tables (passes phase)) →
        ∀ phase pass, (definition, pass) ∈ engine.registry.tables.zip (passes phase) →
          let sent := pass.1.map Submission.statement
          sent.Perm (part phase) ∧
            (∀ row ∈ rows,
              (Plan.ofRow phase engine.registry definition.table row).Sublist sent) ∧
            (width ≤ 1 → sent = part phase)
  /-- A limit ends the scan after as many items. -/
  limits : ∀ limit, engine.preview source definition.table (some limit) =
    engine.preview (source.upTo definition.table limit) definition.table none
  cuts : ∀ limit scan, source definition.table = .ok scan →
    ∃ cut, source.upTo definition.table limit definition.table = .ok cut ∧
      cut.items = scan.items.take limit
  /-- A fault of the scan that comes after the limit does not matter. -/
  breaks : ∀ limit scan broken, source definition.table = .ok scan →
    limit ≤ scan.rows.length →
      engine.preview source definition.table (some limit) =
        engine.preview (fun _ => .ok ⟨scan.rows, broken⟩) definition.table (some limit)
  /-- A preview fails with the fault of the scan, or else with the first fault of
  a node, or else with the first of a relationship. -/
  fails : (engine.preview source definition.table none).2 =
    match Scan.problem? (source definition.table) with
    | some problem => .error (.source definition.table problem)
    | none =>
      let rows := Scan.yielded (source definition.table)
      Preview.made engine.registry (rows.map (Work.mk .nodes definition) ++
        rows.map (Work.mk .relationships definition))
  submits_nothing : ∀ limit,
    (engine.preview source definition.table limit).1.transcript.submitted =
      engine.transcript.submitted

theorem Preview.of_made_eq_ok {registry : Registry} {works : List Work}
    {statements : List String} (h : made registry works = .ok statements) :
    statements = works.flatMap (Work.statements registry) := by
  unfold made unlessFaults at h
  split at h
  · exact (Except.ok.inj h).symm
  · cases h

/-- A preview of a registered table foresees what a load does with the table,
whatever else the load does and whatever the graph answers. -/
theorem Engine.preview_foresees_load {engine : Engine} {definition : TableDefinition}
    (member : definition ∈ engine.registry.tables) (source : RowSource) :
    engine.Foresees source definition := by
  have registered := Registry.get?_of_mem member
  have hfails : (Preview.run engine.registry source definition.table none
      engine.transcript).2 = _ := Preview.run_eq registered engine.transcript
  refine ⟨?_, ?_, ?_, ?_, ?_, hfails, ?_⟩
  · intro statements previewed sink options report loaded
    have hpreviewed : (Preview.run engine.registry source definition.table none
      engine.transcript).2 = .ok statements := previewed
    rw [hfails] at hpreviewed
    cases hrun : Load.run engine.registry (fun _ => source) sink options engine.transcript with
    | mk after result =>
        obtain rfl : result = .ok report := by simpa [load, hrun] using loaded
        obtain ⟨settled, hworks, hwhole, hsubmitted, hsent⟩ := Load.sentFor_run member hrun
        refine ⟨settled, hworks, hwhole, by simpa [load, hrun] using hsubmitted, ?_⟩
        rw [hsent, hsent, ← List.flatMap_append]
        split at hpreviewed
        · cases hpreviewed
        · exact Preview.of_made_eq_ok hpreviewed
  · intro statements previewed rows part
    have hpreviewed : (Preview.run engine.registry source definition.table none
      engine.transcript).2 = .ok statements := previewed
    have hpart (phase : Phase) : (rows.map (Work.mk phase definition)).flatMap
        (Work.statements engine.registry) = part phase := by
      rw [List.flatMap_map]
      exact List.flatMap_congr fun row _ => Plan.statements_work member row
    refine ⟨?_, ?_⟩
    · rw [hfails] at hpreviewed
      split at hpreviewed
      · cases hpreviewed
      · rw [← hpart, ← hpart, ← List.flatMap_append]
        exact Preview.of_made_eq_ok hpreviewed
    · intro width passes ends phase pass hpass
      exact ((List.forall₂_iff_zip.mp (ends phase)).2 hpass).statements member
  · intro limit
    simp only [preview, Preview.run_upTo]
  · intro limit scan hscan
    exact ⟨scan.upTo limit, by simp [RowSource.upTo, hscan, Except.map], scan.items_upTo limit⟩
  · intro limit scan broken hscan hlimit
    have hrows : Preview.firstRows scan (some limit) =
        Preview.firstRows ⟨scan.rows, broken⟩ (some limit) := by
      simp [Preview.firstRows, hlimit]
    simp only [preview, Preview.run, hscan, hrows]
  · exact fun limit => Preview.submitted_run _ _ _ _ _

/-- Tags, which may have a broader tag. -/
def tagsDefinition : TableDefinition where
  table := "tags"
  primaryKey := ["number"]
  foreignKeys := [⟨0, "broader_id", "tags", "number"⟩]
  columnTypes := [("number", .integer), ("broader_id", .integer)]
  labels := fun _ => ["Tag"]
  properties := id
  relationships? := some fun _ => [.shorthand "(this)-[:PART_OF]->(broader)"]
  table_isName := by decide
  primaryKey_ne_nil := by decide
  aliases_nodup := by decide
  own_not_alias := by decide

theorem preview_foresees_load_tags :
    let engine := { Engine.new .standard with registry := .push .empty tagsDefinition (by decide) }
    let source : RowSource := fun _ =>
      .ok ⟨[Row.ofList [("number", .int 1), ("broader_id", .null)],
        Row.ofList [("number", .int 2), ("broader_id", .int 1)]], none⟩
    tagsDefinition ∈ engine.registry.tables ∧
      (engine.preview source "tags" none).2 = .ok
        ["MERGE (:Tag {number: 1, broader_id: null});",
          "MERGE (:Tag {number: 2, broader_id: 1});",
          "MATCH (this:Tag), (broader:Tag) WHERE this.number = 2 AND broader.number = 1 " ++
            "MERGE (this)-[:PART_OF]->(broader);"] ∧
      engine.Foresees source tagsDefinition := by
  intro engine source
  have member : tagsDefinition ∈ engine.registry.tables := List.mem_singleton_self _
  exact ⟨member, by rfl, Engine.preview_foresees_load member source⟩

def linkedTagsDefinition : TableDefinition :=
  { tagsDefinition with
    relationships? := some fun _ =>
      [.shorthand "(this)-[:PART_OF]->(broader)", .shorthand "(broader)-[:HAS_PART]->(this)"] }

def linkedTagsRegistry : Registry := .push .empty linkedTagsDefinition (by decide)

def tagRow (number broader : Int64) : Row :=
  Row.ofList [("number", .int number), ("broader_id", .int broader)]

/-- With two rows under way at once, a load into a graph that takes every
statement may send them in another order than a preview shows: both rows send
their first statement before either sends its second. -/
theorem preview_order_differs_from_load_tags :
    let engine := { Engine.new .standard with registry := linkedTagsRegistry }
    let source : RowSource := fun _ => .ok ⟨[tagRow 1 2, tagRow 2 1], none⟩
    ∃ statements sent report,
      engine.registry.tables = [linkedTagsDefinition] ∧
      (engine.preview source "tags" none).2 = .ok statements ∧
      Load.Completes engine.registry (fun _ => source) 2 sent report ∧
      report.isClean = true ∧
      (∀ phase, ∀ submission ∈ sent phase, submission.refusal = none) ∧
      (sent .nodes ++ sent .relationships).map Submission.statement ≠ statements := by
  intro engine source
  obtain ⟨up1, down1, up2, down2, hfirst, hsecond, hpreview, hdiffers⟩ :
      ∃ up1 down1 up2 down2,
        Work.statements linkedTagsRegistry ⟨.relationships, linkedTagsDefinition, tagRow 1 2⟩ =
          [up1, down1] ∧
        Work.statements linkedTagsRegistry ⟨.relationships, linkedTagsDefinition, tagRow 2 1⟩ =
          [up2, down2] ∧
        (engine.preview source "tags" none).2 = .ok
          ["MERGE (:Tag {number: 1, broader_id: 2});", "MERGE (:Tag {number: 2, broader_id: 1});",
            up1, down1, up2, down2] ∧
        up2 ≠ down1 :=
    ⟨"MATCH (this:Tag), (broader:Tag) WHERE this.number = 1 AND broader.number = 2 " ++
        "MERGE (this)-[:PART_OF]->(broader);",
      "MATCH (broader:Tag), (this:Tag) WHERE broader.number = 2 AND this.number = 1 " ++
        "MERGE (broader)-[:HAS_PART]->(this);",
      "MATCH (this:Tag), (broader:Tag) WHERE this.number = 2 AND broader.number = 1 " ++
        "MERGE (this)-[:PART_OF]->(broader);",
      "MATCH (broader:Tag), (this:Tag) WHERE broader.number = 1 AND this.number = 2 " ++
        "MERGE (broader)-[:HAS_PART]->(this);",
      by rfl, by rfl, by rfl, by decide⟩
  let works : List Work :=
    [⟨.nodes, linkedTagsDefinition, tagRow 1 2⟩, ⟨.nodes, linkedTagsDefinition, tagRow 2 1⟩]
  let merged := settleAll linkedTagsRegistry (fun _ _ => none) works #[]
  let linked : List Settlement :=
    [⟨⟨.relationships, linkedTagsDefinition, tagRow 1 2⟩, [⟨up1, none⟩, ⟨down1, none⟩]⟩,
      ⟨⟨.relationships, linkedTagsDefinition, tagRow 2 1⟩, [⟨up2, none⟩, ⟨down2, none⟩]⟩]
  let passes : Phase → List (List Submission × Tally) := fun phase => phase.casesOn
    [(merged.flatMap Settlement.submitted, Load.tallySum linkedTagsRegistry merged)]
    [([⟨up1, none⟩, ⟨up2, none⟩, ⟨down1, none⟩, ⟨down2, none⟩],
      Load.tallySum linkedTagsRegistry linked)]
  have hends (phase : Phase) : List.Forall₂ (Load.TableEnds phase linkedTagsRegistry source 2)
      [linkedTagsDefinition] (passes phase) := by
    cases phase with
    | nodes =>
        have hmerged := Load.Pass.ends_settleAll linkedTagsRegistry 2 (fun _ _ => none) works #[]
        exact .cons ⟨rfl, hmerged⟩ .nil
    | relationships =>
        have hlinked := Load.Pass.ends_alternating hfirst hsecond
        exact .cons ⟨rfl, hlinked⟩ .nil
  let sent : Phase → List Submission := fun phase => (passes phase).flatMap Prod.fst
  have hnodes : sent .nodes = [⟨"MERGE (:Tag {number: 1, broader_id: 2});", none⟩,
      ⟨"MERGE (:Tag {number: 2, broader_id: 1});", none⟩] := by rfl
  have hlinks : sent .relationships =
      [⟨up1, none⟩, ⟨up2, none⟩, ⟨down1, none⟩, ⟨down2, none⟩] := rfl
  refine ⟨_, sent, _, rfl, hpreview, ⟨passes, hends, fun _ => rfl, rfl⟩, by rfl, ?_, ?_⟩
  · intro phase submission member
    cases phase with
    | nodes =>
        simp only [hnodes, List.mem_cons, List.not_mem_nil, or_false] at member
        rcases member with rfl | rfl <;> rfl
    | relationships =>
        simp only [hlinks, List.mem_cons, List.not_mem_nil, or_false] at member
        rcases member with rfl | rfl | rfl | rfl <;> rfl
  · rw [hnodes, hlinks]
    intro same
    simp only [List.cons_append, List.nil_append, List.map_cons, List.map_nil, List.cons.injEq,
      true_and] at same
    exact hdiffers same.1

end RowGraph
