import RowGraph.Load

/-!
What a load has to send, told without running it. A phase goes through its
tables in registration order, up to and including the first whose scan fails;
every row that was scanned on the way contributes its statements in order.
Nothing here knows of the graph, so no refusal changes the plan.
-/

namespace RowGraph

/-- Why a scan did not reach the last row of its table: it never began, or it
broke. -/
def Scan.problem? : Except StoreFault Scan → Option StoreFault
  | .error problem => some problem
  | .ok scan => scan.broken

def Scan.yielded : Except StoreFault Scan → List Row
  | .error _ => []
  | .ok scan => scan.rows

def Transcript.statements (transcript : Transcript) : List String :=
  transcript.submitted.toList.map Submission.statement

namespace Plan

def ofRow (phase : Phase) (registry : Registry) (table : String) (row : Row) : List String :=
  match phase with
  | .nodes =>
    match registry.node table row with
    | .ok statement => [statement.text]
    | .error _ => []
  | .relationships =>
    match registry.batch table row with
    | .ok batch => batch.statements.map Cypher.EdgeStatement.text
    | .error _ => []

/-- Whether a phase scans a table: every table for its nodes, and those that
map relationships once more. -/
def scans : Phase → TableDefinition → Bool
  | .nodes, _ => true
  | .relationships, definition => definition.hasRelationships

def tables (phase : Phase) (registry : Registry) : List TableDefinition :=
  registry.tables.filter (scans phase)

def reached (source : RowSource) : List TableDefinition → List TableDefinition
  | [] => []
  | definition :: rest =>
    if (Scan.problem? (source definition.table)).isSome then [definition]
    else definition :: reached source rest

def firstProblem? (source : RowSource) (tables : List TableDefinition) :
    Option (String × StoreFault) :=
  tables.findSome? fun definition =>
    (Scan.problem? (source definition.table)).map fun problem => (definition.table, problem)

def ofPhase (phase : Phase) (registry : Registry) (source : RowSource) : List String :=
  (reached source (tables phase registry)).flatMap fun definition =>
    (Scan.yielded (source definition.table)).flatMap (ofRow phase registry definition.table)

def phaseProblem? (phase : Phase) (registry : Registry) (source : RowSource) :
    Option (String × StoreFault) :=
  firstProblem? source (tables phase registry)

/-- The statements of a load: those of the nodes, and those of the
relationships if every scan for nodes came to its end. -/
def ofLoad (registry : Registry) (source : Phase → RowSource) : List String :=
  ofPhase .nodes registry (source .nodes) ++
    match phaseProblem? .nodes registry (source .nodes) with
    | none => ofPhase .relationships registry (source .relationships)
    | some _ => []

def problem? (registry : Registry) (source : Phase → RowSource) : Option (String × StoreFault) :=
  (phaseProblem? .nodes registry (source .nodes)).or
    (phaseProblem? .relationships registry (source .relationships))

/-- There is no such table exactly if no scan of either phase fails. -/
theorem problem?_eq_none_iff {registry : Registry} {source : Phase → RowSource} :
    problem? registry source = none ↔ ∀ phase, ∀ definition ∈ tables phase registry,
      Scan.problem? (source phase definition.table) = none := by
  simp only [problem?, phaseProblem?, firstProblem?, Option.or_eq_none_iff,
    List.findSome?_eq_none_iff, Option.map_eq_none_iff]
  constructor
  · rintro ⟨hnodes, hrelationships⟩ phase
    cases phase with
    | nodes => exact hnodes
    | relationships => exact hrelationships
  · intro h
    exact ⟨h .nodes, h .relationships⟩

end Plan

end RowGraph
