import RowGraph.Proofs.Cypher.EdgeReader
import RowGraph.Proofs.Pattern.Links
import RowGraph.Proofs.Registry.Lookup
import RowGraph.Proofs.Relationship.Endpoints

/-!
What the relationship statements of a row say. A pattern yields a statement
only if it can be read, which makes its aliases and its kind plain, and only if
both its ends resolve, which gives them labels and key values. Those are the
conditions under which the reader of edge statements gives everything back, so
that no label, column name or value of a row can add to its statement.
-/

namespace RowGraph

open Cypher (Endpoint EdgeStatement foundLiteral readEdge)

namespace TableDefinition

variable {definition : TableDefinition} {registry : Registry} {row : Row} {name : String}
  {endpoint : Endpoint} {pattern : Pattern} {link : Link} {statement : EdgeStatement}

/-- A name that patterns of a table may use: that of the row itself, or an
alias that one of the table's foreign keys declares. -/
def Declares (definition : TableDefinition) (name : String) : Prop :=
  name = Pattern.own ∨ ∃ fk ∈ definition.foreignKeys, fk.alias = name

theorem Resolves.declares (h : definition.Resolves registry row name endpoint) :
    definition.Declares name := by
  cases h with
  | own labelled keyed => exact Or.inl rfl
  | foreign declared registered keyed labelled => exact Or.inr ⟨_, declared, rfl⟩

theorem Resolves.symbol (h : definition.Resolves registry row name endpoint) :
    endpoint.symbol = name := by
  cases h <;> rfl

/-- An end with a plain alias can be named and found: keys are never empty. -/
theorem Resolves.isProper (h : definition.Resolves registry row name endpoint)
    (hname : Text.isName name = true) : endpoint.IsProper := by
  cases h with
  | own labelled keyed =>
      rename_i pairs
      have hpairs : pairs ≠ [] := by
        rintro rfl
        exact definition.primaryKey_ne_nil (names_ownKey keyed).symm
      exact ⟨hname, labelled, hpairs⟩
  | foreign declared registered keyed labelled =>
      rename_i foreign _
      exact ⟨hname, labelled, foreignKeyRow_ne_nil keyed foreign.primaryKey_ne_nil⟩

/-- A pattern that yields a statement is the link between two different aliases
that lead somewhere, and the statement is made of these. -/
theorem linked_of_outcome (h : definition.outcome registry row pattern = .linked statement) :
    ∃ link, pattern.read = .ok link ∧ link.source ≠ link.target ∧
      definition.endpoint registry row link.source = .ok (some statement.source) ∧
      definition.endpoint registry row link.target = .ok (some statement.target) ∧
      statement.kind = link.kind := by
  unfold outcome at h
  split at h
  · cases h
  · rename_i link hread
    refine ⟨link, hread, ?_⟩
    unfold relate at h
    split at h
    · cases h
    · rename_i hne
      split at h
      · cases h
      · cases h
      · rename_i source hsource
        split at h
        · cases h
        · cases h
        · rename_i target htarget
          obtain rfl : (⟨source, target, link.kind⟩ : EdgeStatement) = statement := by
            simpa using h
          exact ⟨hne, hsource, htarget, rfl⟩

/-- The text of an edge statement that says a link of a row and nothing else.
The two aliases of the link are different and declared by the table, both have
an end with labels and key values, and the reader of edge statements comes to
the end of the text with these aliases as symbols, the labels of both ends in
order, every key column with the literal of its value, and the kind. -/
structure Spells (definition : TableDefinition) (registry : Registry) (row : Row) (link : Link)
    (text : String) : Prop where
  distinct : link.source ≠ link.target
  source_declared : definition.Declares link.source
  target_declared : definition.Declares link.target
  read : ∃ source target : Endpoint,
    definition.endpoint registry row link.source = .ok (some source) ∧
    definition.endpoint registry row link.target = .ok (some target) ∧
    source.labels ≠ [] ∧ source.key ≠ [] ∧ target.labels ≠ [] ∧ target.key ≠ [] ∧
    readEdge text.toList = some
      (⟨⟨link.source, source.labels, source.key.map fun (column, v) => (column, foundLiteral v)⟩,
        ⟨link.target, target.labels, target.key.map fun (column, v) => (column, foundLiteral v)⟩,
        link.kind⟩, [])

/-- A statement spells the link of the pattern that yields it. -/
theorem spells_of_outcome (h : definition.outcome registry row pattern = .linked statement) :
    ∃ link, pattern.read = .ok link ∧ definition.Spells registry row link statement.text := by
  obtain ⟨link, hread, hne, hsource, htarget, hkind⟩ := linked_of_outcome h
  have hplain : link.IsPlain := Pattern.isPlain_of_read hread
  have hsourceEnd := resolves_of_endpoint hsource
  have htargetEnd := resolves_of_endpoint htarget
  have hsourceProper := hsourceEnd.isProper hplain.source
  have htargetProper := htargetEnd.isProper hplain.target
  have hproper : statement.IsProper := {
    source := hsourceProper
    target := htargetProper
    distinct := by rwa [hsourceEnd.symbol, htargetEnd.symbol]
    kind := by rw [hkind]; exact hplain.kind }
  have htext : readEdge statement.text.toList = some
      (⟨⟨link.source, statement.source.labels,
          statement.source.key.map fun (column, v) => (column, foundLiteral v)⟩,
        ⟨link.target, statement.target.labels,
          statement.target.key.map fun (column, v) => (column, foundLiteral v)⟩,
        link.kind⟩, []) := by
    rw [Cypher.readEdge_text hproper, ← hsourceEnd.symbol, ← htargetEnd.symbol, ← hkind]
    rfl
  exact ⟨link, hread, hne, hsourceEnd.declares, htargetEnd.declares, statement.source,
    statement.target, hsource, htarget, hsourceProper.labelled, hsourceProper.keyed,
    htargetProper.labelled, htargetProper.keyed, htext⟩

theorem mem_statements_batch :
    statement ∈ (definition.batch registry row).statements ↔
      ∃ pattern ∈ definition.relationships row,
        definition.outcome registry row pattern = .linked statement := by
  simp only [batch, Batch.statements, List.mem_filterMap, List.mem_map]
  constructor
  · rintro ⟨_, ⟨pattern, hpattern, rfl⟩, hlinked⟩
    refine ⟨pattern, hpattern, ?_⟩
    cases houtcome : definition.outcome registry row pattern with
    | linked found =>
        obtain rfl : found = statement := by simpa [houtcome] using hlinked
        rfl
    | skipped => simp [houtcome] at hlinked
    | failed fault => simp [houtcome] at hlinked
  · rintro ⟨pattern, hpattern, houtcome⟩
    exact ⟨_, ⟨pattern, hpattern, rfl⟩, by simp [houtcome]⟩

end TableDefinition

/-- Every row of a registered table has a batch. Each statement of the batch
comes from a pattern of the row, and each pattern that yields a statement puts
it into the batch, where it spells the link of the pattern. -/
theorem Registry.batch_statements_unambiguous {registry : Registry} {table : String}
    {definition : TableDefinition} (registered : registry.get? table = some definition)
    (row : Row) :
    ∃ batch, registry.batch table row = .ok batch ∧
      (∀ statement ∈ batch.statements, ∃ pattern ∈ definition.relationships row,
        definition.outcome registry row pattern = .linked statement) ∧
      ∀ pattern ∈ definition.relationships row, ∀ statement,
        definition.outcome registry row pattern = .linked statement →
          statement ∈ batch.statements ∧ ∃ link, pattern.read = .ok link ∧
            definition.Spells registry row link statement.text := by
  refine ⟨definition.batch registry row, ?_, ?_, ?_⟩
  · exact Registry.batch_of_get? registered row
  · intro statement member
    exact TableDefinition.mem_statements_batch.mp member
  · intro pattern hpattern statement houtcome
    exact ⟨TableDefinition.mem_statements_batch.mpr ⟨pattern, hpattern, houtcome⟩,
      TableDefinition.spells_of_outcome houtcome⟩

def quotedPeople : TableDefinition where
  table := "people"
  primaryKey := ["na\x60me"]
  foreignKeys := [⟨0, "boss_id", "people", "na\x60me"⟩]
  columnTypes := [("na\x60me", .text), ("boss_id", .text)]
  labels := fun _ => ["Person)", ""]
  properties := id
  relationships? := some fun _ => [.shorthand "(this)-[:WORKS_FOR]->(boss)"]
  table_isName := by decide
  primaryKey_ne_nil := by decide
  aliases_nodup := by decide
  own_not_alias := by decide

theorem batch_statements_unambiguous_quotedPeople :
    let registry := Registry.empty.push quotedPeople (by decide)
    let pattern : Pattern := .shorthand "(this)-[:WORKS_FOR]->(boss)"
    let row := Row.ofList [("na\x60me", .text "x'); \x5c"), ("boss_id", .text "' OR 1 = 1")]
    registry.get? "people" = some quotedPeople ∧
      ∃ statement link, quotedPeople.outcome registry row pattern = .linked statement ∧
        statement.text = "MATCH (this:\x60Person)\x60:\x60\x60), (boss:\x60Person)\x60:\x60\x60)" ++
          " WHERE this.\x60na\x60\x60me\x60 = 'x\x5c'); \x5c\x5c' AND " ++
          "boss.\x60na\x60\x60me\x60 = '\x5c' OR 1 = 1' MERGE (this)-[:WORKS_FOR]->(boss);" ∧
        pattern.read = .ok link ∧
        quotedPeople.Spells registry row link statement.text := by
  intro registry pattern row
  have registered : registry.get? "people" = some quotedPeople := rfl
  have hlinked : quotedPeople.outcome registry row pattern = .linked
      ⟨⟨"this", ["Person)", ""], [("na\x60me", .text "x'); \x5c")]⟩,
        ⟨"boss", ["Person)", ""], [("na\x60me", .text "' OR 1 = 1")]⟩, "WORKS_FOR"⟩ := by
    decide
  have hpattern : pattern ∈ quotedPeople.relationships row := List.mem_singleton.mpr rfl
  obtain ⟨batch, _, _, hspells⟩ := Registry.batch_statements_unambiguous registered row
  have ⟨_, link, hread, hspelled⟩ := hspells pattern hpattern _ hlinked
  exact ⟨registered, _, link, hlinked, by decide +kernel, hread, hspelled⟩

end RowGraph
