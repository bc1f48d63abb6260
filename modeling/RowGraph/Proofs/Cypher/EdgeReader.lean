import RowGraph.Pattern
import RowGraph.Proofs.Cypher.NodeReader

/-!
A reader of edge statements: two nodes that are matched by labels and by
predicates, and one relationship that is merged between them. The reader asks
for at least one label and at least one predicate for each node, for the
predicates of the first node before those of the second, and for two symbols
that are different and that the relationship repeats.

An edge statement whose symbols and kind are plain is read to its end, whatever
labels, column names and values it has.
-/

namespace RowGraph.Cypher

open Reading

def readMatched : Reading (String × List String) := do
  let symbol ← readPlainName
  let labels ← readLabels
  return (symbol, labels)

def readPredicate : Reading (String × String × FoundLiteral) := do
  let symbol ← readPlainName
  mark '.'
  let column ← readName
  word " = "
  let found ← readLiteral
  return (symbol, column, found)

def readKind : Reading String := fun cs =>
  let kind := cs.takeWhile Pattern.isKindChar
  if kind.isEmpty then none
  else some (String.ofList kind, cs.dropWhile Pattern.isKindChar)

/-- The predicates of two symbols, if there are any for each, those of the
first stand before those of the second, and there are no others. -/
def splitPredicates? (source target : String)
    (predicates : List (String × String × FoundLiteral)) :
    Option (List (String × FoundLiteral) × List (String × FoundLiteral)) :=
  let first := predicates.takeWhile (·.1 == source)
  let second := predicates.dropWhile (·.1 == source)
  if first = [] ∨ second = [] ∨ second.any (·.1 != target) then none
  else some (first.map Prod.snd, second.map Prod.snd)

structure FoundEnd where
  symbol : String
  labels : List String
  key : List (String × FoundLiteral)
deriving DecidableEq

structure FoundEdge where
  source : FoundEnd
  target : FoundEnd
  kind : String
deriving DecidableEq

def readEdge : Reading FoundEdge := do
  word "MATCH ("
  let source ← readMatched
  word "), ("
  let target ← readMatched
  word ") WHERE "
  let predicates ← separated readPredicate (word " AND ")
  word " MERGE ("
  let origin ← readPlainName
  word ")-[:"
  let kind ← readKind
  word "]->("
  let goal ← readPlainName
  word ");"
  finish
  if source.1 = target.1 ∨ origin ≠ source.1 ∨ goal ≠ target.1 then failure
  else match splitPredicates? source.1 target.1 predicates with
    | none => failure
    | some keys => return ⟨⟨source.1, source.2, keys.1⟩, ⟨target.1, target.2, keys.2⟩, kind⟩

def Endpoint.found (endpoint : Endpoint) : FoundEnd where
  symbol := endpoint.symbol
  labels := endpoint.labels
  key := endpoint.key.map fun (column, v) => (column, foundLiteral v)

def EdgeStatement.found (statement : EdgeStatement) : FoundEdge where
  source := statement.source.found
  target := statement.target.found
  kind := statement.kind

/-- An end that a statement can name and find. -/
structure Endpoint.IsProper (endpoint : Endpoint) : Prop where
  named : Text.isName endpoint.symbol = true
  labelled : endpoint.labels ≠ []
  keyed : endpoint.key ≠ []

/-- An edge between two different ends that a statement can name and find. -/
structure EdgeStatement.IsProper (statement : EdgeStatement) : Prop where
  source : statement.source.IsProper
  target : statement.target.IsProper
  distinct : statement.source.symbol ≠ statement.target.symbol
  kind : Pattern.isKindChars statement.kind.toList = true

/-- A plain symbol is read back up to a character that it cannot have. -/
theorem readPlainName_symbol {symbol : String} (h : Text.isName symbol = true)
    {rest : List Char} (hrest : Stops Text.isNameChar rest) :
    readPlainName (symbol.toList ++ rest) = some (symbol, rest) := by
  rw [readPlainName_append h hrest, String.ofList_toList]

/-- A symbol with its labels is read back. The colon of the first label ends
the symbol. -/
theorem readMatched_append {endpoint : Endpoint} (h : endpoint.IsProper) {rest : List Char}
    (hrest : EndsName rest) (hcolon : rest.head? ≠ some ':') :
    readMatched (endpoint.symbol.toList ++ ((labelChain endpoint.labels).toList ++ rest)) =
      some ((endpoint.symbol, endpoint.labels), rest) := by
  have hstop : Stops Text.isNameChar ((labelChain endpoint.labels).toList ++ rest) := by
    obtain ⟨label, more, hlabels⟩ := List.exists_cons_of_ne_nil h.labelled
    rw [hlabels, labelChain, String.toList_ofList, List.flatMap_cons]
    exact stops_cons (by decide)
  have hlabels : readLabels ((labelChain endpoint.labels).toList ++ rest) =
      some (endpoint.labels, rest) :=
    readLabels_labelChain h.labelled hrest hcolon
  rw [readMatched, bind_of_found (readPlainName_symbol h.named hstop), bind_of_found hlabels,
    pure_apply]

theorem readKind_append {kind : String} (h : Pattern.isKindChars kind.toList = true)
    {rest : List Char} (hrest : Stops Pattern.isKindChar rest) :
    readKind (kind.toList ++ rest) = some (kind, rest) := by
  have ⟨hne, hall⟩ : kind.toList ≠ [] ∧ ∀ c ∈ kind.toList, Pattern.isKindChar c = true := by
    simpa [Pattern.isKindChars] using h
  rw [readKind, takeWhile_append_of_stops hall hrest, dropWhile_append_of_stops hall hrest,
    if_neg (by simpa using hne), String.ofList_toList]

/-- The predicates that a statement has for an end, as a reader has to find
them. -/
def Endpoint.foundPredicates (endpoint : Endpoint) : List (String × String × FoundLiteral) :=
  endpoint.found.key.map fun predicate => (endpoint.symbol, predicate)

theorem readPredicate_append {symbol : String} (h : Text.isName symbol = true)
    (property : String × Value) {rest : List Char} (hrest : Stops isBareChar rest) :
    readPredicate ((symbol ++ "." ++ name property.1 ++ " = " ++ literal property.2).toList ++
        rest) =
      some ((symbol, property.1, foundLiteral property.2), rest) := by
  let value : List Char := (literal property.2).toList ++ rest
  have htext : (symbol ++ "." ++ name property.1 ++ " = " ++ literal property.2).toList ++ rest =
      symbol.toList ++ '.' :: (nameChars property.1.toList ++ (" = ".toList ++ value)) := by
    simp [name, value]
  have hpoint : Stops Text.isNameChar
      ('.' :: (nameChars property.1.toList ++ (" = ".toList ++ value))) :=
    stops_cons (by decide)
  have hcolumn : readName (nameChars property.1.toList ++ (" = ".toList ++ value)) =
      some (property.1, " = ".toList ++ value) :=
    readName_nameChars property.1 (endsName_cons (by decide))
  rw [htext, readPredicate, bind_of_found (readPlainName_symbol h hpoint),
    bind_of_found (mark_cons _ _), bind_of_found hcolumn, bind_of_found (word_append _ _),
    bind_of_found (readLiteral_literal property.2 hrest), pure_apply]

/-- The predicates of two ends are told apart by their symbols. -/
theorem splitPredicates?_append {source target : Endpoint} (hsource : source.key ≠ [])
    (htarget : target.key ≠ []) (hne : source.symbol ≠ target.symbol) :
    splitPredicates? source.symbol target.symbol
        (source.foundPredicates ++ target.foundPredicates) =
      some (source.found.key, target.found.key) := by
  have hfirst : ∀ predicate ∈ source.foundPredicates,
      (predicate.1 == source.symbol) = true := by
    intro predicate member
    obtain ⟨_, _, rfl⟩ := List.mem_map.mp member
    simp
  have hsecond : ∀ predicate ∈ target.foundPredicates, predicate.1 = target.symbol := by
    intro predicate member
    obtain ⟨_, _, rfl⟩ := List.mem_map.mp member
    rfl
  obtain ⟨next, more, hcons⟩ : ∃ next more, target.foundPredicates = next :: more := by
    apply List.exists_cons_of_ne_nil
    simpa [Endpoint.foundPredicates, Endpoint.found] using htarget
  have hnext : (next.1 == source.symbol) = false := by
    have hsymbol := hsecond next (by simp [hcons])
    simpa [hsymbol] using Ne.symm hne
  have htake : (source.foundPredicates ++ target.foundPredicates).takeWhile
      (·.1 == source.symbol) = source.foundPredicates := by
    rw [List.takeWhile_append_of_pos hfirst, hcons, List.takeWhile_cons, hnext]
    simp
  have hdrop : (source.foundPredicates ++ target.foundPredicates).dropWhile
      (·.1 == source.symbol) = target.foundPredicates := by
    rw [List.dropWhile_append_of_pos hfirst, hcons, List.dropWhile_cons, hnext]
    simp
  have hothers : target.foundPredicates.any (·.1 != target.symbol) = false := by
    rw [List.any_eq_false]
    intro predicate member
    simp [hsecond predicate member]
  have hsourceNe : source.foundPredicates ≠ [] := by
    simpa [Endpoint.foundPredicates, Endpoint.found] using hsource
  have htargetNe : target.foundPredicates ≠ [] := by
    simp [hcons]
  have hkeys (endpoint : Endpoint) :
      endpoint.foundPredicates.map Prod.snd = endpoint.found.key := by
    simp [Endpoint.foundPredicates, Function.comp_def]
  rw [splitPredicates?, htake, hdrop, if_neg (by simp [hsourceNe, htargetNe, hothers]),
    hkeys, hkeys]

theorem toList_predicates (statement : EdgeStatement) :
    (String.intercalate " AND "
        (statement.source.predicates ++ statement.target.predicates)).toList =
      List.intercalate " AND ".toList
        ((statement.source.key.map (Prod.mk statement.source.symbol) ++
          statement.target.key.map (Prod.mk statement.target.symbol)).map
            fun (symbol, property) =>
              (symbol ++ "." ++ name property.1 ++ " = " ++ literal property.2).toList) := by
  simp [String.toList_intercalate, Endpoint.predicates, Function.comp_def]

/-- The predicates of both ends are read back, those of the source first. -/
theorem readPredicates_append {statement : EdgeStatement} (h : statement.IsProper)
    (rest : List Char) :
    separated readPredicate (word " AND ")
        ((String.intercalate " AND "
          (statement.source.predicates ++ statement.target.predicates)).toList ++
            (" MERGE (".toList ++ rest)) =
      some (statement.source.foundPredicates ++ statement.target.foundPredicates,
        " MERGE (".toList ++ rest) := by
  let items := statement.source.key.map (Prod.mk statement.source.symbol) ++
    statement.target.key.map (Prod.mk statement.target.symbol)
  have hne : items ≠ [] := by simp [items, h.source.keyed]
  have hnamed : ∀ item ∈ items, Text.isName item.1 = true := by
    intro item member
    rcases List.mem_append.mp member with hsource | htarget
    · obtain ⟨_, _, rfl⟩ := List.mem_map.mp hsource
      exact h.source.named
    · obtain ⟨_, _, rfl⟩ := List.mem_map.mp htarget
      exact h.target.named
  have hread : separated readPredicate (word " AND ")
        (List.intercalate " AND ".toList (items.map fun (symbol, property) =>
          (symbol ++ "." ++ name property.1 ++ " = " ++ literal property.2).toList) ++
            (" MERGE (".toList ++ rest)) =
      some (items.map fun (symbol, property) => (symbol, property.1, foundLiteral property.2),
        " MERGE (".toList ++ rest) :=
    separated_intercalate hne
      (fun item _ => by simp)
      (fun item member after hafter => readPredicate_append (hnamed item member) item.2 hafter)
      (fun item _ after => stops_cons (by decide))
      (fun after => word_append " AND " after)
      (stops_cons (by decide))
      (fun after hafter => by
        have hnone : word " AND " (" MERGE (".toList ++ rest) = none := rfl
        rw [hnone] at hafter
        cases hafter)
  rw [toList_predicates, hread]
  simp [items, Endpoint.foundPredicates, Endpoint.found, Function.comp_def]

/-- An edge statement whose symbols and kind are plain, between two different
ends that have labels and a key, is read to its end. -/
theorem readEdge_text {statement : EdgeStatement} (h : statement.IsProper) :
    readEdge statement.text.toList = some (statement.found, []) := by
  let source := statement.source
  let target := statement.target
  let goal : List Char := target.symbol.toList ++ (");".toList ++ [])
  let merged : List Char := source.symbol.toList ++
    (")-[:".toList ++ (statement.kind.toList ++ ("]->(".toList ++ goal)))
  let predicates : List Char := (String.intercalate " AND "
    (source.predicates ++ target.predicates)).toList ++ (" MERGE (".toList ++ merged)
  let matched : List Char := target.symbol.toList ++
    ((labelChain target.labels).toList ++ (") WHERE ".toList ++ predicates))
  have htext : statement.text.toList =
      "MATCH (".toList ++ (source.symbol.toList ++
        ((labelChain source.labels).toList ++ ("), (".toList ++ matched))) := by
    unfold EdgeStatement.text
    simp only [String.toList_append, List.append_assoc, List.append_nil, source, target, matched,
      predicates, merged, goal]
  have hsourceRead : readMatched (source.symbol.toList ++
        ((labelChain source.labels).toList ++ ("), (".toList ++ matched))) =
      some ((source.symbol, source.labels), "), (".toList ++ matched) :=
    readMatched_append h.source (endsName_cons (by decide)) (by simp)
  have htargetRead : readMatched matched =
      some ((target.symbol, target.labels), ") WHERE ".toList ++ predicates) :=
    readMatched_append h.target (endsName_cons (by decide)) (by simp)
  have hpredicates : separated readPredicate (word " AND ") predicates =
      some (source.foundPredicates ++ target.foundPredicates, " MERGE (".toList ++ merged) :=
    readPredicates_append h merged
  have hmerged : readPlainName merged =
      some (source.symbol, ")-[:".toList ++ (statement.kind.toList ++ ("]->(".toList ++ goal))) :=
    readPlainName_symbol h.source.named (stops_cons (by decide))
  have hkindRead : readKind (statement.kind.toList ++ ("]->(".toList ++ goal)) =
      some (statement.kind, "]->(".toList ++ goal) :=
    readKind_append h.kind (stops_cons (by decide))
  have hgoal : readPlainName goal = some (target.symbol, ");".toList ++ []) :=
    readPlainName_symbol h.target.named (stops_cons (by decide))
  have hsplit : splitPredicates? source.symbol target.symbol
      (source.foundPredicates ++ target.foundPredicates) =
        some (source.found.key, target.found.key) :=
    splitPredicates?_append h.source.keyed h.target.keyed h.distinct
  have hrepeated : ¬(source.symbol = target.symbol ∨ source.symbol ≠ source.symbol ∨
      target.symbol ≠ target.symbol) := by
    simp [source, target, h.distinct]
  rw [htext, readEdge, bind_of_found (word_append _ _), bind_of_found hsourceRead,
    bind_of_found (word_append _ _), bind_of_found htargetRead, bind_of_found (word_append _ _),
    bind_of_found hpredicates, bind_of_found (word_append _ _), bind_of_found hmerged,
    bind_of_found (word_append _ _), bind_of_found hkindRead, bind_of_found (word_append _ _),
    bind_of_found hgoal, bind_of_found (word_append _ _), bind_of_found finish_nil,
    if_neg hrepeated, hsplit]
  rfl

end RowGraph.Cypher
