import RowGraph.Cypher.Statement
import RowGraph.Proofs.Cypher.Reader

/-!
A reader of node statements. Whatever the labels, column names and values of a
node are, its statement is read to the end and gives back the labels in order
and every property in order, its column name as it was and its literal. Two
nodes therefore share a statement only if they share all of this.
-/

namespace RowGraph.Cypher

open Reading

def readLabel : Reading String := do
  mark ':'
  readName

def readLabels : Reading (List String) :=
  separated readLabel (pure ())

def readProperty : Reading (String × FoundLiteral) := do
  let column ← readName
  word ": "
  let found ← readLiteral
  return (column, found)

/-- Properties in braces, after a blank. -/
def readProperties : Reading (List (String × FoundLiteral)) := do
  word " \x7b"
  let properties ← separated readProperty (word ", ")
  mark '\x7d'
  return properties

structure FoundNode where
  labels : List String
  properties : List (String × FoundLiteral)
deriving DecidableEq

/-- A whole node statement. Labels and properties may be missing. -/
def readNode : Reading FoundNode := do
  word "MERGE ("
  let labels ← readLabels <|> pure []
  let properties ← readProperties <|> pure []
  word ");"
  finish
  return ⟨labels, properties⟩

def NodeStatement.found (statement : NodeStatement) : FoundNode where
  labels := statement.labels
  properties := statement.properties.columns.map fun (column, v) => (column, foundLiteral v)

def labelChars (label : String) : List Char :=
  ':' :: nameChars label.toList

theorem toList_labelChain (labels : List String) :
    (labelChain labels).toList = List.intercalate [] (labels.map labelChars) := by
  rw [labelChain, String.toList_ofList]
  induction labels with
  | nil => rfl
  | cons label labels ih =>
      cases labels with
      | nil => simp [labelChars]
      | cons next rest =>
          rw [List.flatMap_cons, ih]
          simp [labelChars]

theorem readLabel_labelChars (label : String) {rest : List Char} (hrest : EndsName rest) :
    readLabel (labelChars label ++ rest) = some (label, rest) := by
  simp [readLabel, labelChars, readName_nameChars label hrest]

theorem readLabel_of_head_ne {cs : List Char} (h : cs.head? ≠ some ':') :
    readLabel cs = none := by
  simp [readLabel, mark_of_head_ne h]

/-- Labels are read back in order. -/
theorem readLabels_labelChain {labels : List String} (hne : labels ≠ []) {rest : List Char}
    (hrest : EndsName rest) (hcolon : rest.head? ≠ some ':') :
    readLabels ((labelChain labels).toList ++ rest) = some (labels, rest) := by
  have hread : separated readLabel (pure ()) (List.intercalate [] (labels.map labelChars) ++ rest) =
      some (labels.map id, rest) :=
    separated_intercalate hne
      (fun label _ => by simp [labelChars])
      (fun label _ after hafter => readLabel_labelChars label hafter)
      (fun label _ after => endsName_cons (by decide))
      (fun after => rfl) hrest
      (fun after hafter => by
        obtain rfl : rest = after := by simpa using hafter
        exact readLabel_of_head_ne hcolon)
  rw [toList_labelChain, readLabels, hread, List.map_id]

/-- Labels are read back in order, also if there are none. -/
theorem readLabels_or_none (labels : List String) {rest : List Char}
    (hrest : EndsName rest) (hcolon : rest.head? ≠ some ':') :
    (readLabels <|> pure []) ((labelChain labels).toList ++ rest) = some (labels, rest) := by
  rw [orElse_apply]
  cases labels with
  | nil =>
      have hnone : readLabels rest = none := separated_of_none (readLabel_of_head_ne hcolon)
      rw [toList_labelChain]
      simp [hnone]
  | cons label more =>
      rw [readLabels_labelChain (List.cons_ne_nil label more) hrest hcolon]
      rfl

theorem toList_propertyText (property : String × Value) (rest : List Char) :
    (propertyText property).toList ++ rest =
      nameChars property.1.toList ++ (": ".toList ++ ((literal property.2).toList ++ rest)) := by
  simp [propertyText, name]

theorem readProperty_propertyText (property : String × Value) {rest : List Char}
    (hrest : Stops isBareChar rest) :
    readProperty ((propertyText property).toList ++ rest) =
      some ((property.1, foundLiteral property.2), rest) := by
  have hcolon : EndsName (": ".toList ++ ((literal property.2).toList ++ rest)) :=
    endsName_cons (by decide)
  rw [toList_propertyText, readProperty, bind_of_found (readName_nameChars property.1 hcolon),
    bind_of_found (word_append _ _), bind_of_found (readLiteral_literal property.2 hrest),
    pure_apply]

theorem readProperties_propertiesText {properties : Row} (hne : properties.columns ≠ [])
    (rest : List Char) :
    readProperties ((propertiesText properties).toList ++ rest) =
      some (properties.columns.map fun (column, v) => (column, foundLiteral v), rest) := by
  have hread : separated readProperty (word ", ") (List.intercalate ", ".toList
        (properties.columns.map fun property => (propertyText property).toList) ++
          '\x7d' :: rest) =
      some (properties.columns.map fun property => (property.1, foundLiteral property.2),
        '\x7d' :: rest) :=
    separated_intercalate hne
      (fun property _ => by simp [propertyText])
      (fun property _ after hafter => readProperty_propertyText property hafter)
      (fun property _ after => stops_cons (by decide))
      (fun after => word_append ", " after)
      (stops_cons (by decide))
      (fun after hafter => by
        have hnone : word ", " ('\x7d' :: rest) = none :=
          word_of_head_ne (by decide) (by simp)
        simp [hnone] at hafter)
  have htext : (propertiesText properties).toList ++ rest =
      " \x7b".toList ++ (List.intercalate ", ".toList
        (properties.columns.map fun property => (propertyText property).toList) ++
          '\x7d' :: rest) := by
    simp [propertiesText, Row.isEmpty, hne, String.toList_intercalate, Function.comp_def]
  rw [htext, readProperties, bind_of_found (word_append _ _), bind_of_found hread,
    bind_of_found (mark_cons _ _), pure_apply]

/-- Properties are read back in order, also if there are none. -/
theorem readProperties_or_none (properties : Row) {rest : List Char}
    (hblank : rest.head? ≠ some ' ') :
    (readProperties <|> pure []) ((propertiesText properties).toList ++ rest) =
      some (properties.columns.map fun (column, v) => (column, foundLiteral v), rest) := by
  rw [orElse_apply]
  by_cases hempty : properties.columns = []
  · have hnone : word " \x7b" rest = none := word_of_head_ne (by decide) (by simpa using hblank)
    simp [readProperties, propertiesText, Row.isEmpty, hempty, hnone]
  · rw [readProperties_propertiesText hempty, Option.some_or]

/-- Labels end where properties begin, or where there are none. -/
theorem propertiesText_endsName (properties : Row) {rest : List Char} (hrest : EndsName rest)
    (hcolon : rest.head? ≠ some ':') :
    EndsName ((propertiesText properties).toList ++ rest) ∧
      ((propertiesText properties).toList ++ rest).head? ≠ some ':' := by
  by_cases hempty : properties.columns = []
  · have hnone : (propertiesText properties).toList ++ rest = rest := by
      simp [propertiesText, Row.isEmpty, hempty]
    rw [hnone]
    exact ⟨hrest, hcolon⟩
  · obtain ⟨tail, hblank⟩ : ∃ tail, (propertiesText properties).toList ++ rest = ' ' :: tail := by
      simp [propertiesText, Row.isEmpty, hempty]
    rw [hblank]
    exact ⟨endsName_cons (by decide), by simp⟩

/-- A node statement is read to its end. -/
theorem readNode_text (statement : NodeStatement) :
    readNode statement.text.toList = some (statement.found, []) := by
  let close : List Char := ");".toList ++ []
  let properties : List Char := (propertiesText statement.properties).toList ++ close
  have htext : statement.text.toList =
      "MERGE (".toList ++ ((labelChain statement.labels).toList ++ properties) := by
    simp [NodeStatement.text, properties, close]
  have hends : EndsName properties ∧ properties.head? ≠ some ':' :=
    propertiesText_endsName statement.properties (endsName_cons (by decide)) (by simp [close])
  have hlabels : (readLabels <|> pure []) ((labelChain statement.labels).toList ++ properties) =
      some (statement.labels, properties) :=
    readLabels_or_none statement.labels hends.1 hends.2
  have hproperties : (readProperties <|> pure []) properties =
      some (statement.found.properties, close) :=
    readProperties_or_none statement.properties (by simp [close])
  rw [htext, readNode, bind_of_found (word_append _ _), bind_of_found hlabels,
    bind_of_found hproperties, bind_of_found (word_append _ _), bind_of_found finish_nil,
    pure_apply]
  rfl

/-- What the statement of a node says settles its text. -/
theorem text_eq_of_literals {a b : NodeStatement} (hlabels : a.labels = b.labels)
    (hproperties : a.properties.columns.map (fun (column, v) => (column, literal v)) =
      b.properties.columns.map fun (column, v) => (column, literal v)) :
    a.text = b.text := by
  have htexts (properties : Row) : properties.columns.map propertyText =
      (properties.columns.map fun (column, v) => (column, literal v)).map
        fun (column, text) => name column ++ ": " ++ text := by
    simp [propertyText, Function.comp_def]
  have hempty (properties : Row) : properties.isEmpty =
      (properties.columns.map fun (column, v) => (column, literal v)).isEmpty := by
    simp [Row.isEmpty]
  simp only [NodeStatement.text, propertiesText, htexts, hempty, hlabels, hproperties]

/-- The statement of a node is read to its end and gives back the labels in
order and, in order, every column name with its literal; a literal in quotes
gives back the text that it quotes. Two nodes have the same statement exactly
if their labels, column names and literals are the same. -/
theorem node_statement_unambiguous (labels : List String) (properties : Row) :
    readNode (NodeStatement.text ⟨labels, properties⟩).toList =
        some (⟨labels, properties.columns.map fun (column, v) =>
          (column, ⟨literal v, quotedText? v⟩)⟩, []) ∧
      ∀ (labels' : List String) (properties' : Row),
        NodeStatement.text ⟨labels, properties⟩ = NodeStatement.text ⟨labels', properties'⟩ ↔
          labels = labels' ∧
            properties.columns.map (fun (column, v) => (column, literal v)) =
              properties'.columns.map fun (column, v) => (column, literal v) := by
  refine ⟨readNode_text ⟨labels, properties⟩, fun labels' properties' => ⟨fun htext => ?_,
    fun ⟨hlabels, hproperties⟩ => text_eq_of_literals hlabels hproperties⟩⟩
  have hfound : NodeStatement.found ⟨labels, properties⟩ =
      NodeStatement.found ⟨labels', properties'⟩ := by
    have hread := readNode_text ⟨labels, properties⟩
    rw [htext, readNode_text ⟨labels', properties'⟩] at hread
    exact (congrArg Prod.fst (Option.some.inj hread)).symm
  refine ⟨congrArg FoundNode.labels hfound, ?_⟩
  have hliterals := congrArg
    (fun found => found.properties.map fun (column, literal) => (column, literal.text)) hfound
  simpa [NodeStatement.found, foundLiteral, Function.comp_def] using hliterals

end RowGraph.Cypher
