import RowGraph.Document.Tree
import RowGraph.Registry

/-!
Table mappings as data: what a document can say about a table without code. A
mapping gives every row the same labels, adds the value of one column as a
label if it names one, keeps all columns as properties or those that it lists,
and gives every row the same relationship patterns.
-/

namespace RowGraph

/-- What a document says about one table. -/
structure TableMapping where
  name : String
  labels : List String
  /-- The column whose value is one more label. -/
  labelColumn : Option String
  /-- The columns kept as properties; all of them if there is no list. -/
  properties : Option (List String)
  relationships : List Pattern
deriving DecidableEq

/-- A pattern is a text or a record of its three parts, the last of which has
two spellings. -/
def Pattern.ofTree? : Tree → Option Pattern
  | .text text => some (.shorthand text)
  | .record fields => do
    let part (name : String) : Option String := (List.lookup name fields).bind Tree.text?
    let source ← part "from"
    let target ← part "to"
    match List.lookup "rel_type" fields, List.lookup "relType" fields with
    | some kind, none | none, some kind => return .structured source target (← kind.text?)
    | _, _ => none
  | _ => none

namespace TableMapping

def partNames : List String :=
  ["name", "labels", "label_column", "properties", "relationships"]

/-- The mapping that a tree describes. Only the name has to be there. -/
def ofTree? (tree : Tree) : Option TableMapping := do
  let part ← tree.parts? partNames
  let name ← (part "name").bind Tree.text?
  let labels ← Tree.partOr Tree.texts? [] (part "labels")
  let labelColumn ← Tree.maybe Tree.text? (part "label_column")
  let properties ← Tree.maybe Tree.texts? (part "properties")
  let patterns (items : Tree) : Option (List Pattern) :=
    items.list?.bind fun items => items.mapM Pattern.ofTree?
  let relationships ← Tree.partOr patterns [] (part "relationships")
  return { name, labels, labelColumn, properties, relationships }

/-- The label that a row has from the label column: a text as it is, any other
value as its literal, and none for null. -/
def columnLabel? (mapping : TableMapping) (row : Row) : Option String :=
  match mapping.labelColumn.bind row.get? with
  | none | some .null => none
  | some (.text text) => some text
  | some value => some (Cypher.literal value)

def labelsOf (mapping : TableMapping) (row : Row) : List String :=
  mapping.labels ++ (mapping.columnLabel? row).toList

def propertiesOf (mapping : TableMapping) (row : Row) : Row :=
  match mapping.properties with
  | some columns => row.select columns
  | none => row

/-- A mapping as a spec. Without patterns it maps no relationships. -/
def toSpec (mapping : TableMapping) : TableSpec where
  table := mapping.name
  labels := some mapping.labelsOf
  properties := some mapping.propertiesOf
  relationships :=
    if mapping.relationships.isEmpty then none else some fun _ => mapping.relationships

/-- A row has at least the labels that every row has. -/
theorem prefix_labelsOf (mapping : TableMapping) (row : Row) :
    mapping.labels <+: mapping.labelsOf row :=
  List.prefix_append _ _

end TableMapping

end RowGraph
