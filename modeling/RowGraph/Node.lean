import RowGraph.Cypher.Statement
import RowGraph.Registry

/-!
The node of a row: the labels and properties that the mapping of its table
gives, in their order. A row without labels has no node.
-/

namespace RowGraph

/-- The statement that merges the node of a row. -/
def TableDefinition.node (definition : TableDefinition) (row : Row) :
    Except Fault Cypher.NodeStatement :=
  let labels := definition.labels row
  if labels.isEmpty then .error (.noLabels definition.table (definition.rowKey row))
  else .ok ⟨labels, definition.properties row⟩

def Registry.find (registry : Registry) (table : String) (row : Row) :
    Except Fault TableDefinition :=
  match registry.get? table with
  | some definition => .ok definition
  | none => .error (.unknownTable table row.leadingKey)

def Registry.node (registry : Registry) (table : String) (row : Row) :
    Except Fault Cypher.NodeStatement :=
  match registry.find table row with
  | .error fault => .error fault
  | .ok definition => definition.node row

end RowGraph
