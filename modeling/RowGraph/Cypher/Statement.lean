import RowGraph.Row

/-!
The two statements that the graph receives, as data and as text.

A node statement merges a node with labels and properties. An edge statement
finds two nodes by labels and key values and merges a relationship between
them. The text of a statement spells every name and value by the rules of
literals, so that it says what the data says and nothing more.
-/

namespace RowGraph.Cypher

structure NodeStatement where
  labels : List String
  properties : Row
deriving DecidableEq

def propertyText (property : String × Value) : String :=
  name property.1 ++ ": " ++ literal property.2

/-- Properties in braces, after a blank; nothing if there are none. -/
def propertiesText (properties : Row) : String :=
  if properties.isEmpty then ""
  else " \x7b" ++ String.intercalate ", " (properties.columns.map propertyText) ++ "\x7d"

def NodeStatement.text (statement : NodeStatement) : String :=
  "MERGE (" ++ labelChain statement.labels ++ propertiesText statement.properties ++ ");"

/-- One end of a relationship: its symbol in the statement, and the
labels and key values of its node. -/
structure Endpoint where
  symbol : String
  labels : List String
  key : List (String × Value)
deriving DecidableEq

/-- The conditions that a node has to meet, one for each key value. -/
def Endpoint.predicates (endpoint : Endpoint) : List String :=
  endpoint.key.map fun (column, value) =>
    endpoint.symbol ++ "." ++ name column ++ " = " ++ literal value

structure EdgeStatement where
  source : Endpoint
  target : Endpoint
  kind : String
deriving DecidableEq

def EdgeStatement.text (statement : EdgeStatement) : String :=
  let source := statement.source
  let target := statement.target
  "MATCH (" ++ source.symbol ++ labelChain source.labels ++ "), (" ++
    target.symbol ++ labelChain target.labels ++ ") WHERE " ++
    String.intercalate " AND " (source.predicates ++ target.predicates) ++
    " MERGE (" ++ source.symbol ++ ")-[:" ++ statement.kind ++ "]->(" ++ target.symbol ++ ");"

end RowGraph.Cypher
