import RowGraph.Registry
import RowGraph.Text.Quoted

/-!
Specs and definitions spelled out field by field, for people who look into a
program at work.
-/

namespace RowGraph

def listRecord (name : String) (fields : List (String × String)) : String :=
  name ++ " \x7b " ++
    String.intercalate ", " (fields.map fun (field, value) => field ++ ": " ++ value) ++ " \x7d"

def listItems (items : List String) : String :=
  "[" ++ String.intercalate ", " items ++ "]"

/-- A spec; of each rule it shows whether it is there. -/
def TableSpec.listing (spec : TableSpec) : String :=
  listRecord "TableSpec" [("table_name", Text.quoted spec.table),
    ("labels", boolText spec.labels.isSome), ("properties", boolText spec.properties.isSome),
    ("relationships", boolText spec.relationships.isSome)]

def ForeignKey.listing (fk : ForeignKey) : String :=
  listRecord "ForeignKeyDef" [("alias", Text.quoted fk.alias),
    ("constraint", toString fk.constraint), ("local_column", Text.quoted fk.column),
    ("foreign_table", Text.quoted fk.foreignTable),
    ("foreign_column", Text.quoted fk.foreignColumn)]

def TableDefinition.listing (definition : TableDefinition) : String :=
  let columns := definition.columnTypes.map fun (column, type) =>
    "(" ++ Text.quoted column ++ ", " ++ type.name ++ ")"
  "TableDefinition \x7b table_name: " ++ Text.quoted definition.table ++
    ", primary_key: " ++ Text.quotedList definition.primaryKey ++
    ", foreign_keys: " ++ listItems (definition.foreignKeys.map ForeignKey.listing) ++
    ", column_types: " ++ listItems columns ++ ", .. \x7d"

end RowGraph
