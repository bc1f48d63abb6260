import RowGraph.Display.Ink
import RowGraph.Schema

/-!
The schema of a table, and statements, as they are shown.
-/

namespace RowGraph.Display

/-- The line of a column, marked if it is part of the primary key. -/
def columnLine (ink : Ink) (schema : TableSchema) (column : String × ColumnType) : String :=
  let mark := if schema.primaryKey.contains column.1 then "*" else " "
  "  " ++ ink.paint .yellow mark ++ " " ++ Text.padRight 24 column.1 ++ " " ++
    ink.paint .dim column.2.name

def foreignKeyLine (ink : Ink) (fk : ForeignKey) : String :=
  "  " ++ ink.paintPadded .green 16 fk.alias ++ " " ++ fk.column ++ " " ++
    ink.paint .dim "→" ++ "." ++ fk.foreignTable ++ " " ++ fk.foreignColumn

def schemaLines (ink : Ink) (schema : TableSchema) : List String :=
  let head := [
    ink.paint .bold "Table" ++ " " ++ ink.paint .boldCyan schema.table,
    rule 50,
    ink.paint .bold "Primary key" ++ ": " ++
      ink.paint .yellow (String.intercalate ", " schema.primaryKey),
    "",
    ink.paint .bold "Columns"]
  let columns := schema.columnTypes.map (columnLine ink schema)
  let references :=
    if schema.foreignKeys.isEmpty then ["", ink.paint .dim "No foreign keys."]
    else "" :: ink.paint .bold "Foreign keys" :: schema.foreignKeys.map (foreignKeyLine ink)
  head ++ columns ++ references

/-- The line of a statement; those that look for nodes have a colour of their
own. -/
def statementLine (ink : Ink) (statement : String) : String :=
  let style := if "MATCH".toList.isPrefixOf statement.toList then Style.yellow else Style.cyan
  ink.paint style statement

def statementLines (ink : Ink) (statements : List String) : List String :=
  if statements.isEmpty then [ink.paint .dim "No statements."]
  else statements.map (statementLine ink)

end RowGraph.Display
