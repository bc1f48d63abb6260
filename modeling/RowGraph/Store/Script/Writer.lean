import RowGraph.Store.Script
import RowGraph.Text.Doubled

/-!
Scripts as SQL text. Names stand in double quotes and texts in single quotes,
each with its own quote doubled, so that any name and any text can be written.
Bytes that are no text are written in hexadecimal.
-/

namespace RowGraph.Script

def quotedName (name : String) : String :=
  String.ofList (Text.doubled '\x22' name.toList)

def bytesLiteral (bytes : ByteArray) : String :=
  "X'" ++ Text.hex bytes ++ "'"

/-- Text, given by its bytes if it cannot stand in quotes. -/
def textLiteral (bytes : ByteArray) : String :=
  let inBytes := "CAST(" ++ bytesLiteral bytes ++ " AS TEXT)"
  match String.fromUTF8? bytes with
  | none => inBytes
  | some text =>
    if text.toList.contains '\x00' then inBytes
    else String.ofList (Text.doubled '\x27' text.toList)

def decimals : NumberStyle where
  plain := some (-5, 15)
  wholeMark := ".0"
  mantissaMark := ""
  exponentPlus := "+"
  exponentWidth := 1

/-- A decimal; what lies beyond all finite numbers is written as a number too
large for any of them. -/
def realLiteral (x : Binary64) : String :=
  if x.isNaN then "NULL"
  else if x.isInfinite then (if x.negative then "-9e999" else "9e999")
  else decimals.renderShortest x

def literal : Cell → String
  | .null => "NULL"
  | .integer i => intText i
  | .real x => realLiteral x
  | .text bytes => textLiteral bytes
  | .blob bytes => bytesLiteral bytes

def commaList (parts : List String) : String :=
  String.intercalate ", " parts

def nameList (names : List String) : String :=
  "(" ++ commaList (names.map quotedName) ++ ")"

def labelledText (content name : String) : String :=
  content ++ " AS " ++ quotedName name

def columnText (column : Column) : String :=
  quotedName column.name ++ (if column.declared.isEmpty then "" else " " ++ column.declared)

def referenceText (reference : Reference) : String :=
  "FOREIGN KEY " ++ nameList reference.columns ++ " REFERENCES " ++
    quotedName reference.table ++
    match reference.target with
    | some names => " " ++ nameList names
    | none => ""

def tableText (table : Table) : String :=
  let key := if table.primaryKey.isEmpty then [] else ["PRIMARY KEY " ++ nameList table.primaryKey]
  let parts := table.columns.map columnText ++ key ++ table.references.map referenceText
  "CREATE TABLE " ++ quotedName table.name ++ " (" ++ commaList parts ++ ")"

def statementText : Statement → String
  | .select columns =>
    "SELECT " ++ commaList (columns.map fun (name, cell) => labelledText (literal cell) name)
  | .selectFrom table columns =>
    let items := match columns with
      | none => "*"
      | some columns =>
        commaList (columns.map fun (name, column) => labelledText (quotedName column) name)
    "SELECT " ++ items ++ " FROM " ++ quotedName table
  | .insert table cells =>
    "INSERT INTO " ++ quotedName table ++ " VALUES (" ++ commaList (cells.map literal) ++ ")"
  | .delete table => "DELETE FROM " ++ quotedName table
  | .create table => tableText table
  | .broken => "?"

def text (script : List Statement) : String :=
  String.join (script.map fun statement => statementText statement ++ ";\n")

end RowGraph.Script
