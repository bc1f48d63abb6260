import RowGraph.Row

/-!
Rows as JSON, indented by two blanks a level. The columns of a row are in the
order of their names; a number that is not finite is null, an instant its RFC
3339 text with a numeric offset.
-/

namespace RowGraph.Display

def jsonChar (c : Char) : List Char :=
  match c with
  | '\x22' => ['\x5c', '\x22']
  | '\x5c' => ['\x5c', '\x5c']
  | '\x08' => ['\x5c', 'b']
  | '\x0c' => ['\x5c', 'f']
  | '\n' => ['\x5c', 'n']
  | '\r' => ['\x5c', 'r']
  | '\t' => ['\x5c', 't']
  | c =>
    if c < ' ' then
      ['\x5c', 'u', '0', '0', Nat.digitChar (c.toNat / 16), Nat.digitChar (c.toNat % 16)]
    else [c]

def jsonText (text : String) : String :=
  String.ofList ('\x22' :: text.toList.flatMap jsonChar ++ ['\x22'])

def jsonDecimals : NumberStyle where
  plain := some (-5, 15)
  wholeMark := ".0"
  mantissaMark := ""
  exponentPlus := "+"
  exponentWidth := 1

def jsonValue : Value → String
  | .null => "null"
  | .bool b => boolText b
  | .int i => intText i
  | .float x => if x.isFinite then jsonDecimals.renderShortest x else "null"
  | .text s => jsonText s
  | .timestamp t => jsonText t.offsetText

def jsonField (pair : String × Value) : String :=
  "    " ++ jsonText pair.1 ++ ": " ++ jsonValue pair.2

def jsonRow (row : Row) : String :=
  let columns := row.columns.mergeSort fun a b => a.1 ≤ b.1
  if columns.isEmpty then "  \x7b\x7d"
  else "  \x7b\n" ++ String.intercalate ",\n" (columns.map jsonField) ++ "\n  \x7d"

def jsonRows (rows : List Row) : String :=
  if rows.isEmpty then "[]"
  else "[\n" ++ String.intercalate ",\n" (rows.map jsonRow) ++ "\n]"

end RowGraph.Display
