import RowGraph.Text.Visible

/-!
Text in double quotes, as log fields and structure listings show it: quotes,
backslashes and the common control characters are escaped by a letter,
everything else without a glyph of its own by its code point.
-/

namespace RowGraph.Text

def codePoint (c : Char) : List Char :=
  Nat.toDigits 16 c.toNat

def quotedChar (c : Char) : List Char :=
  match c with
  | '\x00' => ['\x5c', '0']
  | '\t' => ['\x5c', 't']
  | '\n' => ['\x5c', 'n']
  | '\r' => ['\x5c', 'r']
  | '\x22' => ['\x5c', '\x22']
  | '\x5c' => ['\x5c', '\x5c']
  | c =>
    if isVisible c then [c]
    else ['\x5c', 'u', '\x7b'] ++ codePoint c ++ ['\x7d']

def quoted (text : String) : String :=
  String.ofList ('\x22' :: text.toList.flatMap quotedChar ++ ['\x22'])

def quotedList (texts : List String) : String :=
  "[" ++ String.intercalate ", " (texts.map quoted) ++ "]"

end RowGraph.Text
