import RowGraph.Text.Column

/-!
Emphasis on a terminal. An emphasised text stands between the code of its style
and the code that ends every style; where such an end occurs inside the text,
the style is taken up again after it. Without colours a text is itself.
-/

namespace RowGraph.Display

/-- Whether output has colours. -/
inductive Ink where
  | plain
  | colored
deriving DecidableEq

inductive Style where
  | bold
  | dim
  | red
  | green
  | yellow
  | cyan
  | boldRed
  | boldGreen
  | boldCyan

def Style.numbers : Style → String
  | bold => "1"
  | dim => "2"
  | red => "31"
  | green => "32"
  | yellow => "33"
  | cyan => "36"
  | boldRed => "1;31"
  | boldGreen => "1;32"
  | boldCyan => "1;36"

def Style.start (style : Style) : List Char :=
  '\x1b' :: '[' :: style.numbers.toList ++ ['m']

def styleEnd : List Char := ['\x1b', '[', '0', 'm']

/-- A text in which `start` follows every end of a style. -/
def resume (start : List Char) : List Char → List Char
  | '\x1b' :: '[' :: '0' :: 'm' :: rest => styleEnd ++ start ++ resume start rest
  | c :: rest => c :: resume start rest
  | [] => []

namespace Ink

def paint (ink : Ink) (style : Style) (text : String) : String :=
  match ink with
  | plain => text
  | colored =>
    String.ofList (style.start ++ resume style.start text.toList ++ styleEnd)

/-- A text in a style, padded within it to a width. -/
def paintPadded (ink : Ink) (style : Style) (width : Nat) (text : String) : String :=
  match ink with
  | plain => Text.padRight width text
  | colored =>
    let inner := Text.padRight width (String.ofList (resume style.start text.toList))
    String.ofList (style.start ++ inner.toList ++ styleEnd)

end Ink

def rule (width : Nat) : String :=
  Text.line '─' width

def printed (lines : List String) : String :=
  String.join (lines.map fun line => line ++ "\n")

end RowGraph.Display
