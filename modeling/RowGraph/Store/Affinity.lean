import RowGraph.Store.Cell

/-!
Affinities. A condition between a column and a bound cell first brings the cell
into the form that the column keeps its own cells in: a text that spells a
number becomes that number for a numeric column, a number becomes its text for
a text column, and everything else is compared as it is.
-/

namespace RowGraph

/-- The form in which a column keeps its cells. -/
inductive Affinity where
  | numeric
  | text
  | asGiven
deriving DecidableEq

namespace Affinity

/-- The affinity that a declared type gives its column: the first of these
parts that the declaration contains, in any case, decides. -/
def ofDeclared (declared : String) : Affinity :=
  let upper := (Text.upperAscii declared).toList
  let has (part : String) : Bool := Text.hasPart part.toList upper
  if has "INT" then .numeric
  else if has "CHAR" || has "CLOB" || has "TEXT" then .text
  else if upper.isEmpty || has "BLOB" then .asGiven
  else .numeric

def isNumberBlank (c : Char) : Bool :=
  c == ' ' || ('\t'.toNat ≤ c.toNat && c.toNat ≤ '\r'.toNat)

/-- The number that a text spells, blanks around it aside: an integer if it is
written as one and fits 64 bits. -/
def readNumber? (bytes : ByteArray) : Option Cell :=
  let cs := bytes.toList.map fun b => Char.ofNat b.toNat
  let cs := (cs.dropWhile isNumberBlank).reverse.dropWhile isNumberBlank |>.reverse
  match readInt64? cs with
  | some i => some (.integer i)
  | none => (Numeral.read? cs).map fun n => .real n.toBinary64

def decimals : NumberStyle where
  plain := some (-4, 14)
  wholeMark := ".0"
  mantissaMark := ".0"
  exponentPlus := "+"
  exponentWidth := 2

def precision : Nat := 15

/-- A finite magnitude rounded to `precision` digits, a half going upward. -/
def rounded (magnitude : Nat) : Nat × Int :=
  let value := Shortest.exact magnitude
  let dropped := Numeral.width value - precision
  let unit := Nat.pow 10 dropped
  Shortest.strip ((value + unit / 2) / unit) (dropped - 1074)

/-- A floating-point number as the text that a text column compares it by. -/
def realText (x : Binary64) : String :=
  if x.magnitude = 0 then "0.0"
  else if x.isFinite then decimals.render x.negative (rounded x.magnitude)
  else if x.negative then "-Inf"
  else "Inf"

def fit (affinity : Affinity) (cell : Cell) : Cell :=
  match affinity, cell with
  | .numeric, .text bytes => (readNumber? bytes).getD cell
  | .text, .integer i => .text (intText i).toUTF8
  | .text, .real x => .text (realText x).toUTF8
  | _, _ => cell

/-- Equality of a cell of one column and a cell of another: texts that spell
numbers count as numbers if one of the columns is numeric. -/
def equalBetween (a b : Affinity) (x y : Cell) : Bool :=
  if a = numeric ∨ b = numeric then (fit numeric x).equal (fit numeric y) else x.equal y

@[simp] theorem fit_null (affinity : Affinity) : affinity.fit .null = .null := by
  cases affinity <;> rfl

end Affinity

end RowGraph
