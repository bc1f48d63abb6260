import RowGraph.Text.Doubled
import RowGraph.Value

/-!
Values and names as a graph statement spells them. There is no other way for
data to get into a statement, so the spelling alone keeps data and statement
apart: in quoted text every quote and backslash is escaped, and a name that is
not plain is written in back-ticks with its own back-ticks doubled.
-/

namespace RowGraph.Cypher

/-- A single quote and a backslash are preceded by a backslash. -/
def escapeChar (c : Char) : List Char :=
  if c = '\x27' ∨ c = '\x5c' then ['\x5c', c] else [c]

def quoteChars (cs : List Char) : List Char :=
  '\x27' :: (cs.flatMap escapeChar ++ ['\x27'])

def quote (text : String) : String :=
  String.ofList (quoteChars text.toList)

def nameChars (cs : List Char) : List Char :=
  if Text.isNameChars cs then cs else Text.doubled '\x60' cs

/-- A name, in back-ticks unless it is plain. -/
def name (text : String) : String :=
  String.ofList (nameChars text.toList)

def labelChain (labels : List String) : String :=
  String.ofList (labels.flatMap fun label => ':' :: nameChars label.toList)

/-- Decimals in statements: an exponent below 10^-4 and from 10^16 on, and a
point in every whole number that has none. -/
def decimals : NumberStyle where
  plain := some (-4, 15)
  wholeMark := ".0"
  mantissaMark := ""
  exponentPlus := ""
  exponentWidth := 1

/-- A floating-point number; what has no digits is written as a division. -/
def floatLiteral (x : Binary64) : String :=
  if x.isNaN then "0.0/0.0"
  else if x.isInfinite then (if x.negative then "-1.0/0.0" else "1.0/0.0")
  else decimals.renderShortest x

/-- A value as a literal. Instants are quoted RFC 3339 text. -/
def literal : Value → String
  | .null => "null"
  | .bool b => boolText b
  | .int i => intText i
  | .float x => floatLiteral x
  | .text s => quote s
  | .timestamp t => quote t.utcText

end RowGraph.Cypher
