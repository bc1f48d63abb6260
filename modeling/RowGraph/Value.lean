import RowGraph.Decimal.Style
import RowGraph.Text.Blank
import RowGraph.Text.Name
import RowGraph.Time.Reader

/-!
Values of a relational row, the type classes of columns, and how a value is
made to fit the class of the column that it came from or is compared with.

Fitting never fails: a value that its class has no reading for stays as it
is, and null stays null in every class.
-/

namespace RowGraph

inductive Value where
  | null
  | bool (b : Bool)
  | int (i : Int64)
  | float (x : Binary64)
  | text (s : String)
  | timestamp (t : Instant)
deriving DecidableEq

/-- The class of a column, as far as its declared type tells. -/
inductive ColumnType where
  | integer
  | real
  | text
  | boolean
  | timestamp
  | blob
  | numeric
deriving DecidableEq

/-- The class that a declared type names: the first of these parts that the
declaration contains, in any case, decides. -/
def ColumnType.ofDeclared (declared : String) : ColumnType :=
  let upper := (Text.upperAscii declared).toList
  let has (part : String) : Bool := Text.hasPart part.toList upper
  if has "BOOL" then .boolean
  else if has "DATE" || has "TIME" then .timestamp
  else if has "INT" then .integer
  else if has "CHAR" || has "CLOB" || has "TEXT" then .text
  else if upper.isEmpty || has "BLOB" then .blob
  else if has "REAL" || has "FLOA" || has "DOUB" then .real
  else .numeric

def ColumnType.name : ColumnType → String
  | .integer => "Integer"
  | .real => "Real"
  | .text => "Text"
  | .boolean => "Boolean"
  | .timestamp => "Timestamp"
  | .blob => "Blob"
  | .numeric => "Numeric"

/-- Decimals in text columns: never an exponent, whole numbers without a
point. -/
def plainDecimals : NumberStyle where
  plain := none
  wholeMark := ""
  mantissaMark := ""
  exponentPlus := ""
  exponentWidth := 1

def Binary64.plainText (x : Binary64) : String :=
  if x.isNaN then "NaN"
  else if x.isInfinite then (if x.negative then "-inf" else "inf")
  else plainDecimals.renderShortest x

def intText (i : Int64) : String :=
  let digits := String.ofList (Nat.toDigits 10 i.toInt.natAbs)
  if i.toInt < 0 then "-" ++ digits else digits

def boolText (b : Bool) : String :=
  if b then "true" else "false"

/-- The truth value that a text names, in any case and with blanks around. -/
def readBool? (text : String) : Option Bool :=
  match Text.lowerAscii (Text.trim text) with
  | "true" | "t" | "1" => some true
  | "false" | "f" | "0" => some false
  | _ => none

namespace Value

def isNull : Value → Bool
  | .null => true
  | _ => false

def text? : Value → Option String
  | .text s => some s
  | _ => none

/-- Equality of values, with numbers compared as numbers. -/
def equal : Value → Value → Bool
  | .float x, .float y => x.equal y
  | v, w => v == w

def toInteger : Value → Option Value
  | .float x => x.toInt64?.map .int
  | .bool b => some (.int (if b then 1 else 0))
  | .text s => (readInt64? (Text.trimChars s.toList)).map .int
  | _ => none

def toReal : Value → Option Value
  | .int i => some (.float (.ofInt i.toInt))
  | .text s => (Binary64.read? (Text.trimChars s.toList)).map .float
  | _ => none

/-- A text as an integer if it spells one, else as a floating-point number. -/
def toNumber : Value → Option Value
  | .text s =>
    match readInt64? (Text.trimChars s.toList) with
    | some i => some (.int i)
    | none => (Binary64.read? (Text.trimChars s.toList)).map .float
  | _ => none

def toText : Value → Option Value
  | .int i => some (.text (intText i))
  | .float x => some (.text x.plainText)
  | .bool b => some (.text (boolText b))
  | _ => none

def toBool : Value → Option Value
  | .int i => if i = 0 then some (.bool false) else if i = 1 then some (.bool true) else none
  | .text s => (readBool? s).map .bool
  | _ => none

def toTimestamp : Value → Option Value
  | .text s => (Instant.read? s).map .timestamp
  | _ => none

/-- A value as a column class reads it, where the class has a reading. -/
def read? (type : ColumnType) (v : Value) : Option Value :=
  match type with
  | .integer => v.toInteger
  | .real => v.toReal
  | .text => v.toText
  | .boolean => v.toBool
  | .timestamp => v.toTimestamp
  | .numeric => v.toNumber
  | .blob => none

/-- A value made to fit a column class; it stays as it is where the class has
no reading for it. -/
def coerce (type : ColumnType) (v : Value) : Value :=
  (v.read? type).getD v

/-- A value made to fit the class of a column whose class may be unknown. -/
def fit (type : Option ColumnType) (v : Value) : Value :=
  match type with
  | some type => v.coerce type
  | none => v

end Value

end RowGraph
