import RowGraph.Document.Quotation
import RowGraph.Document.Tree
import RowGraph.Time.Calendar

/-!
The scalars of a TOML document: text, integers in four bases, decimals, truth
values, dates and times. A number that follows these rules but does not fit its
type is no scalar.
-/

namespace RowGraph.Document

open Reading

/-- Digits that may be grouped by single underscores. -/
def grouped (accept : Char → Bool) : Reading (List Char) := do
  let found ← span fun c => accept c || c == '_'
  let groups := found.splitOn '_'
  if groups.any List.isEmpty then failure
  return groups.flatten

def ofBase (base : Nat) (digits : List Char) : Nat :=
  digits.foldl (fun n c => n * base + (Text.hexDigit? c).getD 0) 0

def integerTree (i : Int) : Reading Tree :=
  if (int64? i).isSome then return .integer i else failure

/-- An integer in a base other than ten, which has no sign. -/
def basedInteger (mark : String) (base : Nat) : Reading Tree := do
  word mark
  let digits ← grouped fun c => (Text.hexDigit? c).any (· < base)
  integerTree (ofBase base digits)

def sign : Reading Bool := fun cs =>
  some (Text.splitSign cs)

/-- The whole part of a number, which has no zeros in front. -/
def wholeDigits : Reading (List Char) := do
  let digits ← grouped Char.isDigit
  if 1 < digits.length && digits.head? == some '0' then failure
  return digits

def exponent : Reading Int := do
  let _ ← oneOf fun c => c == 'e' || c == 'E'
  let negative ← sign
  let digits ← grouped Char.isDigit
  let size : Int := Text.ofDigits digits
  return if negative then -size else size

/-- A number in base ten: an integer if it has neither a fraction nor an
exponent. A decimal too large for any finite number is refused unless it is
negative. -/
def number : Reading Tree := do
  let negative ← sign
  let whole ← wholeDigits
  let fraction ← optional (do mark '.'; grouped Char.isDigit)
  let power ← optional exponent
  if fraction.isNone && power.isNone then
    let size : Int := Text.ofDigits whole
    integerTree (if negative then -size else size)
  else
    let places := fraction.getD []
    let numeral : Numeral :=
      ⟨negative, Text.ofDigits (whole ++ places), power.getD 0 - places.length⟩
    if numeral.toBinary64 = .infinite false then failure
    return .decimal numeral.toBinary64

def namedDecimal : Reading Tree := do
  let negative ← sign
  (do word "inf"; return .decimal (.infinite negative)) <|>
    (do word "nan"; return .decimal .notANumber)

def truth : Reading Tree :=
  (do word "true"; return .bool true) <|> (do word "false"; return .bool false)

def date : Reading Unit := do
  let year ← Reading.number 4 4
  mark '-'
  let month ← Reading.number 2 2
  mark '-'
  let day ← Reading.number 2 2
  if !(Date.mk year month day).isValid then failure

def clock : Reading Unit := do
  let hour ← Reading.number 2 2
  mark ':'
  let minute ← Reading.number 2 2
  mark ':'
  let second ← Reading.number 2 2
  let _ ← optional (do
    mark '.'
    let digits ← span Char.isDigit
    if digits.isEmpty then failure)
  if 24 ≤ hour || 60 ≤ minute || 60 < second then failure

def zone : Reading Unit :=
  (do let _ ← oneOf fun c => c == 'Z' || c == 'z') <|> do
    let _ ← oneOf fun c => c == '+' || c == '-'
    let hour ← Reading.number 2 2
    mark ':'
    let minute ← Reading.number 2 2
    if 24 ≤ hour || 60 ≤ minute then failure

/-- A date, a time of day, or both with or without an offset. -/
def momentParts : Reading Unit :=
  (do
    date
    let _ ← optional (do
      let _ ← oneOf fun c => c == 'T' || c == 't' || c == ' '
      clock
      let _ ← optional zone)) <|> clock

def moment : Reading Tree := fun cs =>
  (momentParts cs).map fun ((), rest) =>
    (.moment (String.ofList (cs.take (cs.length - rest.length))), rest)

def scalar : Reading Tree :=
  Tree.text <$> anyText <|> moment <|> basedInteger "0x" 16 <|> basedInteger "0o" 8 <|>
    basedInteger "0b" 2 <|> number <|> namedDecimal <|> truth

end RowGraph.Document
