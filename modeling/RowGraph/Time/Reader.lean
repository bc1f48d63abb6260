import RowGraph.Text.Reading
import RowGraph.Time.Instant

/-!
Reading instants. Text is taken as RFC 3339 first: fields of fixed width, `T`
in either case or a blank between date and time, and an offset. What is not
RFC 3339 may be a date and a time without an offset, or a date alone, with
fields of one or two digits, a year that may have a sign, and white space in
front of every number; those are in UTC.
-/

namespace RowGraph.Instant

open Reading

/-- A fraction of a second, if there is one, in nanoseconds: a point and at
least one digit, of which those after the ninth do not count. -/
def fraction : Reading Nat
  | '.' :: rest =>
    let (digits, rest) := Text.splitDigits rest
    let counted := digits.take 9
    if digits.isEmpty then none
    else some (Text.ofDigits counted * Nat.pow 10 (9 - counted.length), rest)
  | cs => some (0, cs)

/-- An offset from UTC in seconds: `Z` in either case, or a sign, two digits
of hours below 24 and two of minutes below 60. The sign of a negative offset
is a hyphen or a minus sign. -/
def offset : Reading Int
  | 'Z' :: rest | 'z' :: rest => some (0, rest)
  | sign :: rest => do
    if sign != '+' && sign != '-' && sign != '\u2212' then none
    let (hours, rest) ← number 2 2 rest
    let ((), rest) ← mark ':' rest
    let (minutes, rest) ← number 2 2 rest
    if 24 ≤ hours || 60 ≤ minutes then none
    let size : Int := hours * 3600 + minutes * 60
    some (if sign == '+' then size else -size, rest)
  | [] => none

/-- A year that may have a sign; without one it has at most four digits. -/
def year : Reading Int
  | '-' :: rest => do
    let (n, rest) ← number 1 rest.length rest
    some (-(n : Int), rest)
  | '+' :: rest => do
    let (n, rest) ← number 1 rest.length rest
    some (n, rest)
  | cs => do
    let (n, rest) ← number 1 4 cs
    some (n, rest)

/-- White space and a number of one or two digits. -/
def field : Reading Nat := do
  blanks
  number 1 2

def firstYear : Int := -262143
def lastYear : Int := 262142

/-- The instant that a date, a time of day and an offset from UTC name. A
minute may have a second 60, the leap second. -/
def ofFields? (date : Date) (hour minute second nanos : Nat) (offset : Int) :
    Option Instant :=
  if date.isValid && firstYear ≤ date.year && date.year ≤ lastYear &&
      hour < 24 && minute < 60 && second ≤ 60 then
    let clock : Nat := hour * 3600 + minute * 60 + min second 59
    let leap := if second = 60 then 1000000000 else 0
    of? (date.toDays * 86400 + clock - offset) (nanos + leap)
  else none

def readStandard : Reading Instant := do
  let year ← number 4 4
  mark '-'
  let month ← number 2 2
  mark '-'
  let day ← number 2 2
  let _ ← oneOf fun c => c == 'T' || c == 't' || c == ' '
  let hour ← number 2 2
  mark ':'
  let minute ← number 2 2
  mark ':'
  let second ← number 2 2
  let nanos ← fraction
  let offset ← offset
  finish
  ofFields? ⟨year, month, day⟩ hour minute second nanos offset

/-- A date with fields of any width. -/
def readDate : Reading Date := do
  blanks
  let year ← year
  mark '-'
  let month ← field
  mark '-'
  let day ← field
  pure ⟨year, month, day⟩

/-- A date, what `between` reads, and a time of day with fields of any
width. -/
def readLocal (between : Reading Unit) : Reading Instant := do
  let date ← readDate
  between
  let hour ← field
  mark ':'
  let minute ← field
  mark ':'
  let second ← field
  let nanos ← fraction
  finish
  ofFields? date hour minute second nanos 0

def readMidnight : Reading Instant := do
  let date ← readDate
  finish
  ofFields? date 0 0 0 0 0

def read? (text : String) : Option Instant :=
  let cs := Text.trimChars text.toList
  let forms := [readStandard, readLocal blanks, readLocal (mark 'T'), readMidnight]
  forms.findSome? fun form => (form cs).map Prod.fst

end RowGraph.Instant
