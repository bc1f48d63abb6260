import RowGraph.Text.Column
import RowGraph.Time.Calendar

/-!
Instants of UTC with nanoseconds, and their RFC 3339 text.

A leap second has no second of its own to count: it is held on the 59th second
of its minute with 10^9 or more nanoseconds, and written as second 60. Years
from 0 to 9999 have four digits; all others have a sign and at least four.
-/

namespace RowGraph

/-- An instant of UTC: seconds since 1970-01-01T00:00:00Z, and nanoseconds
within the second or within the leap second that follows it. -/
@[ext]
structure Instant where
  seconds : Int
  nanos : Nat
  nanos_lt : nanos < 2000000000
  leap : 1000000000 ≤ nanos → seconds % 60 = 59
deriving DecidableEq

namespace Instant

def of? (seconds : Int) (nanos : Nat) : Option Instant :=
  if h : nanos < 2000000000 ∧ (1000000000 ≤ nanos → seconds % 60 = 59) then
    some ⟨seconds, nanos, h.1, h.2⟩
  else none

def date (t : Instant) : Date :=
  .ofDays (t.seconds / 86400)

/-- Seconds since the day began, without a leap second. -/
def secondOfDay (t : Instant) : Nat :=
  (t.seconds % 86400).toNat

/-- A year: four digits from 0 to 9999, else a sign and at least four. -/
def yearText (year : Int) : String :=
  let digits := Text.zeroPadded 4 year.natAbs
  if year < 0 then "-" ++ digits
  else if year ≤ 9999 then digits
  else "+" ++ digits

/-- A fraction of a second in groups of three digits, as many as it needs. -/
def fractionText (nanos : Nat) : String :=
  if nanos = 0 then ""
  else if nanos % 1000000 = 0 then "." ++ Text.zeroPadded 3 (nanos / 1000000)
  else if nanos % 1000 = 0 then "." ++ Text.zeroPadded 6 (nanos / 1000)
  else "." ++ Text.zeroPadded 9 nanos

/-- The time of day, the leap second as second 60. -/
def timeText (t : Instant) : String :=
  let second := t.secondOfDay % 60 + (if 1000000000 ≤ t.nanos then 1 else 0)
  Text.zeroPadded 2 (t.secondOfDay / 3600) ++ ":" ++
    Text.zeroPadded 2 (t.secondOfDay / 60 % 60) ++ ":" ++ Text.zeroPadded 2 second ++
    fractionText (t.nanos % 1000000000)

/-- The RFC 3339 text of an instant, with the given spelling of the UTC
offset. -/
def text (zone : String) (t : Instant) : String :=
  yearText t.date.year ++ "-" ++ Text.zeroPadded 2 t.date.month ++ "-" ++
    Text.zeroPadded 2 t.date.day ++ "T" ++ t.timeText ++ zone

def utcText (t : Instant) : String :=
  t.text "Z"

def offsetText (t : Instant) : String :=
  t.text "+00:00"

end Instant

end RowGraph
