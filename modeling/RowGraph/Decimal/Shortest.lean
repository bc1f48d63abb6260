import RowGraph.Decimal.Numeral

/-!
The shortest decimal of a binary number: the fewest digits that read back as
the same magnitude, and of several with that many digits the closest, an exact
tie going upward.

The search tries one digit, then two, and so on. On the grid of decimals with
a given number of digits it looks at the two neighbours of the value; if
neither reads back, no decimal on that grid does.
-/

namespace RowGraph.Shortest

/-- A finite magnitude as a whole number of times 10^-1074. -/
def exact (magnitude : Nat) : Nat :=
  Binary64.units magnitude * Nat.pow 5 1074

def strip (digits : Nat) (scale : Int) : Nat × Int :=
  if digits ≠ 0 ∧ digits % 10 = 0 then strip (digits / 10) (scale + 1)
  else (digits, scale)
termination_by digits
decreasing_by omega

/-- Of two neighbours the one that reads back; if both do, the lower one only if
it is closer. -/
def closest? (readsBack : Nat → Bool) (below : Nat) (lowerCloser : Bool) : Option Nat :=
  match readsBack below, readsBack (below + 1) with
  | true, true => some (if lowerCloser then below else below + 1)
  | true, false => some below
  | false, true => some (below + 1)
  | false, false => none

/-- The closest of the two decimals of `count` digits around a magnitude that
reads back as it. -/
def onGrid (magnitude count : Nat) : Option (Nat × Int) :=
  let value := exact magnitude
  let place := Numeral.width value - count
  let unit := Nat.pow 10 place
  let scale : Int := (place : Int) - 1074
  let readsBack (digits : Nat) : Bool :=
    Numeral.nearest ⟨false, digits, scale⟩ == magnitude
  (closest? readsBack (value / unit) (2 * (value % unit) < unit)).map fun digits => (digits, scale)

/-- The digits and the scale of the shortest decimal of a finite magnitude.
The exact decimal, which always reads back, closes the search. -/
def digits (magnitude : Nat) : Nat × Int :=
  if magnitude = 0 then (0, 0)
  else
    let found := ((List.range' 1 17).findSome? (onGrid magnitude)).getD (exact magnitude, -1074)
    strip found.1 found.2

end RowGraph.Shortest
