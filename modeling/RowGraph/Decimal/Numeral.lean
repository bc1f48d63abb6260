import RowGraph.Decimal.Binary64
import RowGraph.Text.Digits

/-!
Decimal numerals: what they stand for, and how they are read. A numeral is a
natural number of digits and a power of ten. Its value is rounded to a binary
number once, from the exact quotient.
-/

namespace RowGraph

/-- A number in decimal: `digits` times the power of ten `scale`, with a
sign. -/
structure Numeral where
  negative : Bool
  digits : Nat
  scale : Int
deriving DecidableEq

namespace Numeral

/-- The number of decimal digits of a natural number, one for zero. -/
def width (n : Nat) : Nat :=
  (Nat.toDigits 10 n).length

def nearest (n : Numeral) : Nat :=
  if 0 ≤ n.scale then Binary64.nearest (n.digits * Nat.pow 10 n.scale.toNat) 1
  else Binary64.nearest n.digits (Nat.pow 10 (-n.scale).toNat)

/-- The binary number closest to a numeral. The leading digit alone settles
numerals too large or too small for any finite magnitude but zero, whatever
their scale. -/
def toBinary64 (n : Numeral) : Binary64 :=
  let lead := n.scale + width n.digits
  if n.digits = 0 ∨ lead < -330 then .zero n.negative
  else if 310 < lead then .infinite n.negative
  else if 0 ≤ n.scale then .ofQuotient n.negative (n.digits * Nat.pow 10 n.scale.toNat) 1
  else .ofQuotient n.negative n.digits (Nat.pow 10 (-n.scale).toNat)

/-- The exponent after the digits of a numeral, which begins with `e` or `E`
if there is one. -/
def readExponent? : List Char → Option Int
  | [] => some 0
  | c :: rest =>
    if c == 'e' || c == 'E' then
      let (negative, digits) := Text.splitSign rest
      if Text.isDigits digits then
        some (if negative then -(Text.ofDigits digits : Int) else Text.ofDigits digits)
      else none
    else none

/-- What comes after a decimal point, split into its digits and the rest;
nothing if there is no point. -/
def splitFraction : List Char → List Char × List Char
  | '.' :: rest => Text.splitDigits rest
  | rest => ([], rest)

/-- The numeral that a whole text spells: an optional sign, digits with at
most one point among or around them, and an optional exponent. -/
def read? (cs : List Char) : Option Numeral :=
  let (negative, unsigned) := Text.splitSign cs
  let (whole, rest) := Text.splitDigits unsigned
  let (fraction, rest) := splitFraction rest
  if whole.isEmpty && fraction.isEmpty then none
  else
    (readExponent? rest).map fun exponent =>
      ⟨negative, Text.ofDigits (whole ++ fraction), exponent - fraction.length⟩

end Numeral

/-- The number that a whole text spells, in decimal or by one of the names
`inf`, `infinity` and `nan` in any case. -/
def Binary64.read? (cs : List Char) : Option Binary64 :=
  let (negative, unsigned) := Text.splitSign cs
  match String.ofList (unsigned.map Char.toLower) with
  | "inf" | "infinity" => some (.infinite negative)
  | "nan" => some .notANumber
  | _ => (Numeral.read? cs).map Numeral.toBinary64

def readInt64? (cs : List Char) : Option Int64 :=
  let (negative, digits) := Text.splitSign cs
  if Text.isDigits digits then
    let size : Int := Text.ofDigits digits
    int64? (if negative then -size else size)
  else none

end RowGraph
