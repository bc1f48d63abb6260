import RowGraph.Decimal.Shortest

/-!
How decimals are written. A style decides where the point goes without an
exponent, what marks a whole number, and how an exponent looks; the digits
themselves come from elsewhere, the shortest that read back or a fixed count.
-/

namespace RowGraph

structure NumberStyle where
  /-- First and last place of the leading digit for which the number is
  written without an exponent, the ones place being 0; without bounds every
  number is. -/
  plain : Option (Int × Int)
  /-- What is written after a whole number, and after a single digit before
  an exponent. -/
  wholeMark : String
  mantissaMark : String
  /-- What is written before an exponent that is not negative, and the least
  number of its digits. -/
  exponentPlus : String
  exponentWidth : Nat

namespace NumberStyle

/-- Whether a number with its leading digit at `lead` has no exponent. -/
def isPlain (style : NumberStyle) (lead : Int) : Bool :=
  match style.plain with
  | none => true
  | some (first, last) => first ≤ lead && lead ≤ last

/-- Digits, the first of them at the place `lead`, without an exponent. -/
def renderPlain (style : NumberStyle) (digits : List Char) (lead : Int) : String :=
  if lead < 0 then
    "0." ++ String.ofList (List.replicate ((-lead).toNat - 1) '0' ++ digits)
  else
    let before := lead.toNat + 1
    if digits.length ≤ before then
      String.ofList (digits ++ List.replicate (before - digits.length) '0') ++ style.wholeMark
    else
      String.ofList (digits.take before ++ '.' :: digits.drop before)

def renderExponent (style : NumberStyle) (exponent : Int) : String :=
  let size := Nat.toDigits 10 exponent.natAbs
  let padded := List.replicate (style.exponentWidth - size.length) '0' ++ size
  (if exponent < 0 then "-" else style.exponentPlus) ++ String.ofList padded

def renderScientific (style : NumberStyle) (digits : List Char) (lead : Int) : String :=
  let mantissa :=
    match digits with
    | first :: second :: rest => String.ofList (first :: '.' :: second :: rest)
    | _ => String.ofList digits ++ style.mantissaMark
  mantissa ++ "e" ++ style.renderExponent lead

def render (style : NumberStyle) (negative : Bool) (decimal : Nat × Int) : String :=
  let digits := Nat.toDigits 10 decimal.1
  let lead := decimal.2 + digits.length - 1
  let text :=
    if style.isPlain lead then style.renderPlain digits lead
    else style.renderScientific digits lead
  if negative then "-" ++ text else text

def renderShortest (style : NumberStyle) (x : Binary64) : String :=
  style.render x.negative (Shortest.digits x.magnitude)

end NumberStyle

end RowGraph
