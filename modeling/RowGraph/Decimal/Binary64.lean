/-!
Binary floating-point numbers with 53 significant bits, in exact arithmetic.

A number is a sign and a magnitude. Up to `infinity`, magnitudes are ordered
as the reals that they stand for: magnitude `m` is `units m` times 2^-1074,
and neighbouring magnitudes are neighbouring representable numbers. `nearest`
rounds a quotient of two naturals to a magnitude, an exact half going to the
even one; every other conversion into this type goes through it.
-/

namespace RowGraph

def int64? (i : Int) : Option Int64 :=
  if -0x8000000000000000 ≤ i ∧ i < 0x8000000000000000 then some (Int64.ofInt i) else none

/-- A binary floating-point number: its sign bit, and its other 63 bits read
as one natural number. -/
@[ext]
structure Binary64 where
  negative : Bool
  magnitude : Nat
  magnitude_lt : magnitude < 0x8000000000000000
deriving DecidableEq

namespace Binary64

/-- The weight of the lowest bit of the exponent in a magnitude, 2^52. -/
def step : Nat := 0x10000000000000

/-- The magnitude of the infinities; the magnitudes above it are not numbers. -/
def infinity : Nat := 2047 * step

/-- How many times 2^-1074 the number one is. -/
def unitsOfOne : Nat := Nat.pow 2 1074

/-- How many times 2^-1074 a finite magnitude stands for. -/
def units (magnitude : Nat) : Nat :=
  if magnitude < step then magnitude
  else (step + magnitude % step) * Nat.pow 2 (magnitude / step - 1)

/-- The magnitude closest to `num / den`, the even one of two that are equally
close, and `infinity` for all that is closer to 2^1024 than to the greatest
finite magnitude. -/
def nearest (num den : Nat) : Nat :=
  let scaled := num * unitsOfOne
  let shift := (scaled / den).log2 - 52
  let unit := den * Nat.pow 2 shift
  let below := scaled / unit
  let rest := scaled % unit
  let up := decide (unit < 2 * rest) || (decide (2 * rest = unit) && below % 2 == 1)
  min infinity (shift * step + below + up.toNat)

theorem nearest_lt (num den : Nat) : nearest num den < 0x8000000000000000 := by
  have bound : nearest num den ≤ infinity := Nat.min_le_left _ _
  have small : infinity < 0x8000000000000000 := by decide
  omega

def ofQuotient (negative : Bool) (num den : Nat) : Binary64 :=
  ⟨negative, nearest num den, nearest_lt num den⟩

def ofInt (i : Int) : Binary64 :=
  ofQuotient (i < 0) i.natAbs 1

def zero (negative : Bool) : Binary64 :=
  ⟨negative, 0, by decide⟩

def infinite (negative : Bool) : Binary64 :=
  ⟨negative, infinity, by decide⟩

/-- Not a number; of all of them, the one whose payload is a single leading
bit. -/
def notANumber : Binary64 :=
  ⟨false, infinity + step / 2, by decide⟩

def isNaN (x : Binary64) : Bool :=
  infinity < x.magnitude

def isInfinite (x : Binary64) : Bool :=
  x.magnitude == infinity

def isFinite (x : Binary64) : Bool :=
  x.magnitude < infinity

/-- The number whose sign is the highest bit of a word and whose magnitude is
the rest. -/
def ofBits (word : UInt64) : Binary64 :=
  ⟨0x8000000000000000 ≤ word.toNat, word.toNat % 0x8000000000000000, Nat.mod_lt _ (by decide)⟩

def toBits (x : Binary64) : UInt64 :=
  UInt64.ofNat (x.negative.toNat * 0x8000000000000000 + x.magnitude)

/-- The place of a number on the number line, in units of 2^-1074. The
infinities lie beyond all other numbers. -/
def place (x : Binary64) : Int :=
  if x.negative then -(units x.magnitude : Int) else units x.magnitude

/-- The order of numbers; what is not a number has no place in it. -/
def less (x y : Binary64) : Bool :=
  !x.isNaN && !y.isNaN && decide (x.place < y.place)

/-- The order of numbers, each counted as not above itself. -/
def atMost (x y : Binary64) : Bool :=
  !x.isNaN && !y.isNaN && decide (x.place ≤ y.place)

def isWhole (x : Binary64) : Bool :=
  x.place % unitsOfOne == 0

/-- Whether a number can be a 64-bit integer. The bounds are compared as
numbers: the greatest integer rounds to 2^63, which is itself too large. -/
def isIntegral (x : Binary64) : Bool :=
  x.isFinite && x.isWhole && (ofInt Int64.minValue.toInt).atMost x &&
    x.less (ofInt Int64.maxValue.toInt)

/-- A number cut off behind the point and brought into the range of 64-bit
integers; what is not a number becomes zero. -/
def clamped (x : Binary64) : Int64 :=
  if x.isNaN then 0
  else
    let cut := x.place.tdiv unitsOfOne
    .ofInt (max Int64.minValue.toInt (min cut Int64.maxValue.toInt))

def toInt64? (x : Binary64) : Option Int64 :=
  if x.isIntegral then some x.clamped else none

/-- Equality of numbers: the zeros are equal, and what is not a number equals
nothing. -/
def equal (x y : Binary64) : Bool :=
  !x.isNaN && !y.isNaN && x.magnitude == y.magnitude &&
    (x.negative == y.negative || x.magnitude == 0)

end Binary64

end RowGraph
