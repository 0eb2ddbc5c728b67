import TypeSchema.Json.Number

/-!
# The text of a number

Integers are written in decimal.  A double is written with the fewest digits that read back:
positionally, with at least one decimal, where the exponent of its leading digit lies
between -5 and 15, and otherwise with a signed exponent.

Of the decimals that lie among the reals nearest to a double, `shortest` selects one with
the fewest digits, and of those the nearest to the double; an exact tie goes to the even
last digit.  The search is over grids of powers of ten, in exact arithmetic.
-/

namespace TypeSchema.Json

/-- The decimal `digits * 10 ^ exponent`. -/
structure Decimal where
  digits : Nat
  exponent : Int
deriving DecidableEq, Repr

namespace Decimal

/-- Moves trailing zeros of the digits into the exponent. -/
def strip (decimal : Decimal) : Decimal :=
  if h : decimal.digits ≠ 0 ∧ decimal.digits % 10 = 0 then
    strip ⟨decimal.digits / 10, decimal.exponent + 1⟩
  else
    decimal
termination_by decimal.digits
decreasing_by omega

def digitChars (value : Nat) : List Char :=
  Nat.toDigits 10 value

end Decimal

namespace Double

/-- The distance to the next greater double, in units. -/
def gapAbove (units : Nat) : Nat :=
  2 ^ grain units

/-- Whether the next smaller double is only half as far away as the next greater one. -/
def isBinadeStart (units : Nat) : Bool :=
  grain units ≠ 0 && units == 2 ^ (grain units + 52)

/-- Whether a decimal is among the reals nearest to a magnitude, given its distance from it
in units times `scale`, and whether it lies below.  These reals reach half-way to both
neighbours; the middle itself belongs to the magnitude whose significand is even. -/
def isNear (units scale distance : Nat) (isBelow : Bool) : Bool :=
  let parts := if isBelow && isBinadeStart units then 4 else 2
  let gap := gapAbove units * scale
  parts * distance < gap ||
    (parts * distance == gap && (units / gapAbove units) % 2 == 0)

/-- The decimal exponent of a magnitude that is not zero: it is below `10` to this power and
at least a tenth of that. -/
def decimalSize (units : Nat) : Int :=
  ((Decimal.digitChars (units * 10 ^ 400 / one)).length : Int) - 400

/-- The nearest decimal on the grid of `10 ^ exponent` that reads back, if there is one. -/
def onGrid? (units : Nat) (exponent : Int) : Option Decimal :=
  let scale := 10 ^ (-exponent).toNat
  let step := one * 10 ^ exponent.toNat
  let below := units * scale / step
  let toBelow := units * scale % step
  let toAbove := step - toBelow
  let belowFits := isNear units scale toBelow true
  let aboveFits := isNear units scale toAbove false
  if belowFits && aboveFits then
    if toBelow < toAbove || (toBelow == toAbove && below % 2 == 0) then
      some ⟨below, exponent⟩
    else
      some ⟨below + 1, exponent⟩
  else if belowFits then
    some ⟨below, exponent⟩
  else if aboveFits then
    some ⟨below + 1, exponent⟩
  else
    none

/-- A decimal with the fewest digits that reads back.  Seventeen digits suffice for every
double; the exact value stands in where none of them did. -/
def shortest (units : Nat) : Decimal :=
  let size := decimalSize units
  match (List.range 17).findSome? fun count => onGrid? units (size - (count + 1 : Nat)) with
  | some decimal => decimal.strip
  | none => (Decimal.mk (units * 5 ^ fractionBits) (-(fractionBits : Nat))).strip

end Double

namespace Decimal

/-- The exponent of the leading digit from which on a decimal is written positionally. -/
def leastPlainExponent : Int := -5

/-- The greatest exponent of the leading digit with which a decimal is written
positionally. -/
def greatestPlainExponent : Int := 15

/-- Digits with the point after the first `place` of them; zeros fill the places that the
digits do not reach. -/
def plainText (digits : List Char) (place : Int) : List Char :=
  if place ≤ 0 then
    ['0', '.'] ++ List.replicate (-place).toNat '0' ++ digits
  else
    let whole := digits.take place.toNat
    let fraction := digits.drop place.toNat
    whole ++ List.replicate (place.toNat - digits.length) '0' ++ ['.'] ++
      (if fraction.isEmpty then ['0'] else fraction)

/-- One digit, the others after a point, and the exponent with its sign. -/
def scientificText (digits : List Char) (exponent : Int) : List Char :=
  let fraction := digits.drop 1
  digits.take 1 ++ (if fraction.isEmpty then [] else '.' :: fraction) ++ ['e'] ++
    [if exponent < 0 then '-' else '+'] ++ digitChars exponent.natAbs

/-- The text of a decimal that is not zero and ends in no zero. -/
def text (decimal : Decimal) : List Char :=
  let digits := digitChars decimal.digits
  let exponent := decimal.exponent + digits.length - 1
  if leastPlainExponent ≤ exponent ∧ exponent ≤ greatestPlainExponent then
    plainText digits (exponent + 1)
  else
    scientificText digits exponent

end Decimal

def Double.text (value : Double) : List Char :=
  (if value.negative then ['-'] else []) ++
    (if value.units = 0 then ['0', '.', '0'] else (shortest value.units).text)

def integerText (value : Int) : List Char :=
  (if value < 0 then ['-'] else []) ++ Decimal.digitChars value.natAbs

def Number.text : Number → List Char
  | .integer value _ => integerText value
  | .double value => value.text

end TypeSchema.Json
