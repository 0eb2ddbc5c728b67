import TypeSchema.Json.Rounding

/-!
# Numbers

A number is an integer that fits 64 bits, signed or unsigned, or a finite double.  Every
number is compared through the double nearest to it.

A finite double is a sign and a magnitude, counted in units of `2 ^ (-1074)`, that has at
most 53 significant bits and stays below `2 ^ 1024`.  Both zeros are values of their own.
The operations compute exactly and round once; what leaves the range has no value.
-/

namespace TypeSchema.Json

/-- Below one a unit is halved this often: the least magnitude is `2 ^ (-1074)`. -/
def Double.fractionBits : Nat := 1074

/-- How many bits the magnitudes of finite doubles take, counted from the least unit. -/
def Double.rangeBits : Nat := fractionBits + 1024

/-- The first magnitude, in least units, beyond the finite range. -/
def Double.limit : Nat := 2 ^ rangeBits

/-- A finite binary floating-point number of 53 significant bits. -/
structure Double where
  negative : Bool
  /-- The magnitude in units of `2 ^ (-1074)`. -/
  units : Nat
  finite : units < Double.limit
  significant : 2 ^ grain units ∣ units
deriving DecidableEq, Repr

namespace Double

/-- How many units make one. -/
def one : Nat := 2 ^ fractionBits

def zero (negative : Bool) : Double where
  negative := negative
  units := 0
  finite := Nat.two_pow_pos _
  significant := Nat.dvd_zero _

/-- The double nearest to a quotient of units, ties going to the even significand. -/
def nearest? (negative : Bool) (numerator denominator : Nat) : Option Double :=
  if finite : roundedUnits numerator denominator < limit then
    some {
      negative := negative
      units := roundedUnits numerator denominator
      finite := finite
      significant := grain_dvd_roundedUnits numerator denominator }
  else none

theorem finite_of_natAbs_le {value : Int} (bound : value.natAbs ≤ 2 ^ 64) :
    roundedUnits (value.natAbs * one) 1 < limit := by
  have small : value.natAbs * one / 1 < 2 ^ (65 + fractionBits) := by
    unfold one
    rw [Nat.div_one, Nat.pow_add]
    generalize fractionBits = bits
    exact Nat.mul_lt_mul_of_pos_right (Nat.lt_of_le_of_lt bound (by decide))
      (Nat.two_pow_pos _)
  have rounded := roundedUnits_le_two_pow (by decide) small
  have room : 65 + fractionBits < rangeBits := by decide
  unfold limit
  exact Nat.lt_of_le_of_lt rounded (Nat.pow_lt_pow_right (by decide) room)

/-- The double nearest to an integer of at most 64 bits. -/
def ofInt (value : Int) (bound : value.natAbs ≤ 2 ^ 64) : Double where
  negative := value < 0
  units := roundedUnits (value.natAbs * one) 1
  finite := finite_of_natAbs_le bound
  significant := grain_dvd_roundedUnits _ _

/-- The rounded product, unless it overflows. -/
def times? (left right : Double) : Option Double :=
  nearest? (left.negative != right.negative) (left.units * right.units) one

/-- The rounded quotient, unless it overflows. -/
def over? (left right : Double) : Option Double :=
  nearest? (left.negative != right.negative) (left.units * one) right.units

def withSign (negative : Bool) (value : Double) : Double :=
  { value with negative := negative }

/-- Above zero; neither zero is. -/
def isPositive (value : Double) : Bool :=
  !value.negative && value.units != 0

/-- Below zero; neither zero is. -/
def isNegative (value : Double) : Bool :=
  value.negative && value.units != 0

/-- The integer that a double without fractional part is. -/
def integer? (value : Double) : Option Int :=
  if value.units % one = 0 then
    some (if value.negative then -((value.units / one : Nat) : Int) else (value.units / one : Nat))
  else none

/-- The double nearest to a power of ten, unless it overflows. -/
def tenTo? (power : Nat) : Option Double :=
  nearest? false (10 ^ power * one) 1

/-- The greatest power of ten that is a finite double. -/
def maxTenPower : Nat := 308

/-- Divides by a power of ten, by at most `10 ^ 308` at a time and rounding each time. -/
def shrink? (value : Double) (power : Nat) : Option Double :=
  if power ≤ maxTenPower then do
    value.over? (← tenTo? power)
  else if value.units = 0 then
    some value
  else do
    let smaller ← value.over? (← tenTo? maxTenPower)
    smaller.shrink? (power - maxTenPower)
termination_by power
decreasing_by simp only [maxTenPower] at *; omega

/-- Multiplies by a power of ten, which itself has to be a finite double. -/
def grow? (value : Double) (power : Nat) : Option Double :=
  if power ≤ maxTenPower then do
    value.times? (← tenTo? power)
  else if value.units = 0 then
    some value
  else
    none

/-- A significand of at most 64 bits, scaled by a power of ten in double arithmetic: the
significand is rounded first, and the result of the scaling a second time. -/
def ofDecimal? (negative : Bool) (significand : Nat) (scale : Int) : Option Double := do
  let start ← nearest? false (significand * one) 1
  let scaled ← if 0 ≤ scale then start.grow? scale.toNat else start.shrink? (-scale).toNat
  return scaled.withSign negative

end Double

/-- Integers that fit 64 bits: unsigned, or signed if below zero. -/
def FitsWord (value : Int) : Prop :=
  -2 ^ 63 ≤ value ∧ value < 2 ^ 64

instance (value : Int) : Decidable (FitsWord value) :=
  inferInstanceAs (Decidable (_ ∧ _))

theorem FitsWord.natAbs_le {value : Int} (fits : FitsWord value) : value.natAbs ≤ 2 ^ 64 := by
  unfold FitsWord at fits
  omega

theorem FitsWord.of_natCast {value : Nat} (small : value < 2 ^ 64) :
    FitsWord (value : Int) := by
  unfold FitsWord
  omega

/-- A number of a document. -/
inductive Number where
  | integer (value : Int) (fits : FitsWord value)
  | double (value : Double)
deriving DecidableEq, Repr

namespace Number

def toDouble : Number → Double
  | .integer value fits => .ofInt value fits.natAbs_le
  | .double value => value

/-- An integer where it fits 64 bits, otherwise the double nearest to it, if that is finite. -/
def ofInt? (value : Int) : Option Number :=
  if fits : FitsWord value then
    some (.integer value fits)
  else
    (Double.nearest? (value < 0) (value.natAbs * Double.one) 1).map .double

end Number

end TypeSchema.Json
