import Mathlib.Algebra.Order.Field.Basic
import Mathlib.Algebra.Order.Field.Rat
import Mathlib.Tactic.FieldSimp
import Mathlib.Tactic.Linarith
import Mathlib.Tactic.Ring
import TypeSchema.Json.Number
import TypeSchema.Proofs.Json.Rounding

/-!
# The numbers that doubles stand for

Every number of a document stands for a rational number, and is seen as the double nearest
to it, with ties going to the even significand.  Rounding never passes a double, so no
number passes a bound that is a double when it is rounded; the integers of at most 53 bits
are doubles, and all doubles beyond them are integers.
-/

namespace TypeSchema.Json

theorem cast_dist (left right : Nat) :
    (Nat.dist left right : ℚ) = |(left : ℚ) - (right : ℚ)| := by
  rcases Nat.le_total left right with below | above
  · rw [Nat.dist_eq_sub_of_le below, Nat.cast_sub below, abs_sub_comm, abs_of_nonneg]
    exact sub_nonneg.mpr (Nat.cast_le.mpr below)
  · rw [Nat.dist_eq_sub_of_le_right above, Nat.cast_sub above, abs_of_nonneg]
    exact sub_nonneg.mpr (Nat.cast_le.mpr above)

namespace Double

/-- The factor of a sign. -/
def sign (negative : Bool) : ℚ :=
  if negative then -1 else 1

/-- The rational number that a double stands for.  Both zeros stand for zero. -/
def exact (double : Double) : ℚ :=
  sign double.negative * (double.units / one)

/-- The double is as near to the number as any, and where another one is equally near, the
significand is even. -/
structure IsNearest (value : ℚ) (double : Double) : Prop where
  closest : ∀ other : Double, |value - double.exact| ≤ |value - other.exact|
  even_of_tie : ∀ other : Double, |value - other.exact| = |value - double.exact| →
    other.exact ≠ double.exact → significand double.units % 2 = 0

theorem one_pos : (0 : ℚ) < one :=
  Nat.cast_pos.mpr (Nat.two_pow_pos fractionBits)

theorem sign_not (negative : Bool) : sign (!negative) = -sign negative := by
  cases negative <;> simp [sign]

theorem abs_sign_mul (negative : Bool) (value : ℚ) : |sign negative * value| = |value| := by
  cases negative <;> simp [sign]

variable {numerator denominator : Nat}

/-- How far a quotient and a magnitude of the same sign are apart. -/
theorem abs_sub_eq (positive : 0 < denominator) (negative : Bool) (units : Nat) :
    |sign negative * (numerator / (denominator * one)) - sign negative * (units / one)| =
      (Nat.dist numerator (denominator * units) : ℚ) / (denominator * one) := by
  have denominatorPos : (0 : ℚ) < denominator := Nat.cast_pos.mpr positive
  have onePos := one_pos
  have difference : (numerator : ℚ) / (denominator * one) - units / one =
      ((numerator : ℚ) - (denominator * units : Nat)) / (denominator * one) := by
    push_cast
    field_simp
  rw [← mul_sub, abs_sign_mul, difference, abs_div, cast_dist,
    abs_of_pos (mul_pos denominatorPos onePos)]

/-- For every double there is a magnitude on the side of a quotient that is no farther from
it, and equally far only if it is that of the double. -/
theorem exists_same_side (numerator denominator : Nat) (negative : Bool) (other : Double) :
    ∃ units, 2 ^ grain units ∣ units ∧
      |sign negative * (numerator / (denominator * one)) - sign negative * (units / one)| ≤
        |sign negative * (numerator / (denominator * one)) - other.exact| ∧
      (|sign negative * (numerator / (denominator * one)) - sign negative * (units / one)| =
        |sign negative * (numerator / (denominator * one)) - other.exact| →
        sign negative * (units / one) = other.exact) := by
  by_cases same : other.negative = negative
  · refine ⟨other.units, other.significant, ?_⟩
    rw [exact, same]
    exact ⟨le_refl _, fun _ => rfl⟩
  · refine ⟨0, Nat.dvd_zero _, ?_⟩
    have quotientNonneg : (0 : ℚ) ≤ numerator / (denominator * one) :=
      div_nonneg (Nat.cast_nonneg _) (mul_nonneg (Nat.cast_nonneg _) one_pos.le)
    have otherNonneg : (0 : ℚ) ≤ other.units / one :=
      div_nonneg (Nat.cast_nonneg _) one_pos.le
    have opposite : sign negative * (numerator / (denominator * one)) - other.exact =
        sign negative * (numerator / (denominator * one) + other.units / one) := by
      rw [exact, Bool.eq_not.mpr same, sign_not]
      ring
    rw [opposite, abs_sign_mul, abs_of_nonneg (add_nonneg quotientNonneg otherNonneg)]
    simp only [Nat.cast_zero, zero_div, mul_zero, sub_zero, abs_sign_mul,
      abs_of_nonneg quotientNonneg]
    refine ⟨le_add_of_nonneg_right otherNonneg, ?_⟩
    intro equallyFar
    have nothing : (other.units : ℚ) / one = 0 := by linarith
    rw [exact, nothing, mul_zero]

/-- A double whose magnitude is a rounded quotient is nearest to the quotient. -/
theorem isNearest_of_rounded (positive : 0 < denominator) {double : Double}
    (rounded : double.units = roundedUnits numerator denominator) :
    IsNearest (sign double.negative * (numerator / (denominator * one))) double := by
  have scalePos : (0 : ℚ) < denominator * one :=
    mul_pos (Nat.cast_pos.mpr positive) one_pos
  have nearest : ∀ units, 2 ^ grain units ∣ units →
      |sign double.negative * (numerator / (denominator * one)) - double.exact| ≤
        |sign double.negative * (numerator / (denominator * one)) -
          sign double.negative * (units / one)| := by
    intro units representable
    rw [exact, abs_sub_eq positive, abs_sub_eq positive, rounded]
    apply (div_le_div_iff_of_pos_right scalePos).mpr
    exact Nat.cast_le.mpr (roundedUnits_nearest positive representable)
  constructor
  · intro other
    obtain ⟨units, representable, noFarther, -⟩ :=
      exists_same_side numerator denominator double.negative other
    exact le_trans (nearest units representable) noFarther
  · intro other tie different
    obtain ⟨units, representable, noFarther, sameIfEqual⟩ :=
      exists_same_side numerator denominator double.negative other
    have equallyFar := le_antisymm noFarther (tie ▸ nearest units representable)
    have sameValue := sameIfEqual equallyFar
    have differentUnits : units ≠ roundedUnits numerator denominator := by
      intro sameUnits
      apply different
      rw [← sameValue, exact, rounded, sameUnits]
    rw [rounded]
    apply significand_even_of_tie positive representable differentUnits
    rw [← sameValue, exact, abs_sub_eq positive, abs_sub_eq positive, rounded] at tie
    exact (Nat.cast_injective ((div_left_inj' scalePos.ne').mp tie)).symm

theorem isNearest_self (double : Double) : IsNearest double.exact double := by
  constructor
  · intro other
    rw [sub_self, abs_zero]
    exact abs_nonneg _
  · intro other tie different
    rw [sub_self, abs_zero, abs_eq_zero, sub_eq_zero] at tie
    exact (different tie.symm).elim

namespace IsNearest

variable {value : ℚ} {double bound : Double}

theorem exact_le (nearest : IsNearest value double) (below : value ≤ bound.exact) :
    double.exact ≤ bound.exact := by
  by_contra above
  have closest := nearest.closest bound
  rw [abs_of_nonpos (sub_nonpos.mpr below), abs_of_nonpos (by linarith)] at closest
  linarith

theorem le_exact (nearest : IsNearest value double) (above : bound.exact ≤ value) :
    bound.exact ≤ double.exact := by
  by_contra below
  have closest := nearest.closest bound
  rw [abs_of_nonneg (sub_nonneg.mpr above), abs_of_nonneg (by linarith)] at closest
  linarith

theorem exact_eq (nearest : IsNearest bound.exact double) : double.exact = bound.exact :=
  le_antisymm (nearest.exact_le (le_refl _)) (nearest.le_exact (le_refl _))

end IsNearest

theorem sign_mul_natAbs (integer : Int) :
    sign (integer < 0) * (integer.natAbs : ℚ) = integer := by
  rw [Nat.cast_natAbs, Int.cast_abs]
  by_cases negative : integer < 0
  · have castNegative : (integer : ℚ) < 0 := Int.cast_lt_zero.mpr negative
    simp [sign, negative, abs_of_neg castNegative]
  · have castNonneg : (0 : ℚ) ≤ integer := Int.cast_nonneg (not_lt.mp negative)
    simp [sign, negative, abs_of_nonneg castNonneg]

theorem grain_dvd_small {count : Nat} (small : count ≤ 2 ^ 53) :
    2 ^ grain (count * one) ∣ count * one := by
  unfold one
  by_cases next : count = 2 ^ 53
  · subst next
    rw [← Nat.pow_add]
    apply Nat.pow_dvd_pow
    apply grain_le_iff.mpr
    apply Nat.pow_lt_pow_right (by decide)
    omega
  · have fine : grain (count * 2 ^ fractionBits) ≤ fractionBits := by
      apply grain_le_iff.mpr
      rw [Nat.add_comm, Nat.pow_add]
      apply Nat.mul_lt_mul_of_pos_right _ (Nat.two_pow_pos _)
      omega
    exact Nat.dvd_trans (Nat.pow_dvd_pow 2 fine) (Nat.dvd_mul_left _ _)

theorem small_lt_limit {count : Nat} (small : count ≤ 2 ^ 53) : count * one < limit := by
  unfold one limit rangeBits
  rw [Nat.add_comm, Nat.pow_add]
  apply Nat.mul_lt_mul_of_pos_right _ (Nat.two_pow_pos _)
  have room : 53 < 1024 := by decide
  generalize 1024 = range at *
  exact Nat.lt_of_le_of_lt small (Nat.pow_lt_pow_right (by decide) room)

/-- Integers of at most 53 bits are doubles, and so is the first one beyond them. -/
theorem exists_exact_eq {integer : Int} (small : integer.natAbs ≤ 2 ^ 53) :
    ∃ double : Double, double.exact = integer := by
  refine ⟨⟨integer < 0, integer.natAbs * one, small_lt_limit small, grain_dvd_small small⟩, ?_⟩
  rw [exact, Nat.cast_mul, mul_div_cancel_right₀ _ one_pos.ne', sign_mul_natAbs]

/-- Magnitudes beyond 53 bits have no fractional part. -/
theorem one_dvd_units {double : Double} (large : 2 ^ 53 * one ≤ double.units) :
    one ∣ double.units := by
  unfold one at large ⊢
  generalize fractionBits = bits at *
  rw [← Nat.pow_add] at large
  have coarse : bits ≤ grain double.units := by
    apply le_grain
    apply Nat.le_trans (Nat.pow_le_pow_right (by decide) _) large
    omega
  exact Nat.dvd_trans (Nat.pow_dvd_pow 2 coarse) double.significant

/-- The integer of a sign and a magnitude without fractional part. -/
theorem exact_of_units {double : Double} {count : Nat} (whole : double.units = one * count) :
    double.exact = ((if double.negative then -count else count : Int) : ℚ) := by
  rw [exact, whole, Nat.cast_mul, mul_div_cancel_left₀ _ one_pos.ne']
  cases double.negative <;> simp [sign]

theorem abs_exact (double : Double) : |double.exact| = double.units / one := by
  rw [exact, abs_sign_mul, abs_of_nonneg]
  exact div_nonneg (Nat.cast_nonneg _) one_pos.le

theorem exists_integer_of_large {double : Double}
    (large : ((2 ^ 53 : Nat) : ℚ) ≤ |double.exact|) :
    ∃ integer : Int, double.exact = integer := by
  rw [abs_exact, le_div_iff₀ one_pos, ← Nat.cast_mul, Nat.cast_le] at large
  obtain ⟨count, whole⟩ := one_dvd_units large
  exact ⟨_, exact_of_units whole⟩

theorem one_dvd_units_of_exact {double : Double} {integer : Int}
    (same : double.exact = integer) : one ∣ double.units := by
  have magnitude : (double.units : ℚ) / one = integer.natAbs := by
    rw [Nat.cast_natAbs, Int.cast_abs, ← same, abs_exact]
  rw [div_eq_iff one_pos.ne', ← Nat.cast_mul] at magnitude
  exact ⟨integer.natAbs, by rw [Nat.cast_injective magnitude, Nat.mul_comm]⟩

theorem integer?_eq_some_iff {double : Double} {integer : Int} :
    double.integer? = some integer ↔ double.exact = integer := by
  by_cases whole : one ∣ double.units
  · obtain ⟨count, cut⟩ := whole
    have onePos : 0 < one := Nat.two_pow_pos fractionBits
    rw [exact_of_units cut, integer?, cut, Nat.mul_mod_right, if_pos rfl,
      Nat.mul_div_cancel_left _ onePos, Option.some.injEq, Int.cast_inj]
  · constructor
    · intro known
      rw [integer?, if_neg (mt Nat.dvd_of_mod_eq_zero whole)] at known
      cases known
    · intro same
      exact (whole (one_dvd_units_of_exact same)).elim

theorem magnitude_pos_iff {double : Double} :
    (0 : ℚ) < double.units / one ↔ double.units ≠ 0 := by
  rw [div_pos_iff_of_pos_right one_pos, Nat.cast_pos, Nat.pos_iff_ne_zero]

theorem isPositive_iff {double : Double} : double.isPositive = true ↔ 0 < double.exact := by
  have nonneg : (0 : ℚ) ≤ double.units / one := div_nonneg (Nat.cast_nonneg _) one_pos.le
  have posIff := @magnitude_pos_iff double
  rw [isPositive, exact]
  generalize (double.units : ℚ) / one = magnitude at *
  cases double.negative with
  | true => simpa [sign] using nonneg
  | false => simpa [sign] using posIff.symm

theorem isNegative_iff {double : Double} : double.isNegative = true ↔ double.exact < 0 := by
  have nonneg : (0 : ℚ) ≤ double.units / one := div_nonneg (Nat.cast_nonneg _) one_pos.le
  have posIff := @magnitude_pos_iff double
  rw [isNegative, exact]
  generalize (double.units : ℚ) / one = magnitude at *
  cases double.negative with
  | true => simpa [sign] using posIff.symm
  | false => simpa [sign] using nonneg

end Double

namespace Number

/-- The rational number that a number of a document stands for. -/
def exact : Number → ℚ
  | .integer value _ => value
  | .double value => value.exact

variable {number : Number}

theorem toDouble_isNearest (number : Number) : Double.IsNearest number.exact number.toDouble := by
  cases number with
  | integer value fits =>
      have rounded : (Double.ofInt value fits.natAbs_le).units =
          roundedUnits (value.natAbs * Double.one) 1 := rfl
      have nearest := Double.isNearest_of_rounded Nat.one_pos rounded
      have sameValue : Double.sign (Double.ofInt value fits.natAbs_le).negative *
          (((value.natAbs * Double.one : Nat) : ℚ) / ((1 : Nat) * Double.one)) = value := by
        rw [Nat.cast_one, one_mul, Nat.cast_mul, mul_div_cancel_right₀ _ Double.one_pos.ne']
        exact Double.sign_mul_natAbs value
      rwa [sameValue] at nearest
  | double value => exact Double.isNearest_self value

/-- Bounds of less than 53 bits, and their neighbours, are doubles, and so rounding does not
pass them. -/
theorem exact_le_iff {bound : Int} (small : bound.natAbs < 2 ^ 53) :
    number.exact ≤ bound ↔ number.toDouble.exact ≤ bound := by
  have nearest := number.toDouble_isNearest
  cases number with
  | integer value fits =>
      constructor
      · intro below
        obtain ⟨atBound, sameBound⟩ := Double.exists_exact_eq (Nat.le_of_lt small)
        rw [← sameBound] at below ⊢
        exact nearest.exact_le below
      · intro below
        by_contra above
        have next : bound + 1 ≤ value := by
          have := Int.cast_lt.mp (not_le.mp above)
          omega
        obtain ⟨atNext, sameNext⟩ := Double.exists_exact_eq
          (show (bound + 1).natAbs ≤ 2 ^ 53 by omega)
        have passed := nearest.le_exact (sameNext.trans_le (Int.cast_le.mpr next))
        rw [sameNext] at passed
        have := Int.cast_le.mp (passed.trans below)
        omega
  | double value => exact Iff.rfl

theorem le_exact_iff {bound : Int} (small : bound.natAbs < 2 ^ 53) :
    bound ≤ number.exact ↔ bound ≤ number.toDouble.exact := by
  have nearest := number.toDouble_isNearest
  cases number with
  | integer value fits =>
      constructor
      · intro above
        obtain ⟨atBound, sameBound⟩ := Double.exists_exact_eq (Nat.le_of_lt small)
        rw [← sameBound] at above ⊢
        exact nearest.le_exact above
      · intro above
        by_contra below
        have previous : value ≤ bound - 1 := by
          have := Int.cast_lt.mp (not_le.mp below)
          omega
        obtain ⟨atPrevious, samePrevious⟩ := Double.exists_exact_eq
          (show (bound - 1).natAbs ≤ 2 ^ 53 by omega)
        have passed := nearest.exact_le ((Int.cast_le.mpr previous).trans_eq samePrevious.symm)
        rw [samePrevious] at passed
        have := Int.cast_le.mp (above.trans passed)
        omega
  | double value => exact Iff.rfl

/-- An integer is seen as an integer: as itself if it is a double, and otherwise as a double
so large that it has no fractional part. -/
theorem exists_integer_iff :
    (∃ integer : Int, number.exact = integer) ↔
      ∃ integer : Int, number.toDouble.exact = integer := by
  have nearest := number.toDouble_isNearest
  cases number with
  | integer value fits =>
      apply iff_of_true ⟨value, rfl⟩
      by_cases small : value.natAbs ≤ 2 ^ 53
      · obtain ⟨atValue, sameValue⟩ := Double.exists_exact_eq small
        rw [exact, ← sameValue] at nearest
        exact ⟨value, nearest.exact_eq.trans sameValue⟩
      · have limit : ((2 ^ 53 : Nat) : Int).natAbs ≤ 2 ^ 53 := by decide
        apply Double.exists_integer_of_large
        rcases Int.le_total 0 value with nonneg | nonpos
        · obtain ⟨atLimit, sameLimit⟩ := Double.exists_exact_eq limit
          have above : ((2 ^ 53 : Nat) : Int) ≤ value := by omega
          have seen := nearest.le_exact (sameLimit.trans_le (Int.cast_le.mpr above))
          rw [sameLimit, Int.cast_natCast] at seen
          exact seen.trans (le_abs_self _)
        · rw [← Int.natAbs_neg] at limit
          obtain ⟨atLimit, sameLimit⟩ := Double.exists_exact_eq limit
          have below : value ≤ -((2 ^ 53 : Nat) : Int) := by omega
          have seen := nearest.exact_le ((Int.cast_le.mpr below).trans_eq sameLimit.symm)
          rw [sameLimit, Int.cast_neg, Int.cast_natCast] at seen
          exact (le_neg.mpr seen).trans (neg_le_abs _)
  | double value => exact Iff.rfl

end Number

end TypeSchema.Json
