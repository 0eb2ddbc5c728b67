/-!
# Rounding to a number of significant bits

Magnitudes are natural numbers of some least unit.  `grain` is the spacing that a magnitude
of 53 significant bits has, and `roundedUnits` rounds a quotient to the nearest multiple of
its grain, a half going to the even neighbour.  Main statement: the rounded magnitude again
has at most 53 significant bits, also where rounding carries into one bit more.
-/

namespace TypeSchema.Json

-- Powers of numbers are the built-in ones in every module, also where a library makes the
-- numbers a monoid with powers of its own.
@[default_instance 10001]
instance (priority := high) natPower : Pow Nat Nat := instPowNat

@[default_instance 10001]
instance (priority := high) intPower : Pow Int Nat := instPowNat

/-- A quotient rounded to the nearest natural number; an exact half goes to the even one. -/
def roundQuotient (numerator denominator : Nat) : Nat :=
  let below := numerator / denominator
  let excess := 2 * (numerator % denominator)
  if excess < denominator ∨ (excess = denominator ∧ below % 2 = 0) then below else below + 1

/-- How many low bits a magnitude of 53 significant bits leaves empty. -/
def grain (units : Nat) : Nat :=
  units.log2 - 52

/-- A quotient rounded to 53 significant bits. -/
def roundedUnits (numerator denominator : Nat) : Nat :=
  let bits := grain (numerator / denominator)
  2 ^ bits * roundQuotient numerator (denominator * 2 ^ bits)

theorem le_roundQuotient (numerator denominator : Nat) :
    numerator / denominator ≤ roundQuotient numerator denominator := by
  unfold roundQuotient
  dsimp only
  split <;> omega

theorem roundQuotient_le (numerator denominator : Nat) :
    roundQuotient numerator denominator ≤ numerator / denominator + 1 := by
  unfold roundQuotient
  dsimp only
  split <;> omega

theorem div_lt_two_pow (numerator denominator : Nat) :
    numerator / (denominator * 2 ^ grain (numerator / denominator)) < 2 ^ 53 := by
  rw [← Nat.div_div_eq_div_mul]
  generalize numerator / denominator = whole
  apply (Nat.div_lt_iff_lt_mul (Nat.two_pow_pos _)).mpr
  rw [← Nat.pow_add]
  apply Nat.lt_of_lt_of_le (Nat.lt_log2_self (n := whole))
  apply Nat.pow_le_pow_right (by decide)
  unfold grain
  omega

/-- A rounded magnitude is a multiple of its own grain. -/
theorem grain_dvd_roundedUnits (numerator denominator : Nat) :
    2 ^ grain (roundedUnits numerator denominator) ∣ roundedUnits numerator denominator := by
  unfold roundedUnits
  dsimp only
  have quotientBound := div_lt_two_pow numerator denominator
  have roundBound :=
    roundQuotient_le numerator (denominator * 2 ^ grain (numerator / denominator))
  generalize grain (numerator / denominator) = bits at *
  generalize roundQuotient numerator (denominator * 2 ^ bits) = significand at *
  by_cases carried : significand = 2 ^ 53
  · subst carried
    rw [← Nat.pow_add]
    apply Nat.pow_dvd_pow
    unfold grain
    rw [Nat.log2_two_pow]
    omega
  · have small : significand < 2 ^ 53 := by omega
    refine Nat.dvd_trans (Nat.pow_dvd_pow 2 ?_) (Nat.dvd_mul_right _ _)
    unfold grain
    by_cases zero : 2 ^ bits * significand = 0
    · rw [zero, Nat.log2_zero]
      omega
    · have total : 2 ^ bits * significand < 2 ^ (bits + 53) := by
        rw [Nat.pow_add]
        exact Nat.mul_lt_mul_of_pos_left small (Nat.two_pow_pos _)
      have := (Nat.log2_lt zero).mpr total
      omega

/-- Rounding never passes a power of two that is at least `2 ^ 53`. -/
theorem roundedUnits_le_two_pow {numerator denominator size : Nat} (wide : 53 ≤ size)
    (bound : numerator / denominator < 2 ^ size) :
    roundedUnits numerator denominator ≤ 2 ^ size := by
  unfold roundedUnits
  dsimp only
  have quotientBound := div_lt_two_pow numerator denominator
  have roundBound :=
    roundQuotient_le numerator (denominator * 2 ^ grain (numerator / denominator))
  have grainBound : grain (numerator / denominator) + 53 ≤ size := by
    unfold grain
    by_cases zero : numerator / denominator = 0
    · rw [zero, Nat.log2_zero]
      omega
    · have := (Nat.log2_lt zero).mpr bound
      omega
  calc 2 ^ grain (numerator / denominator) *
        roundQuotient numerator (denominator * 2 ^ grain (numerator / denominator))
      ≤ 2 ^ grain (numerator / denominator) * 2 ^ 53 :=
        Nat.mul_le_mul_left _ (by omega)
    _ = 2 ^ (grain (numerator / denominator) + 53) := (Nat.pow_add _ _ _).symm
    _ ≤ 2 ^ size := Nat.pow_le_pow_right (by decide) grainBound

end TypeSchema.Json
