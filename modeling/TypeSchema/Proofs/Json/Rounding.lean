import Mathlib.Data.Nat.Dist
import TypeSchema.Json.Rounding

/-!
# Rounding goes to the nearest magnitude

A magnitude is representable when it is a multiple of its own grain.  A rounded quotient is
as near to the quotient as any representable magnitude, and where another one is equally
near, its significand is even.  Both hold for multiples of one grain by the rule for halves;
magnitudes that are not multiples of the grain at hand lie below the least one that has it.
-/

namespace TypeSchema.Json

/-- The significand of a magnitude. -/
def significand (units : Nat) : Nat :=
  units / 2 ^ grain units

variable {numerator denominator : Nat}

theorem roundQuotient_cases (numerator denominator : Nat) :
    (roundQuotient numerator denominator = numerator / denominator ∧
      2 * (numerator % denominator) ≤ denominator ∧
      (2 * (numerator % denominator) = denominator → numerator / denominator % 2 = 0)) ∨
    (roundQuotient numerator denominator = numerator / denominator + 1 ∧
      denominator ≤ 2 * (numerator % denominator) ∧
      (2 * (numerator % denominator) = denominator → numerator / denominator % 2 = 1)) := by
  unfold roundQuotient
  dsimp only
  split
  · left
    omega
  · right
    omega

/-- A multiple lies well below two neighbouring ones, is one of them, or lies well above. -/
theorem multiple_cases (step below other : Nat) :
    step * other + step ≤ step * below ∨ other = below ∨ other = below + 1 ∨
      step * below + 2 * step ≤ step * other := by
  rcases Nat.lt_trichotomy other below with less | same | greater
  · have := Nat.mul_le_mul_left step (Nat.succ_le_of_lt less)
    rw [Nat.mul_succ] at this
    exact .inl this
  · exact .inr (.inl same)
  · by_cases next : other = below + 1
    · exact .inr (.inr (.inl next))
    · have := Nat.mul_le_mul_left step (show below + 2 ≤ other by omega)
      rw [Nat.mul_add, Nat.mul_comm step 2] at this
      exact .inr (.inr (.inr this))

theorem roundQuotient_nearest (positive : 0 < denominator) (other : Nat) :
    Nat.dist numerator (denominator * roundQuotient numerator denominator) ≤
      Nat.dist numerator (denominator * other) := by
  have division := Nat.div_add_mod numerator denominator
  have excess := Nat.mod_lt numerator positive
  have next : denominator * (numerator / denominator + 1) =
      denominator * (numerator / denominator) + denominator := Nat.mul_succ _ _
  unfold Nat.dist
  rcases roundQuotient_cases numerator denominator with ⟨down, short, -⟩ | ⟨up, long, -⟩
  · rw [down]
    rcases multiple_cases denominator (numerator / denominator) other with
      far | rfl | rfl | far <;> omega
  · rw [up]
    rcases multiple_cases denominator (numerator / denominator) other with
      far | rfl | rfl | far <;> omega

theorem roundQuotient_even_of_tie (positive : 0 < denominator) {other : Nat}
    (different : other ≠ roundQuotient numerator denominator)
    (tie : Nat.dist numerator (denominator * roundQuotient numerator denominator) =
      Nat.dist numerator (denominator * other)) :
    roundQuotient numerator denominator % 2 = 0 := by
  have division := Nat.div_add_mod numerator denominator
  have excess := Nat.mod_lt numerator positive
  have next : denominator * (numerator / denominator + 1) =
      denominator * (numerator / denominator) + denominator := Nat.mul_succ _ _
  unfold Nat.dist at tie
  rcases roundQuotient_cases numerator denominator with ⟨down, short, even⟩ | ⟨up, long, odd⟩
  · rw [down] at different tie ⊢
    rcases multiple_cases denominator (numerator / denominator) other with
      far | rfl | rfl | far <;> omega
  · rw [up] at different tie ⊢
    rcases multiple_cases denominator (numerator / denominator) other with
      far | rfl | rfl | far <;> omega

/-- The step between the multiples of the grain of a quotient. -/
theorem mul_roundedUnits (numerator denominator : Nat) :
    denominator * roundedUnits numerator denominator =
      denominator * 2 ^ grain (numerator / denominator) *
        roundQuotient numerator (denominator * 2 ^ grain (numerator / denominator)) := by
  rw [roundedUnits, Nat.mul_assoc]

theorem grain_le_iff {units bits : Nat} : grain units ≤ bits ↔ units < 2 ^ (bits + 53) := by
  unfold grain
  by_cases empty : units = 0
  · rw [empty, Nat.log2_zero]
    exact iff_of_true (Nat.zero_le _) (Nat.two_pow_pos _)
  · rw [← Nat.log2_lt empty]
    omega

theorem le_grain {units bits : Nat} (lower : 2 ^ (bits + 52) ≤ units) : bits ≤ grain units := by
  have shown : units ≠ 0 := Nat.ne_of_gt (Nat.lt_of_lt_of_le (Nat.two_pow_pos _) lower)
  have := (Nat.le_log2 shown).mpr lower
  unfold grain
  omega

theorem two_pow_le_of_grain_pos {units : Nat} (coarse : 0 < grain units) :
    2 ^ (grain units + 52) ≤ units := by
  have shown : units ≠ 0 := by
    rintro rfl
    simp [grain] at coarse
  apply (Nat.le_log2 shown).mp
  unfold grain at coarse ⊢
  omega

theorem grain_eq {units bits : Nat} (upper : units < 2 ^ (bits + 53))
    (lower : bits = 0 ∨ 2 ^ (bits + 52) ≤ units) : grain units = bits := by
  have notAbove := grain_le_iff.mpr upper
  rcases lower with rfl | lower
  · exact Nat.eq_zero_of_le_zero notAbove
  · exact Nat.le_antisymm notAbove (le_grain lower)

/-- A representable magnitude that is not a multiple of a coarser grain lies below all the
magnitudes that have this grain. -/
theorem lt_of_not_dvd {units bits : Nat} (representable : 2 ^ grain units ∣ units)
    (finer : ¬ 2 ^ bits ∣ units) : units < 2 ^ (bits + 52) := by
  by_contra large
  have notFiner : bits ≤ grain units := le_grain (Nat.le_of_not_lt large)
  exact finer (Nat.dvd_trans (Nat.pow_dvd_pow 2 notFiner) representable)

/-- A magnitude without the grain of the quotient is farther away than the rounded one. -/
theorem dist_roundedUnits_lt (positive : 0 < denominator) {units : Nat}
    (representable : 2 ^ grain units ∣ units)
    (finer : ¬ 2 ^ grain (numerator / denominator) ∣ units) :
    Nat.dist numerator (denominator * roundedUnits numerator denominator) <
      Nat.dist numerator (denominator * units) := by
  have coarse : 0 < grain (numerator / denominator) := by
    by_contra fine
    rw [Nat.eq_zero_of_not_pos fine] at finer
    exact finer (one_dvd units)
  have least := two_pow_le_of_grain_pos coarse
  have below := lt_of_not_dvd representable finer
  rw [mul_roundedUnits]
  generalize grain (numerator / denominator) = bits at *
  have stepPositive : 0 < denominator * 2 ^ bits := Nat.mul_pos positive (Nat.two_pow_pos bits)
  have nearest : Nat.dist numerator
      (denominator * 2 ^ bits * roundQuotient numerator (denominator * 2 ^ bits)) ≤
      Nat.dist numerator (denominator * 2 ^ bits * 2 ^ 52) :=
    roundQuotient_nearest stepPositive (2 ^ 52)
  rw [Nat.mul_assoc denominator _ (2 ^ 52), ← Nat.pow_add] at nearest
  have leastInReach : denominator * 2 ^ (bits + 52) ≤ numerator := by
    rw [Nat.mul_comm]
    exact (Nat.le_div_iff_mul_le positive).mp least
  have unitsBelow : denominator * units < denominator * 2 ^ (bits + 52) :=
    Nat.mul_lt_mul_of_pos_left below positive
  apply Nat.lt_of_le_of_lt nearest
  unfold Nat.dist
  omega

/-- No representable magnitude is nearer to a quotient than the rounded one. -/
theorem roundedUnits_nearest (positive : 0 < denominator) {units : Nat}
    (representable : 2 ^ grain units ∣ units) :
    Nat.dist numerator (denominator * roundedUnits numerator denominator) ≤
      Nat.dist numerator (denominator * units) := by
  by_cases multiple : 2 ^ grain (numerator / denominator) ∣ units
  · obtain ⟨count, rfl⟩ := multiple
    rw [mul_roundedUnits, ← Nat.mul_assoc]
    apply roundQuotient_nearest
    exact Nat.mul_pos positive (Nat.two_pow_pos _)
  · exact Nat.le_of_lt (dist_roundedUnits_lt positive representable multiple)

theorem significand_multiple {bits count : Nat} (upper : count < 2 ^ 53)
    (normal : bits = 0 ∨ 2 ^ 52 ≤ count) : significand (2 ^ bits * count) = count := by
  have sameGrain : grain (2 ^ bits * count) = bits := by
    apply grain_eq
    · rw [Nat.pow_add]
      exact Nat.mul_lt_mul_of_pos_left upper (Nat.two_pow_pos bits)
    · apply normal.imp_right
      intro lower
      rw [Nat.pow_add]
      exact Nat.mul_le_mul_left _ lower
  rw [significand, sameGrain, Nat.mul_div_cancel_left _ (Nat.two_pow_pos bits)]

/-- One bit more than a significand has is carried into the grain. -/
theorem significand_carried (bits : Nat) : significand (2 ^ bits * 2 ^ 53) = 2 ^ 52 := by
  have carried : (2 : Nat) ^ bits * 2 ^ 53 = 2 ^ (bits + 1) * 2 ^ 52 := by
    rw [← Nat.pow_add, ← Nat.pow_add, Nat.add_assoc]
  rw [carried]
  exact significand_multiple (by decide) (.inr (Nat.le_refl _))

/-- A quotient of a coarse grain holds at least half as many grains as a significand can. -/
theorem grain_eq_zero_or_le_div (numerator denominator : Nat) :
    grain (numerator / denominator) = 0 ∨
      2 ^ 52 ≤ numerator / (denominator * 2 ^ grain (numerator / denominator)) := by
  rcases Nat.eq_zero_or_pos (grain (numerator / denominator)) with fine | coarse
  · exact .inl fine
  · right
    rw [← Nat.div_div_eq_div_mul]
    apply (Nat.le_div_iff_mul_le (Nat.two_pow_pos _)).mpr
    rw [← Nat.pow_add, Nat.add_comm]
    exact two_pow_le_of_grain_pos coarse

/-- The significand of a rounded quotient is the rounded number of grains, or, where rounding
carries into one bit more, a power of two. -/
theorem significand_roundedUnits (numerator denominator : Nat) :
    significand (roundedUnits numerator denominator) =
      roundQuotient numerator (denominator * 2 ^ grain (numerator / denominator)) ∨
    significand (roundedUnits numerator denominator) = 2 ^ 52 := by
  have quotientBound := div_lt_two_pow numerator denominator
  have normal := grain_eq_zero_or_le_div numerator denominator
  have roundBound :=
    roundQuotient_le numerator (denominator * 2 ^ grain (numerator / denominator))
  have roundLeast :=
    le_roundQuotient numerator (denominator * 2 ^ grain (numerator / denominator))
  unfold roundedUnits
  dsimp only
  generalize grain (numerator / denominator) = bits at *
  generalize roundQuotient numerator (denominator * 2 ^ bits) = rounded at *
  by_cases carried : rounded = 2 ^ 53
  · right
    rw [carried, significand_carried]
  · left
    apply significand_multiple
    · omega
    · exact normal.imp_right fun least => Nat.le_trans least roundLeast

theorem significand_even_of_tie (positive : 0 < denominator) {units : Nat}
    (representable : 2 ^ grain units ∣ units)
    (different : units ≠ roundedUnits numerator denominator)
    (tie : Nat.dist numerator (denominator * roundedUnits numerator denominator) =
      Nat.dist numerator (denominator * units)) :
    significand (roundedUnits numerator denominator) % 2 = 0 := by
  have multiple : 2 ^ grain (numerator / denominator) ∣ units := by
    by_contra finer
    have farther := dist_roundedUnits_lt positive representable finer
    omega
  rcases significand_roundedUnits numerator denominator with same | carried
  · obtain ⟨count, rfl⟩ := multiple
    rw [mul_roundedUnits, ← Nat.mul_assoc] at tie
    rw [same]
    apply roundQuotient_even_of_tie (Nat.mul_pos positive (Nat.two_pow_pos _)) _ tie
    rintro rfl
    exact different rfl
  · rw [carried]
    decide

end TypeSchema.Json
