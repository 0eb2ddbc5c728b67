import TypeSchema.Proofs.Json.ExactValues
import TypeSchema.Proofs.Outcome
import TypeSchema.Proofs.Registry.LookUp

/-!
# The types of numbers are exact

The built-in types of numbers and integers see a number as the double nearest to it, and all
the same judge by the number itself: none of their bounds is passed when a number is rounded.
-/

namespace TypeSchema

namespace Catalogue

/-- A whole number with a property. -/
def Whole (property : ℚ → Prop) (value : ℚ) : Prop :=
  (∃ integer : Int, value = integer) ∧ property value

/-- The numbers of a two's complement word. -/
def signedRange (width : Nat) (value : ℚ) : Prop :=
  -2 ^ (width - 1) ≤ value ∧ value ≤ 2 ^ (width - 1) - 1

def unsignedRange (width : Nat) (value : ℚ) : Prop :=
  0 ≤ value ∧ value ≤ 2 ^ width - 1

/-- The built-in types of numbers with the exact values that belong to them. -/
def numericMeanings : List (String × (ℚ → Prop)) := [
  ("non_negative_number", fun value => 0 ≤ value),
  ("positive_number", fun value => 0 < value),
  ("negative_number", fun value => value < 0),
  ("non_positive_number", fun value => value ≤ 0),
  ("finite_number", fun _ => True),
  ("integer", Whole fun _ => True),
  ("positive_integer", Whole fun value => 0 < value),
  ("non_negative_integer", Whole fun value => 0 ≤ value),
  ("negative_integer", Whole fun value => value < 0),
  ("non_positive_integer", Whole fun value => value ≤ 0),
  ("8bit_integer", Whole (signedRange 8)),
  ("8bit_unsigned_integer", Whole (unsignedRange 8)),
  ("16bit_integer", Whole (signedRange 16)),
  ("16bit_unsigned_integer", Whole (unsignedRange 16)),
  ("32bit_integer", Whole (signedRange 32)),
  ("32bit_unsigned_integer", Whole (unsignedRange 32)),
  ("safe_integer", Whole fun value => |value| ≤ 2 ^ 53 - 1)]

/-- A test of values sees a number as its double, and so judges by its exact value; it takes
nothing but numbers. -/
structure JudgesExactly (accepts : Json → Bool) (meaning : ℚ → Prop) : Prop where
  sees_double : ∀ number : Json.Number,
    accepts (.number number) = accepts (.number (.double number.toDouble))
  accepts_iff : ∀ number : Json.Number,
    accepts (.number number) = true ↔ meaning number.exact
  rejects_others : ∀ value : Json, (∀ number, value ≠ .number number) → accepts value = false

theorem numberWith_judgesExactly {test : Json.Double → Bool} {meaning : ℚ → Prop}
    (agrees : ∀ number : Json.Number, test number.toDouble = true ↔ meaning number.exact) :
    JudgesExactly (numberWith test) meaning := by
  constructor
  · intro number
    rfl
  · intro number
    exact agrees number
  · intro value other
    cases value with
    | number number => exact (other number rfl).elim
    | null => rfl
    | boolean => rfl
    | string => rfl
    | array => rfl
    | object => rfl

section Signs

variable (number : Json.Number)

theorem nonneg_iff : 0 ≤ number.exact ↔ 0 ≤ number.toDouble.exact := by
  have kept := @Json.Number.le_exact_iff number 0 (by decide)
  rwa [Int.cast_zero] at kept

theorem nonpos_iff : number.exact ≤ 0 ↔ number.toDouble.exact ≤ 0 := by
  have kept := @Json.Number.exact_le_iff number 0 (by decide)
  rwa [Int.cast_zero] at kept

theorem pos_iff : 0 < number.exact ↔ 0 < number.toDouble.exact := by
  rw [← not_le, ← not_le, nonpos_iff]

theorem neg_iff : number.exact < 0 ↔ number.toDouble.exact < 0 := by
  rw [← not_le, ← not_le, nonneg_iff]

end Signs

theorem isPositive_judgesExactly :
    JudgesExactly (numberWith Json.Double.isPositive) fun value => 0 < value := by
  apply numberWith_judgesExactly
  intro number
  exact Json.Double.isPositive_iff.trans (pos_iff number).symm

theorem isNegative_judgesExactly :
    JudgesExactly (numberWith Json.Double.isNegative) fun value => value < 0 := by
  apply numberWith_judgesExactly
  intro number
  exact Json.Double.isNegative_iff.trans (neg_iff number).symm

theorem notNegative_judgesExactly :
    JudgesExactly (numberWith fun double => !double.isNegative) fun value => 0 ≤ value := by
  apply numberWith_judgesExactly
  intro number
  rw [Bool.not_eq_true', ← Bool.not_eq_true, Json.Double.isNegative_iff, not_lt]
  exact (nonneg_iff number).symm

theorem notPositive_judgesExactly :
    JudgesExactly (numberWith fun double => !double.isPositive) fun value => value ≤ 0 := by
  apply numberWith_judgesExactly
  intro number
  rw [Bool.not_eq_true', ← Bool.not_eq_true, Json.Double.isPositive_iff, not_lt]
  exact (nonpos_iff number).symm

section Integers

variable {test : Int → Bool} {property : ℚ → Prop}

theorem integer?_test_iff (tested : ∀ integer, test integer = true ↔ property integer)
    (double : Json.Double) :
    (match double.integer? with
      | some integer => test integer
      | none => false) = true ↔ Whole property double.exact := by
  cases known : double.integer? with
  | some integer =>
      have value := Json.Double.integer?_eq_some_iff.mp known
      rw [value]
      constructor
      · intro passed
        exact ⟨⟨integer, rfl⟩, (tested integer).mp passed⟩
      · intro whole
        exact (tested integer).mpr whole.2
  | none =>
      constructor
      · intro passed
        cases passed
      · intro whole
        obtain ⟨integer, value⟩ := whole.1
        rw [Json.Double.integer?_eq_some_iff.mpr value] at known
        cases known

/-- A test of integers judges by the exact value if rounding keeps what it tests. -/
theorem integerWith_judgesExactly (tested : ∀ integer, test integer = true ↔ property integer)
    (kept : ∀ number : Json.Number, property number.exact ↔ property number.toDouble.exact) :
    JudgesExactly (integerWith test) (Whole property) := by
  apply numberWith_judgesExactly
  intro number
  have seen : Whole property number.exact ↔ Whole property number.toDouble.exact :=
    and_congr Json.Number.exists_integer_iff (kept number)
  exact (integer?_test_iff tested number.toDouble).trans seen.symm

theorem integerBetween_judgesExactly {least greatest : Int}
    (leastSmall : least.natAbs < 2 ^ 53) (greatestSmall : greatest.natAbs < 2 ^ 53)
    (range : ∀ value, property value ↔ (least : ℚ) ≤ value ∧ value ≤ greatest) :
    JudgesExactly (integerBetween least greatest) (Whole property) := by
  apply integerWith_judgesExactly
  · intro integer
    rw [range, Bool.and_eq_true, decide_eq_true_iff, decide_eq_true_iff, Int.cast_le, Int.cast_le]
  · intro number
    rw [range, range]
    exact and_congr (Json.Number.le_exact_iff leastSmall) (Json.Number.exact_le_iff greatestSmall)

end Integers

theorem signedInteger_judgesExactly {width : Nat} (narrow : width ≤ 53) :
    JudgesExactly (signedInteger width) (Whole (signedRange width)) := by
  have positive : (0 : Int) < 2 ^ (width - 1) := Int.pow_pos (by decide)
  have power : (2 : Int) ^ (width - 1) < 2 ^ 53 := by
    apply pow_lt_pow_right₀ (by decide)
    omega
  apply integerBetween_judgesExactly
  · omega
  · omega
  · intro value
    rw [signedRange]
    push_cast
    exact Iff.rfl

theorem unsignedInteger_judgesExactly {width : Nat} (narrow : width ≤ 53) :
    JudgesExactly (unsignedInteger width) (Whole (unsignedRange width)) := by
  have positive : (0 : Int) < 2 ^ width := Int.pow_pos (by decide)
  have power : (2 : Int) ^ width ≤ 2 ^ 53 := pow_le_pow_right₀ (by decide) narrow
  apply integerBetween_judgesExactly
  · decide
  · omega
  · intro value
    rw [unsignedRange]
    push_cast
    exact Iff.rfl

theorem safeInteger_judgesExactly :
    JudgesExactly (integerBetween (-maxSafeInteger) maxSafeInteger)
      (Whole fun value => |value| ≤ 2 ^ 53 - 1) := by
  apply integerBetween_judgesExactly (by decide) (by decide)
  intro value
  rw [abs_le, maxSafeInteger, Int.cast_neg, Int.cast_sub, Int.cast_pow, Int.cast_ofNat,
    Int.cast_one]

/-- The types of numbers after the first, and those of integers, have their meanings in the
order of the catalogue. -/
theorem numericTypes_judgeExactly :
    List.Forall₂ (fun type entry => type.name = entry.1 ∧ JudgesExactly type.accepts entry.2)
      (numbers.tail ++ integers) numericMeanings := by
  refine .cons ⟨rfl, notNegative_judgesExactly⟩ ?_
  refine .cons ⟨rfl, isPositive_judgesExactly⟩ ?_
  refine .cons ⟨rfl, isNegative_judgesExactly⟩ ?_
  refine .cons ⟨rfl, notPositive_judgesExactly⟩ ?_
  refine .cons ⟨rfl, numberWith_judgesExactly fun _ => iff_of_true rfl trivial⟩ ?_
  refine .cons ⟨rfl, integerWith_judgesExactly (by simp) fun _ => Iff.rfl⟩ ?_
  refine .cons ⟨rfl, integerWith_judgesExactly (by simp) pos_iff⟩ ?_
  refine .cons ⟨rfl, integerWith_judgesExactly (by simp) nonneg_iff⟩ ?_
  refine .cons ⟨rfl, integerWith_judgesExactly (by simp) neg_iff⟩ ?_
  refine .cons ⟨rfl, integerWith_judgesExactly (by simp) nonpos_iff⟩ ?_
  refine .cons ⟨rfl, signedInteger_judgesExactly (by decide)⟩ ?_
  refine .cons ⟨rfl, unsignedInteger_judgesExactly (by decide)⟩ ?_
  refine .cons ⟨rfl, signedInteger_judgesExactly (by decide)⟩ ?_
  refine .cons ⟨rfl, unsignedInteger_judgesExactly (by decide)⟩ ?_
  refine .cons ⟨rfl, signedInteger_judgesExactly (by decide)⟩ ?_
  refine .cons ⟨rfl, unsignedInteger_judgesExactly (by decide)⟩ ?_
  exact .cons ⟨rfl, safeInteger_judgesExactly⟩ .nil

/-- Numbers are seen as the doubles nearest to them, and still every type of numbers or
integers takes exactly those numbers whose own value belongs to it, and nothing else. -/
theorem numeric_types_are_exact :
    (∀ number : Json.Number, Json.Double.IsNearest number.exact number.toDouble) ∧
    ∀ entry ∈ numericMeanings, ∃ type, Registry.builtIn.get? entry.1 = some type ∧
      JudgesExactly type.accepts entry.2 := by
  constructor
  · exact Json.Number.toDouble_isNearest
  · intro entry listed
    obtain ⟨type, numeric, named, judges⟩ :=
      List.exists_related_of_mem numericTypes_judgeExactly listed
    have builtIn : type ∈ types := by
      have listedFirst : type ∈ numbers ∨ type ∈ integers :=
        (List.mem_append.mp numeric).imp_left List.mem_of_mem_tail
      simp only [types, List.mem_append, listedFirst, true_or]
    exact ⟨type, named ▸ get?_builtIn builtIn, judges⟩

-- The first integer that is no double is seen as the one before it, which is not safe either.
example : integerBetween (-maxSafeInteger) maxSafeInteger
    (.number (.integer (2 ^ 53 + 1) (by decide))) = false := by
  decide +kernel

end Catalogue

end TypeSchema
