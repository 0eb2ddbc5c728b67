import Mathlib.Data.List.Forall2
import TypeSchema.Json.Value

/-!
# Values that compare as equal

Values are the same if they differ in nothing but the order of the members of objects and the
signs of zeros.
-/

namespace TypeSchema.Json

/-- Doubles of one value; the two zeros have the same value. -/
structure Double.Same (left right : Double) : Prop where
  units : left.units = right.units
  sign : left.negative = right.negative ∨ left.units = 0

/-- Numbers that compare as equal.  An integer is never equal to a double. -/
inductive Number.Same : Number → Number → Prop where
  | integer (value : Int) (fits : FitsWord value) :
      Number.Same (.integer value fits) (.integer value fits)
  | double {left right : Double} : left.Same right → Number.Same (.double left) (.double right)

/-- Values that compare as equal.  Objects are equal if they have the same keys, in whatever
order, with equal values. -/
inductive Same : Json → Json → Prop where
  | null : Same .null .null
  | boolean (value : Bool) : Same (.boolean value) (.boolean value)
  | number {left right : Number} : left.Same right → Same (.number left) (.number right)
  | string (text : String) : Same (.string text) (.string text)
  | array {left right : List Json} :
      List.Forall₂ Same left right → Same (.array left) (.array right)
  | object {left right : List (String × Json)} :
      (∀ key, Option.Rel Same (Entries.get? key left) (Entries.get? key right)) →
      Same (.object left) (.object right)

theorem Double.Same.refl (double : Double) : double.Same double :=
  ⟨rfl, .inl rfl⟩

theorem Number.Same.refl (number : Number) : number.Same number := by
  cases number with
  | integer value fits => exact .integer value fits
  | double value => exact .double (Double.Same.refl value)

mutual

theorem Same.refl (value : Json) : Same value value := by
  cases value with
  | null => exact .null
  | boolean value => exact .boolean value
  | number value => exact .number (Number.Same.refl value)
  | string text => exact .string text
  | array elements => exact .array (Same.refl_elements elements)
  | object members => exact .object (Same.refl_members members)

/-- List counterpart of `Same.refl`. -/
theorem Same.refl_elements (elements : List Json) : List.Forall₂ Same elements elements := by
  cases elements with
  | nil => exact .nil
  | cons element rest => exact .cons (Same.refl element) (Same.refl_elements rest)

/-- Counterpart of `Same.refl` for members. -/
theorem Same.refl_members (members : List (String × Json)) (key : String) :
    Option.Rel Same (Entries.get? key members) (Entries.get? key members) := by
  cases members with
  | nil => exact .none
  | cons member rest =>
      rw [Entries.get?]
      by_cases found : member.1 = key
      · rw [if_pos found]
        exact .some (Same.refl member.2)
      · rw [if_neg found]
        exact Same.refl_members rest key

end

theorem Same.refl_option (value : Option Json) : Option.Rel Same value value := by
  cases value with
  | none => exact .none
  | some value => exact .some (Same.refl value)

theorem same_string_iff {left right : String} :
    Same (.string left) (.string right) ↔ left = right := by
  constructor
  · intro same
    cases same
    rfl
  · rintro rfl
    exact .string left

theorem same_object_iff {left right : List (String × Json)} :
    Same (.object left) (.object right) ↔
      ∀ key, Option.Rel Same (Entries.get? key left) (Entries.get? key right) := by
  constructor
  · intro same
    cases same with
    | object sameMembers => exact sameMembers
  · exact .object

end TypeSchema.Json
