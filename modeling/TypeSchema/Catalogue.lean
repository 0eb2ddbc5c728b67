import TypeSchema.Registry

/-!
# The built-in types

The built-in leaf types in their order of declaration, and the registry of them.  Types of
numbers judge the double nearest to a number.  An integer is a number without fractional
part, however it is written, and the sized integer types include both their bounds.
-/

namespace TypeSchema

namespace Catalogue

/-- A number whose double passes a test. -/
def numberWith (test : Json.Double → Bool) (value : Json) : Bool :=
  match value.double? with
  | some double => test double
  | none => false

/-- A number whose double has no fractional part and, as an integer, passes a test. -/
def integerWith (test : Int → Bool) : Json → Bool :=
  numberWith fun double =>
    match double.integer? with
    | some integer => test integer
    | none => false

/-- An integer between two bounds, both included. -/
def integerBetween (least greatest : Int) : Json → Bool :=
  integerWith fun integer => least ≤ integer && integer ≤ greatest

def signedInteger (width : Nat) : Json → Bool :=
  integerBetween (-2 ^ (width - 1)) (2 ^ (width - 1) - 1)

def unsignedInteger (width : Nat) : Json → Bool :=
  integerBetween 0 (2 ^ width - 1)

/-- The greatest magnitude up to which every integer is a double. -/
def maxSafeInteger : Int := 2 ^ 53 - 1

def ofKind (kinds : List Json.Kind) (value : Json) : Bool :=
  kinds.contains value.kind

def nonEmptyString (value : Json) : Bool :=
  match value.text? with
  | some text => text ≠ ""
  | none => false

def nonEmptyArray (value : Json) : Bool :=
  match value.elements? with
  | some elements => !elements.isEmpty
  | none => false

def numbers : List LeafType := [
  ⟨"number", "Number", .number, ofKind [.number]⟩,
  ⟨"non_negative_number", "Non-Negative Number", .number,
    numberWith fun double => !double.isNegative⟩,
  ⟨"positive_number", "Positive Number", .number, numberWith Json.Double.isPositive⟩,
  ⟨"negative_number", "Negative Number", .number, numberWith Json.Double.isNegative⟩,
  ⟨"non_positive_number", "Non-Positive Number", .number,
    numberWith fun double => !double.isPositive⟩,
  ⟨"finite_number", "Finite Number", .number, numberWith fun _ => true⟩]

def integers : List LeafType := [
  ⟨"integer", "Integer", .integer, integerWith fun _ => true⟩,
  ⟨"positive_integer", "Positive Integer", .integer, integerWith fun integer => 0 < integer⟩,
  ⟨"non_negative_integer", "Non-Negative Integer", .integer,
    integerWith fun integer => 0 ≤ integer⟩,
  ⟨"negative_integer", "Negative Integer", .integer, integerWith fun integer => integer < 0⟩,
  ⟨"non_positive_integer", "Non-Positive Integer", .integer,
    integerWith fun integer => integer ≤ 0⟩,
  ⟨"8bit_integer", "8-bit Integer", .integer, signedInteger 8⟩,
  ⟨"8bit_unsigned_integer", "8-bit Unsigned Integer", .integer, unsignedInteger 8⟩,
  ⟨"16bit_integer", "16-bit Integer", .integer, signedInteger 16⟩,
  ⟨"16bit_unsigned_integer", "16-bit Unsigned Integer", .integer, unsignedInteger 16⟩,
  ⟨"32bit_integer", "32-bit Integer", .integer, signedInteger 32⟩,
  ⟨"32bit_unsigned_integer", "32-bit Unsigned Integer", .integer, unsignedInteger 32⟩,
  ⟨"safe_integer", "Safe Integer", .integer,
    integerBetween (-maxSafeInteger) maxSafeInteger⟩]

def strings : List LeafType := [
  ⟨"string", "String", .string, ofKind [.string]⟩,
  ⟨"non_empty_string", "Non-Empty String", .string, nonEmptyString⟩]

/-- The types of objects; the plain name takes arrays and null for objects as well. -/
def objects : List LeafType := [
  ⟨"object", "Object", .object, ofKind [.object, .array, .null]⟩,
  ⟨"plain_object", "Plain Object", .object, ofKind [.object]⟩,
  ⟨"non_null_object", "Non-Null Object", .object, ofKind [.object, .array]⟩]

def arrays : List LeafType := [
  ⟨"array", "Array", .array, ofKind [.array]⟩,
  ⟨"non_empty_array", "Non-Empty Array", .array, nonEmptyArray⟩]

def others : List LeafType := [
  ⟨"boolean", "Boolean", .boolean, ofKind [.boolean]⟩,
  ⟨"null", "Null", .other, ofKind [.null]⟩,
  ⟨"nullish", "Nullish", .other, ofKind [.null]⟩,
  ⟨"non_nullish", "Non-Nullish", .other, fun value => !ofKind [.null] value⟩,
  ⟨"any", "Any", .other, fun _ => true⟩]

/-- All built-in types, in the order of declaration. -/
def types : List LeafType :=
  numbers ++ integers ++ strings ++ objects ++ arrays ++ others

end Catalogue

def Registry.builtIn : Registry :=
  .ofList Catalogue.types

end TypeSchema
