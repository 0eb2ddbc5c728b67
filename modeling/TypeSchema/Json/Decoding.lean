import TypeSchema.Json.Text
import TypeSchema.Text.Quoted

/-!
# Why a value does not decode

A value that is well formed may still not describe what is expected of it.  The causes are
kept apart from their wording.
-/

namespace TypeSchema.Json

/-- What was expected in the place of a value. -/
inductive Expectation where
  | string
  | map
  | sequence
  | unit
  | stringOrMap
  | errorInfo
deriving DecidableEq, Repr

def Expectation.message : Expectation → String
  | .string => "a string"
  | .map => "a map"
  | .sequence => "a sequence"
  | .unit => "unit"
  | .stringOrMap => "string or map"
  | .errorInfo => "struct ErrorInfo"

/-- The causes for which a value does not decode. -/
inductive DecodeError where
  /-- A value of another kind. -/
  | wrongKind (found : Json) (expected : Expectation)
  /-- An object without a member that it needs. -/
  | missing (key : String)
  /-- An error code that is neither a signed 64-bit integer nor a string. -/
  | noCode
  /-- A name that is none of the names allowed. -/
  | unknownName (name : String) (allowed : List String)
  /-- An object that should have one member only. -/
  | notSingle
  /-- A list in the place of an error description, ending too early. -/
  | tooShort (length : Nat)
  /-- A list in the place of an error description, with too many elements. -/
  | tooLong (length : Nat)

/-- A value as the message about its kind shows it. -/
def found : Json → String
  | .null => "null"
  | .boolean true => "boolean `true`"
  | .boolean false => "boolean `false`"
  | .number (.integer value _) => "integer `" ++ .ofList (integerText value) ++ "`"
  | .number (.double value) => "floating point `" ++ .ofList value.text ++ "`"
  | .string text => "string " ++ TypeSchema.Text.quote text
  | .array _ => "sequence"
  | .object _ => "map"

def DecodeError.message : DecodeError → String
  | .wrongKind value expected =>
      "invalid type: " ++ value.found ++ ", expected " ++ expected.message
  | .missing key => "missing field `" ++ key ++ "`"
  | .noCode => "data did not match any variant of untagged enum ErrorCode"
  | .unknownName name allowed =>
      "unknown variant `" ++ name ++ "`, expected one of " ++
        ", ".intercalate (allowed.map fun other => "`" ++ other ++ "`")
  | .notSingle => "invalid value: map, expected map with a single key"
  | .tooShort length =>
      "invalid length " ++ toString length ++ ", expected struct ErrorInfo with 4 elements"
  | .tooLong length =>
      "invalid length " ++ toString length ++ ", expected fewer elements in array"

/-- A value decoded, or the first cause why it is not. -/
abbrev Decoded (α : Type) := Except DecodeError α

def decodeString : Json → Decoded String
  | .string text => .ok text
  | value => .error (.wrongKind value .string)

/-- Null for none, or else what the decoder makes of the value. -/
def decodeOptional {α : Type} (decode : Json → Decoded α) : Json → Decoded (Option α)
  | .null => .ok none
  | value => (decode value).map some

/-- A value that has to be an object. -/
def decodeFields : Json → Decoded Fields
  | .object members => .ok (.ofEntries members)
  | value => .error (.wrongKind value .map)

end TypeSchema.Json
