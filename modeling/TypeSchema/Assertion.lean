import TypeSchema.Assertion.ErrorInfo
import TypeSchema.Schema.Compiled
import TypeSchema.Schema.Text

/-!
# Asking and asserting

A value is held against a schema text or against a schema that has been read before.  To ask
gives a truth value, to assert gives a failure in the place of a negative answer.  A wrong
schema is an error in both cases and never an answer.

A failure says that a value does not conform to a schema.  It has a message, perhaps a code,
the display name of the schema, and the caller's further fields.  Of those the three keys
that the failure itself uses are removed, one after the other, the last field moving into
the free place each time.
-/

namespace TypeSchema

/-- The report that a value does not conform. -/
structure Failure where
  message : String
  code : Option ErrorCode
  schemaName : String
  extra : List (String × Json)

/-- The message of a failure for which the caller gives none.  A value without a name, or
with an empty one, is called just that. -/
def standardMessage (valueName : Option String) (schemaName : String) : String :=
  let subject := match valueName with
    | some name => if name = "" then "Value" else name
    | none => "Value"
  subject ++ " must be of type: " ++ schemaName

namespace Failure

/-- The keys that a failure uses itself, in the order in which they are removed. -/
def reserved : List String := ["message", "code", "schemaName"]

/-- The caller's fields without the keys that a failure uses itself. -/
def withoutReserved (fields : List (String × Json)) : List (String × Json) :=
  reserved.foldl (fun remaining key => Json.Entries.swapRemove key remaining) fields

/-- The failure of a value to conform to a schema of the given name. -/
def of (schemaName : String) (info : ErrorInfo) : Failure where
  message := info.message.getD (standardMessage info.name schemaName)
  code := info.code
  schemaName := schemaName
  extra := withoutReserved (info.otherInfo.getD .empty).entries

/-- The caller's code as a text, or the general one. -/
def label (failure : Failure) : String :=
  match failure.code with
  | some code => code.display
  | none => "VALIDATION_ERROR"

/-- The value of one of the caller's further fields. -/
def get? (failure : Failure) (key : String) : Option Json :=
  Json.Entries.get? key failure.extra

/-- The members of the JSON form: message, code if there is one, name of the schema, and
then the further fields. -/
def members (failure : Failure) : List (String × Json) :=
  [("message", .string failure.message)] ++
    (match failure.code with
      | some code => [("code", code.toJson)]
      | none => []) ++
    [("schemaName", .string failure.schemaName)] ++ failure.extra

def toJson (failure : Failure) : Json :=
  .object failure.members

def exitStatus (_ : Failure) : Nat := 1

end Failure

/-- Why an assertion does not hold. -/
inductive Rejection where
  /-- The schema is wrong. -/
  | schema (error : SchemaError)
  /-- The value does not conform. -/
  | value (failure : Failure)

namespace Rejection

def code : Rejection → String
  | .schema error => error.code
  | .value failure => failure.label

def exitStatus : Rejection → Nat
  | .schema error => error.exitStatus
  | .value failure => failure.exitStatus

end Rejection

/-- Asserts that a value conforms to a schema. -/
def Schema.require (registry : Registry) (schema : Schema) (value : Json)
    (info : ErrorInfo) : Except Rejection Unit :=
  match schema.admits registry value with
  | .error error => .error (.schema error)
  | .ok true => .ok ()
  | .ok false => .error (.value (.of schema.displayName info))

/-- Whether a value conforms to the schema that a text denotes. -/
def conforms (registry : Registry) (text : String) (value : Json) :
    Except SchemaError Bool := do
  (← Schema.parse registry text).admits registry value

/-- Asserts that a value conforms to the schema that a text denotes. -/
def require (registry : Registry) (text : String) (value : Json) (info : ErrorInfo) :
    Except Rejection Unit :=
  match Schema.parse registry text with
  | .error error => .error (.schema error)
  | .ok schema => schema.require registry value info

end TypeSchema
