import TypeSchema.Json.Decoding

/-!
# How a failure is to be reported

A caller may name the value, replace the message, attach a code and attach further fields.
Each of the four parts may be missing.  They are read from an object, or from a list of all
four in their order, with null for a part that is missing.
-/

namespace TypeSchema

/-- A code of the caller's: a signed 64-bit integer or a text. -/
inductive ErrorCode where
  | number (value : Int) (fits : -2 ^ 63 ≤ value ∧ value < 2 ^ 63)
  | text (value : String)
deriving DecidableEq, Repr

namespace ErrorCode

def display : ErrorCode → String
  | .number value _ => .ofList (Json.integerText value)
  | .text value => value

theorem fitsWord {value : Int} (fits : -2 ^ 63 ≤ value ∧ value < 2 ^ 63) :
    Json.FitsWord value := by
  unfold Json.FitsWord
  omega

def toJson : ErrorCode → Json
  | .number value fits => .number (.integer value (fitsWord fits))
  | .text value => .string value

def ofJson : Json → Json.Decoded ErrorCode
  | .number (.integer value fits) =>
      if below : value < 2 ^ 63 then .ok (.number value ⟨fits.1, below⟩) else .error .noCode
  | .string value => .ok (.text value)
  | _ => .error .noCode

end ErrorCode

/-- How a failure is to be reported. -/
structure ErrorInfo where
  /-- What the default message calls the value. -/
  name : Option String := none
  /-- A message in the place of the default one. -/
  message : Option String := none
  /-- A code for the failure. -/
  code : Option ErrorCode := none
  /-- Further fields of the failure. -/
  otherInfo : Option Json.Fields := none

namespace ErrorInfo

/-- The JSON form of a part that may be missing. -/
def optionalJson {α : Type} (encode : α → Json) : Option α → Json
  | some part => encode part
  | none => .null

def toJson (info : ErrorInfo) : Json :=
  .object [
    ("name", optionalJson .string info.name),
    ("message", optionalJson .string info.message),
    ("code", optionalJson ErrorCode.toJson info.code),
    ("otherInfo", optionalJson (fun fields => .object fields.entries) info.otherInfo)]

/-- Reads one member of the object form; other keys are ignored. -/
def readMember (info : ErrorInfo) (member : String × Json) : Json.Decoded ErrorInfo :=
  if member.1 = "name" then do
    return { info with name := ← Json.decodeOptional Json.decodeString member.2 }
  else if member.1 = "message" then do
    return { info with message := ← Json.decodeOptional Json.decodeString member.2 }
  else if member.1 = "code" then do
    return { info with code := ← Json.decodeOptional ErrorCode.ofJson member.2 }
  else if member.1 = "otherInfo" then do
    return { info with otherInfo := ← Json.decodeOptional Json.decodeFields member.2 }
  else
    return info

/-- The keys of the object form, in the order of the list form. -/
def keys : List String := ["name", "message", "code", "otherInfo"]

/-- Reads the list form, in which each element stands for the member whose key it meets. -/
def readList (length : Nat) (info : ErrorInfo) :
    List String → List Json → Json.Decoded ErrorInfo
  | [], [] => .ok info
  | [], _ :: _ => .error (.tooLong length)
  | rest@(_ :: _), [] => .error (.tooShort (keys.length - rest.length))
  | key :: rest, element :: others => do
      readList length (← info.readMember (key, element)) rest others

/-- Reads the object form, in the written order, or the list form. -/
def ofJson : Json → Json.Decoded ErrorInfo
  | .object members => (Json.Entries.firsts members).foldlM readMember {}
  | .array elements => readList elements.length {} keys elements
  | value => .error (.wrongKind value .errorInfo)

end ErrorInfo

end TypeSchema
