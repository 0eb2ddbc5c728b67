import TypeSchema.Cache
import TypeSchema.Catalogue
import TypeSchema.Command.Arguments
import TypeSchema.Json.Reader

/-!
# Checking a value

A check reads a value, reads the schema and holds the value against it, or each element of
an array by itself.  What goes wrong first on that way ends the check.  Otherwise there is a
list of findings, one for each value that does not conform, in the order of the values.  The
schema is read once, so that a wrong one is reported even where there is no value to check,
and then remembered.

The content of a file or of the standard input comes as bytes, which have to be a UTF-8 text.
A run of the program ends with an exit status and with texts for the two output streams.
-/

namespace TypeSchema.Command

/-- What a run of the program leaves behind. -/
structure Report where
  status : Nat
  output : String
  errors : String
deriving DecidableEq, Repr

namespace Report

def success (line : String) : Report :=
  ⟨0, line ++ "\n", ""⟩

end Report

/-- Why the content of a source could not be had. -/
inductive SourceFault where
  /-- There is no such file. -/
  | missing
  /-- The path is that of a directory. -/
  | directory
  /-- The bytes are no UTF-8 text. -/
  | notText
  /-- The system gives another reason. -/
  | other (reason : String)
deriving DecidableEq, Repr

def SourceFault.message : SourceFault → String
  | .missing => "No such file or directory (os error 2)"
  | .directory => "Is a directory (os error 21)"
  | .notText => "stream did not contain valid UTF-8"
  | .other reason => reason

def Source.display : Source → String
  | .standardInput => "stdin"
  | .file path => path

/-- The bytes of a source, or why they could not be had. -/
abbrev Content := Except SourceFault ByteArray

/-- The text of a source. -/
def Content.text (content : Content) : Except SourceFault String :=
  match content with
  | .error fault => .error fault
  | .ok bytes =>
      match String.fromUTF8? bytes with
      | some text => .ok text
      | none => .error .notText

/-- What can end a check before the value is judged. -/
inductive CheckError where
  /-- The source is no text that can be read. -/
  | unreadable (source : Source) (fault : SourceFault)
  /-- The text is not JSON. -/
  | notJson (error : Json.ReadError)
  /-- The schema is wrong. -/
  | schema (error : SchemaError)
  /-- The elements of a value that is no array were to be checked. -/
  | notArray (kind : Json.Kind)

namespace CheckError

def message : CheckError → String
  | .unreadable source fault => "cannot read " ++ source.display ++ ": " ++ fault.message
  | .notJson error => "invalid JSON: " ++ error.message
  | .schema error => error.message
  | .notArray kind => "--each expects a JSON array, got " ++ kind.name

def status : CheckError → Nat
  | .unreadable _ _ => 3
  | .notJson _ => 2
  | .schema error => error.exitStatus
  | .notArray _ => 2

/-- The report of an error, as JSON on the output or as text on the error stream. -/
def report (json : Bool) (error : CheckError) : Report :=
  if json then
    let body := Json.object [("valid", .boolean false), ("error", .string error.message)]
    ⟨error.status, body.compact ++ "\n", ""⟩
  else
    ⟨error.status, "", "Error: " ++ error.message ++ "\n"⟩

end CheckError

/-- A value that does not conform. -/
structure Finding where
  /-- Its place among the values that were checked, counted from zero. -/
  index : Nat
  actual : Json.Kind
  failure : Failure

namespace Finding

/-- The JSON form, with the place if each element was checked by itself. -/
def toJson (each : Bool) (finding : Finding) : Json :=
  let entry :=
    Json.Entries.insert "actual" (.string finding.actual.name) finding.failure.members
  .object (if each then Json.Entries.insert "index" (.natural finding.index) entry else entry)

/-- The line about a finding, with the place if each element was checked by itself. -/
def line (each : Bool) (finding : Finding) : String :=
  "  " ++ (if each then "[" ++ toString finding.index ++ "] " else "") ++
    finding.failure.message ++ " (got " ++ finding.actual.name ++ ")\n"

end Finding

/-- The findings about values in turn, the first of which has the place given.  Every value is
held against the schema of the text, which is fetched each time. -/
def findings (cache : SchemaCache) (text : String) (info : ErrorInfo) (index : Nat) :
    List Json → Except SchemaError (List Finding)
  | [] => .ok []
  | value :: rest =>
      let (outcome, later) := cache.require text value info
      match outcome with
      | .ok () => findings later text info (index + 1) rest
      | .error (.value failure) => do
          let others ← findings later text info (index + 1) rest
          return ⟨index, value.kind, failure⟩ :: others
      | .error (.schema error) => .error error

namespace CheckRequest

/-- How the failures of a check are to be reported. -/
def info (request : CheckRequest) : ErrorInfo where
  name := request.name
  message := request.message
  code := request.code.map .text

/-- The value in the content of the source. -/
def load (request : CheckRequest) (content : Content) : Except CheckError Json :=
  match content.text with
  | .error fault => .error (.unreadable request.source fault)
  | .ok text => (Json.read text).mapError .notJson

/-- The values to check: the elements of an array, or the value itself. -/
def values (request : CheckRequest) (value : Json) : Except CheckError (List Json) :=
  if request.each then
    match value with
    | .array elements => .ok elements
    | other => .error (.notArray other.kind)
  else .ok [value]

def run (request : CheckRequest) (content : Content) : Except CheckError (List Finding) := do
  let value ← request.load content
  let (schema, cache) := (SchemaCache.empty .builtIn).fetch request.schema
  let _ ← schema.mapError .schema
  let values ← request.values value
  (findings cache request.schema request.info 0 values).mapError .schema

/-- The report of findings, of which there is at least one. -/
def reportFindings (request : CheckRequest) (found : List Finding) : Report :=
  if request.json then
    let body := Json.object [
      ("valid", .boolean false),
      ("errors", .array (found.map (Finding.toJson request.each)))]
    ⟨1, body.compact ++ "\n", ""⟩
  else
    ⟨1, "", "Validation failed:\n" ++ String.join (found.map (Finding.line request.each))⟩

def report (request : CheckRequest) (content : Content) : Report :=
  match request.run content with
  | .error error => error.report request.json
  | .ok [] =>
      .success (if request.json then (Json.object [("valid", .boolean true)]).compact
        else "Valid")
  | .ok found => request.reportFindings found

end CheckRequest

end TypeSchema.Command
