import TypeSchema.Proofs.Command.Findings

/-!
# Checking each element of an array

To check the elements of an array is to check every one of them alone.  The failures are
those of the elements that do not conform, in their order.  In JSON the entry about an element
is the only entry of its own check with the place added, and in plain text its line names the
place, the message and the kind of the element.
-/

namespace TypeSchema.Command

/-- The word for the kind of a value. -/
def typeName : Json → String
  | .null => "null"
  | .boolean _ => "boolean"
  | .number _ => "number"
  | .string _ => "string"
  | .array _ => "array"
  | .object _ => "object"

/-- The members of the entry about a value that does not conform. -/
def entryMembers (message : String) (code : Option String) (schemaName : String)
    (value : Json) : List (String × Json) :=
  [("message", .string message)] ++
    (match code with
      | some text => [("code", .string text)]
      | none => []) ++
    [("schemaName", .string schemaName), ("actual", .string (typeName value))]

/-- The line about an element that does not conform. -/
def elementLine (message : String) (value : Json) (place : Nat) : String :=
  "  [" ++ toString place ++ "] " ++ message ++ " (got " ++ typeName value ++ ")\n"

/-- The report of a check that reports in JSON, given the entries about the failures. -/
def entriesReport : List Json → Report
  | [] => .success (Json.object [("valid", .boolean true)]).compact
  | entries =>
      ⟨1, (Json.object [("valid", .boolean false), ("errors", .array entries)]).compact ++ "\n",
        ""⟩

/-- The report of a check that reports in plain text, given the lines about the failures. -/
def linesReport : List String → Report
  | [] => .success "Valid"
  | lines => ⟨1, "", "Validation failed:\n" ++ String.join lines⟩

/-- What the failures of a check say: the text asked for, or the standard message. -/
def CheckRequest.messageFor (request : CheckRequest) (schemaName : String) : String :=
  request.message.getD (standardMessage request.name schemaName)

/-- What a check that judges by a schema says about a value that does not conform. -/
def CheckRequest.entryFor (request : CheckRequest) (schema : Schema) (value : Json) :
    List (String × Json) :=
  entryMembers (request.messageFor schema.displayName) request.code schema.displayName value

variable {request : CheckRequest} {content : Content} {schema : Schema}

theorem kind_name_eq (value : Json) : value.kind.name = typeName value := by
  cases value <;> rfl

theorem entryMembers_distinct (message : String) (code : Option String) (schemaName : String)
    (value : Json) (place : Nat) :
    Json.Entries.Distinct
      (entryMembers message code schemaName value ++ [("index", .natural place)]) := by
  cases code with
  | none => simp [Json.Entries.Distinct, Json.Entries.keys, entryMembers]
  | some text => simp [Json.Entries.Distinct, Json.Entries.keys, entryMembers]

/-- The entry about a value: what kind it is stands behind the members of its failure, which
has no further fields, and the place behind all of them. -/
theorem toJson_findingAt (each : Bool) (failure : Json × Nat) :
    (findingAt schema.displayName request.info failure).toJson each =
      .object (request.entryFor schema failure.1 ++
        if each then [("index", .natural failure.2)] else []) := by
  obtain ⟨text, source, _, valueName, message, code, json⟩ := request
  unfold CheckRequest.entryFor entryMembers
  rw [← kind_name_eq]
  -- Both keys are new, which shows once it is known whether there is a code.
  cases code with
  | none => cases each <;> rfl
  | some codeText => cases each <;> rfl

theorem line_findingAt (failure : Json × Nat) :
    (findingAt schema.displayName request.info failure).line true =
      elementLine (request.messageFor schema.displayName) failure.1 failure.2 := by
  rw [Finding.line, elementLine, if_pos rfl, ← kind_name_eq]
  simp only [← String.append_assoc]
  rfl

theorem report_entries (request : CheckRequest) {value : Json} {values : List Json}
    (asJson : request.json = true) (contained : content.Contains value)
    (read : Schema.parse .builtIn request.schema = .ok schema)
    (judged : Judged request.each value values) :
    request.report content =
      entriesReport ((refusals request.schema 0 values).map fun failure =>
        .object (request.entryFor schema failure.1 ++
          if request.each then [("index", .natural failure.2)] else [])) := by
  rw [CheckRequest.report, run_of_judged contained read judged]
  cases refusals request.schema 0 values with
  | nil =>
      simp only [List.map_nil, asJson]
      rfl
  | cons failure others =>
      simp only [List.map_cons, CheckRequest.reportFindings, asJson, if_true, List.map_map,
        Function.comp_def, toJson_findingAt]
      rfl

theorem report_lines (request : CheckRequest) {values : List Json}
    (asText : request.json = false) (each : request.each = true)
    (contained : content.Contains (.array values))
    (read : Schema.parse .builtIn request.schema = .ok schema) :
    request.report content =
      linesReport ((refusals request.schema 0 values).map fun failure =>
        elementLine (request.messageFor schema.displayName) failure.1 failure.2) := by
  have judged : Judged request.each (.array values) values := each ▸ .elements values
  rw [CheckRequest.report, run_of_judged contained read judged]
  cases refusals request.schema 0 values with
  | nil =>
      simp only [List.map_nil, asText]
      rfl
  | cons failure others =>
      simp only [List.map_cons, CheckRequest.reportFindings, asText, each, List.map_map,
        Function.comp_def, line_findingAt]
      rfl

theorem refusals_single {text : String} {value : Json}
    (isRefused : conforms .builtIn text value = .ok false) :
    refusals text 0 [value] = [(value, 0)] := by
  rw [refusals_cons, if_pos (refused_eq_true_iff.mpr isRefused)]
  rfl

theorem natural_of_lt {place : Nat} (small : place < 2 ^ 64) :
    ∃ fits, Json.natural place = .number (.integer place fits) := by
  refine ⟨Json.FitsWord.of_natCast small, ?_⟩
  unfold Json.natural
  simp only [Nat.mod_eq_of_lt small]

/-- The check of each element of an array reports the elements that do not conform, every one
once and in their order.  What it says about an element is what the check of the element
alone says, with the place added; in plain text there is a line for each. -/
theorem each_is_elementwise (request : CheckRequest) (content : Content) (schema : Schema)
    (values : List Json) (read : Schema.parse .builtIn request.schema = .ok schema)
    (contained : content.Contains (.array values)) :
    ∃ failures : List (Json × Nat),
      (failures.Pairwise fun earlier later => earlier.2 < later.2) ∧
      (∀ value place, (value, place) ∈ failures ↔
        values[place]? = some value ∧
          conforms .builtIn request.schema value = .ok false) ∧
      Request.run content (.check { request with each := true, json := true }) =
        entriesReport (failures.map fun failure =>
          .object (request.entryFor schema failure.1 ++ [("index", .natural failure.2)])) ∧
      Request.run content (.check { request with each := true, json := false }) =
        linesReport (failures.map fun failure =>
          elementLine (request.messageFor schema.displayName) failure.1 failure.2) ∧
      ∀ value place, (value, place) ∈ failures →
        Json.Entries.Distinct
          (request.entryFor schema value ++ [("index", .natural place)]) ∧
        (place < 2 ^ 64 →
          ∃ fits, Json.natural place = .number (.integer place fits)) ∧
        ∀ alone : Content, alone.Contains value →
          Request.run alone (.check { request with each := false, json := true }) =
            entriesReport [.object (request.entryFor schema value)] := by
  refine ⟨refusals request.schema 0 values, ?_, ?_, ?_, ?_, ?_⟩
  · exact refusals_ascending request.schema 0 values
  · intro value place
    exact mem_refusals_iff
  · let asked : CheckRequest := { request with each := true, json := true }
    exact report_entries asked rfl contained read (.elements values)
  · let asked : CheckRequest := { request with each := true, json := false }
    exact report_lines asked rfl rfl contained read
  · intro value place failing
    obtain ⟨-, isRefused⟩ := mem_refusals_iff.mp failing
    refine ⟨entryMembers_distinct _ _ _ _ _, natural_of_lt, ?_⟩
    intro alone aloneContained
    let asked : CheckRequest := { request with each := false, json := true }
    have single : refusals asked.schema 0 [value] = [(value, 0)] := refusals_single isRefused
    have reported := report_entries asked rfl aloneContained read (.whole value)
    rw [single, List.map_singleton, if_neg Bool.false_ne_true, List.append_nil] at reported
    exact reported

/-- Of four elements the second and the last do not conform. -/
theorem each_is_elementwise_mixed :
    let request : CheckRequest :=
      ⟨"string | boolean []", .standardInput, true, some "Item", none, some "E1", true⟩
    let text := "[\"a\",null,[],true]"
    let values := [Json.string "a", .null, .array [], .boolean true]
    let schema := Schema.union [.basic "string" "String", .array "boolean" "Array of Boolean"]
      "String or Array of Boolean"
    Schema.parse .builtIn request.schema = .ok schema ∧
    Json.read text = .ok (.array values) ∧ Json.read "null" = .ok .null ∧
    (∃ failures : List (Json × Nat), (.null, 1) ∈ failures ∧
      Request.run (.ok text.toUTF8) (.check request) =
        entriesReport (failures.map fun failure =>
          .object (request.entryFor schema failure.1 ++ [("index", .natural failure.2)])) ∧
      Request.run (.ok "null".toUTF8) (.check { request with each := false, json := true }) =
        entriesReport [.object (request.entryFor schema .null)]) ∧
    Request.run (.ok text.toUTF8) (.check { request with json := false }) =
      ⟨1, "", "Validation failed:\n" ++
        "  [1] Item must be of type: String or Array of Boolean (got null)\n" ++
        "  [3] Item must be of type: String or Array of Boolean (got boolean)\n"⟩ ∧
    Request.run (.ok "null".toUTF8) (.check { request with each := false, json := true }) =
      ⟨1, "\x7b\"valid\":false,\"errors\":[" ++
        "\x7b\"message\":\"Item must be of type: String or Array of Boolean\"," ++
        "\"code\":\"E1\",\"schemaName\":\"String or Array of Boolean\"," ++
        "\"actual\":\"null\"\x7d]\x7d\n", ""⟩ := by
  have read : Schema.parse .builtIn "string | boolean []" =
      .ok (.union [.basic "string" "String", .array "boolean" "Array of Boolean"]
        "String or Array of Boolean") := by rfl
  have isArray : Json.read "[\"a\",null,[],true]" =
      .ok (.array [.string "a", .null, .array [], .boolean true]) := by rfl
  have isNull : Json.read "null" = .ok .null := by rfl
  have isRefused : conforms .builtIn "string | boolean []" .null = .ok false := by
    rw [conforms_of_parse read]
    rfl
  intro request text values schema
  obtain ⟨failures, -, places, report, -, single⟩ :=
    each_is_elementwise request (.ok text.toUTF8) schema values read ⟨text, rfl, isArray⟩
  have failing : (Json.null, 1) ∈ failures := (places .null 1).mpr ⟨rfl, isRefused⟩
  obtain ⟨-, -, alone⟩ := single .null 1 failing
  have reported := alone (.ok "null".toUTF8) ⟨"null", rfl, isNull⟩
  refine ⟨read, isArray, isNull, ⟨failures, failing, report, reported⟩, ?_, ?_⟩
  · decide +kernel
  · decide +kernel

end TypeSchema.Command
