import TypeSchema.Proofs.Command.Elementwise
import TypeSchema.Proofs.Command.ExitStatus
import TypeSchema.Proofs.Json.Lines

/-!
# Reports in JSON

A check that reports in JSON puts out one object on one line, whatever texts are reported in
it, and nothing on the error stream.  The object says whether all values conform.  If not, it
holds what the failures hold, and where the check ends before that, the message that the check
in plain text ends with.
-/

namespace TypeSchema

open Json (Entries)

namespace Command

variable {request : CheckRequest} {content : Content} {schema : Schema}

/-- The report is one line with an object of the members on it, and nothing else. -/
structure Report.Speaks (report : Report) (members : List (String × Json)) : Prop where
  noErrors : report.errors = ""
  oneLine : ∃ line : String, report.output = line ++ "\n" ∧ '\n' ∉ line.toList
  holds : Json.read report.output = .ok (.object members)

theorem speaks_compact (status : Nat) {members : List (String × Json)}
    (distinct : (Json.object members).DistinctKeys) (integral : (Json.object members).Integral)
    (shallow : (Json.object members).depth ≤ Json.maxDepth) :
    Report.Speaks ⟨status, (Json.object members).compact ++ "\n", ""⟩ members where
  noErrors := rfl
  oneLine := by
    refine ⟨(Json.object members).compact, rfl, ?_⟩
    rw [Json.compact, String.toList_ofList]
    exact Json.lineFeed_notMem_compactChars _ integral
  holds := Json.read_compact_line distinct integral shallow

/-- The failures of a check, in the order of its values. -/
def CheckRequest.failures (request : CheckRequest) (values : List Json) : List Failure :=
  values.filterMap fun value =>
    match require .builtIn request.schema value request.info with
    | .error (.value failure) => some failure
    | _ => none

theorem failures_eq (read : Schema.parse .builtIn request.schema = .ok schema)
    (values : List Json) (index : Nat) :
    request.failures values =
      (refusals request.schema index values).map fun _ => .of schema.displayName request.info := by
  induction values generalizing index with
  | nil => rfl
  | cons value rest ih =>
      have restFailures := ih (index + 1)
      rw [CheckRequest.failures] at restFailures ⊢
      rw [List.filterMap_cons, restFailures, refusals_cons, require_eq_of_parse read]
      by_cases isRefused : refused request.schema value = true
      · simp [isRefused]
      · simp [isRefused]

/-- The entry holds the message, the code and the schema name of the failure. -/
structure Describes (entry : Json) (failure : Failure) : Prop where
  message : entry.member? "message" = some (.string failure.message)
  code : entry.member? "code" = failure.code.map ErrorCode.toJson
  schemaName : entry.member? "schemaName" = some (.string failure.schemaName)

/-- The entry about a value that does not conform, with its place. -/
def CheckRequest.entryAt (request : CheckRequest) (schema : Schema) (failure : Json × Nat) :
    Json :=
  .object (request.entryFor schema failure.1 ++
    if request.each then [("index", .natural failure.2)] else [])

theorem describes_entryAt (failure : Json × Nat) :
    Describes (request.entryAt schema failure) (.of schema.displayName request.info) := by
  obtain ⟨text, source, each, valueName, message, code, json⟩ := request
  cases code <;> cases each <;> exact ⟨rfl, rfl, rfl⟩

theorem distinctKeys_entryAt (failure : Json × Nat) :
    (request.entryAt schema failure).DistinctKeys := by
  obtain ⟨text, source, each, valueName, message, code, json⟩ := request
  cases code <;> cases each <;>
    simp [CheckRequest.entryAt, CheckRequest.entryFor, entryMembers, Json.natural,
      Json.DistinctKeys, Json.DistinctKeysMembers, Entries.Distinct, Entries.keys]

theorem integral_entryAt (failure : Json × Nat) : (request.entryAt schema failure).Integral := by
  obtain ⟨text, source, each, valueName, message, code, json⟩ := request
  cases code <;> cases each <;>
    simp [CheckRequest.entryAt, CheckRequest.entryFor, entryMembers, Json.natural,
      Json.Integral, Json.IntegralMembers]

theorem depth_entryAt (failure : Json × Nat) : (request.entryAt schema failure).depth = 1 := by
  obtain ⟨text, source, each, valueName, message, code, json⟩ := request
  cases code <;> cases each <;> rfl

/-- The members of the object say how a check that ends with the status has come out, given
what it puts on the error stream in plain text: they describe the failures, or hold the message
of the error. -/
structure Tells (request : CheckRequest) (content : Content) (status : Nat)
    (plainErrors : String) (members : List (String × Json)) : Prop where
  valid : Entries.get? "valid" members = some (.boolean (status = 0))
  errors_iff :
    (∃ first others, Entries.get? "errors" members = some (.array (first :: others))) ↔
      status = 1
  error_iff :
    (∃ message, Entries.get? "error" members = some (.string message)) ↔
      status = 2 ∨ status = 3
  failures : ∀ entries, Entries.get? "errors" members = some (.array entries) →
    ∃ value values, content.Contains value ∧ Judged request.each value values ∧
      List.Forall₂ Describes entries (request.failures values)
  message : ∀ message, Entries.get? "error" members = some (.string message) →
    plainErrors = "Error: " ++ message ++ "\n"

/-- What a check in plain text leaves behind where it ends with the status. -/
structure Report.SpeaksPlainly (report : Report) : Prop where
  output : report.output = if report.status = 0 then "Valid\n" else ""
  errors_iff : report.errors = "" ↔ report.status = 0

theorem CheckError.status_cases (error : CheckError) : error.status = 2 ∨ error.status = 3 := by
  cases error <;> simp [CheckError.status, SchemaError.exitStatus]

theorem speaks_error (error : CheckError) :
    (error.report true).Speaks [("valid", .boolean false), ("error", .string error.message)] := by
  apply speaks_compact
  · simp [Json.DistinctKeys, Json.DistinctKeysMembers, Entries.Distinct, Entries.keys]
  · simp [Json.Integral, Json.IntegralMembers]
  · simp [Json.depth, Json.depthMembers, Json.maxDepth]

theorem tells_error (error : CheckError) :
    Tells request content error.status (error.report false).errors
      [("valid", .boolean false), ("error", .string error.message)] where
  valid := by
    obtain status | status := error.status_cases <;> simp [Entries.get?, status]
  errors_iff := by
    obtain status | status := error.status_cases <;> simp [Entries.get?, status]
  error_iff := by
    simp [Entries.get?, error.status_cases]
  failures := by
    simp [Entries.get?]
  message := by
    rintro message ⟨⟩
    rfl

theorem speaksPlainly_error (error : CheckError) : (error.report false).SpeaksPlainly where
  output := by
    have notZero : error.status ≠ 0 := by
      obtain status | status := error.status_cases <;> simp [status]
    simp [CheckError.report, notZero]
  errors_iff := by
    obtain status | status := error.status_cases <;> simp [CheckError.report, status]

/-- The members of the object that a check leaves behind, given the entries about the
failures. -/
def entriesMembers : List Json → List (String × Json)
  | [] => [("valid", .boolean true)]
  | entries => [("valid", .boolean false), ("errors", .array entries)]

theorem speaks_entries {entries : List Json} (distinct : ∀ entry ∈ entries, entry.DistinctKeys)
    (integral : ∀ entry ∈ entries, entry.Integral) (flat : ∀ entry ∈ entries, entry.depth ≤ 1) :
    (entriesReport entries).Speaks (entriesMembers entries) := by
  cases entries with
  | nil =>
      apply speaks_compact
      · simp [Json.DistinctKeys, Json.DistinctKeysMembers, Entries.Distinct, Entries.keys]
      · simp [Json.Integral, Json.IntegralMembers]
      · simp [Json.depth, Json.depthMembers, Json.maxDepth]
  | cons first others =>
      apply speaks_compact
      · simp [Json.DistinctKeys, Json.DistinctKeysMembers, Entries.Distinct, Entries.keys,
          Json.distinctKeysAll_iff.mpr distinct]
      · simp [Json.Integral, Json.IntegralMembers, Json.integralAll_iff.mpr integral]
      · have shallow := Json.depthAll_le_iff.mpr flat
        simp only [Json.depth, Json.depthMembers, Json.maxDepth]
        omega

theorem tells_entries {value : Json} {values entries : List Json} (plainErrors : String)
    (contained : content.Contains value) (judged : Judged request.each value values)
    (described : List.Forall₂ Describes entries (request.failures values)) :
    Tells request content (entriesReport entries).status plainErrors
      (entriesMembers entries) := by
  cases entries with
  | nil => constructor <;> simp [entriesMembers, entriesReport, Report.success, Entries.get?]
  | cons first others =>
      constructor
      case failures =>
        rintro entries ⟨⟩
        exact ⟨value, values, contained, judged, described⟩
      all_goals simp [entriesMembers, entriesReport, Entries.get?]

theorem speaksPlainly_found {found : List Finding} (asText : request.json = false)
    (finished : request.run content = .ok found) : (request.report content).SpeaksPlainly := by
  rw [CheckRequest.report, finished]
  cases found with
  | nil => constructor <;> simp [Report.success, asText]
  | cons finding others =>
      constructor <;> simp [CheckRequest.reportFindings, asText]

/-- Whether a check reports in JSON has no part in what it finds. -/
theorem run_with_json (request : CheckRequest) (json : Bool) (content : Content) :
    CheckRequest.run { request with json := json } content = request.run content :=
  rfl

theorem status_with_json (request : CheckRequest) (json : Bool) (content : Content) :
    (CheckRequest.report { request with json := json } content).status =
      (request.report content).status := by
  have exits : Exits request.schema request.each content (request.report content).status :=
    report_status_eq_iff.mp rfl
  exact report_status_of_exits exits

theorem exists_judged_of_run {found : List Finding} (finished : request.run content = .ok found) :
    ∃ value schema values, content.Contains value ∧
      Schema.parse .builtIn request.schema = .ok schema ∧ Judged request.each value values := by
  simp only [run_eq, Except.bind_eq_ok_iff, load_eq_ok_iff, Except.mapError_eq_ok_iff,
    values_eq_ok_iff] at finished
  obtain ⟨value, contained, schema, read, values, judged, -⟩ := finished
  exact ⟨value, schema, values, contained, read, judged⟩

theorem describes_entries {values : List Json}
    (read : Schema.parse .builtIn request.schema = .ok schema) :
    List.Forall₂ Describes ((refusals request.schema 0 values).map (request.entryAt schema))
      (request.failures values) := by
  rw [failures_eq read values 0, List.forall₂_map_left_iff, List.forall₂_map_right_iff,
    List.forall₂_same]
  exact fun failure _ => describes_entryAt failure

theorem reports_of_error {error : CheckError} (failed : request.run content = .error error) :
    CheckRequest.report { request with json := true } content = error.report true ∧
      CheckRequest.report { request with json := false } content = error.report false := by
  simp only [CheckRequest.report, run_with_json, failed, and_self]

/-- A check in JSON puts out one object on one line and nothing else.  The object says whether
the status is zero, describes the failures where the status is one, and otherwise holds the
message with which the check in plain text ends.  That check has the same status, and puts
out a single word exactly where it has nothing to complain about. -/
theorem json_report_agrees_with_status (request : CheckRequest) (content : Content) :
    let asJson := Request.run content (.check { request with json := true })
    let asText := Request.run content (.check { request with json := false })
    asJson.status = asText.status ∧ asText.SpeaksPlainly ∧
      ∃ members, asJson.Speaks members ∧
        Tells request content asJson.status asText.errors members := by
  intro asJson asText
  cases outcome : request.run content with
  | error error =>
      obtain ⟨reportedAsJson, reportedAsText⟩ :
          asJson = error.report true ∧ asText = error.report false := reports_of_error outcome
      rw [reportedAsJson, reportedAsText]
      exact ⟨rfl, speaksPlainly_error error, _, speaks_error error, tells_error error⟩
  | ok found =>
      obtain ⟨value, schema, values, contained, read, judged⟩ := exists_judged_of_run outcome
      let entries := (refusals request.schema 0 values).map (request.entryAt schema)
      have reportedAsJson : asJson = entriesReport entries :=
        report_entries { request with json := true } rfl contained read judged
      have sameStatus : asJson.status = asText.status :=
        (status_with_json request true content).trans (status_with_json request false content).symm
      have plainly : asText.SpeaksPlainly :=
        speaksPlainly_found rfl ((run_with_json request false content).trans outcome)
      refine ⟨sameStatus, plainly, entriesMembers entries, ?_, ?_⟩
      · rw [reportedAsJson]
        apply speaks_entries
        all_goals
          intro entry member
          obtain ⟨failure, -, rfl⟩ := List.mem_map.mp member
        · exact distinctKeys_entryAt failure
        · exact integral_entryAt failure
        · exact Nat.le_of_eq (depth_entryAt failure)
      · rw [reportedAsJson]
        exact tells_entries asText.errors contained judged (describes_entries read)

end Command

end TypeSchema
