import TypeSchema.Proofs.Command.Findings

/-!
# The exit status of a check

What goes wrong first decides the status: the source, then its text, then the schema, then
the kind of the value, and at last the values themselves.  Nothing else has a part in it, and
once the schema is read it cannot go wrong any more.
-/

namespace TypeSchema.Command

/-- The status with which a check of a content against a schema text ends. -/
inductive Exits (schema : String) (each : Bool) (content : Content) : Nat → Prop where
  | unreadable :
      (∀ text, ¬ content.Holds text) → Exits schema each content 3
  | notJson {text : String} {fault : Json.ReadError} :
      content.Holds text → Json.read text = .error fault → Exits schema each content 2
  | wrongSchema {value : Json} {error : SchemaError} :
      content.Contains value → Schema.parse .builtIn schema = .error error →
      Exits schema each content 2
  | notArray {value : Json} {known : Schema} :
      content.Contains value → Schema.parse .builtIn schema = .ok known →
      each = true → (∀ elements, value ≠ .array elements) → Exits schema each content 2
  | conforming {value : Json} {known : Schema} {values : List Json} :
      content.Contains value → Schema.parse .builtIn schema = .ok known →
      Judged each value values →
      (∀ item ∈ values, conforms .builtIn schema item = .ok true) →
      Exits schema each content 0
  | refusing {value : Json} {known : Schema} {values : List Json} :
      content.Contains value → Schema.parse .builtIn schema = .ok known →
      Judged each value values →
      ¬ (∀ item ∈ values, conforms .builtIn schema item = .ok true) →
      Exits schema each content 1

variable {request : CheckRequest} {content : Content} {value : Json} {values : List Json}

theorem report_status_of_error {error : CheckError} (failed : request.run content = .error error) :
    (request.report content).status = error.status := by
  rw [CheckRequest.report, failed]
  unfold CheckError.report
  cases request.json <;> rfl

theorem report_status_of_found {found : List Finding}
    (finished : request.run content = .ok found) :
    (request.report content).status = if found = [] then 0 else 1 := by
  rw [CheckRequest.report, finished]
  cases found with
  | nil => rfl
  | cons finding others =>
      rw [if_neg (List.cons_ne_nil finding others)]
      unfold CheckRequest.reportFindings
      cases request.json <;> rfl

theorem values_of_no_array (each : request.each = true)
    (noArray : ∀ elements, value ≠ .array elements) :
    request.values value = .error (.notArray value.kind) := by
  unfold CheckRequest.values
  rw [if_pos each]
  cases value with
  | array elements => exact (noArray elements rfl).elim
  | _ => rfl

/-- Nothing is refused if and only if every value conforms. -/
theorem refusals_eq_nil_iff {text : String} {schema : Schema}
    (read : Schema.parse .builtIn text = .ok schema) :
    refusals text 0 values = [] ↔
      ∀ item ∈ values, conforms .builtIn text item = .ok true := by
  have conforms_of_not_refused : ∀ item, ¬ refused text item = true →
      conforms .builtIn text item = .ok true := by
    intro item notRefused
    obtain ⟨answer, answered⟩ := exists_answer_of_parse read item
    cases answer with
    | true => exact answered
    | false => exact absurd (refused_eq_true_iff.mpr answered) notRefused
  constructor
  · intro noneRefused item member
    apply conforms_of_not_refused
    intro isRefused
    obtain ⟨place, found⟩ := List.mem_iff_getElem?.mp member
    have listed : (item, place) ∈ refusals text 0 values :=
      mem_refusals_iff.mpr ⟨found, refused_eq_true_iff.mp isRefused⟩
    rw [noneRefused] at listed
    cases listed
  · intro allConform
    apply List.eq_nil_iff_forall_not_mem.mpr
    intro entry listed
    obtain ⟨found, isRefused⟩ := mem_refusals_iff.mp listed
    have conforming := allConform entry.1 (List.mem_of_getElem? found)
    rw [isRefused] at conforming
    cases conforming

/-- A check that gets to its values ends with a status that says whether all conform. -/
theorem report_status_of_judged {schema : Schema} (contained : content.Contains value)
    (read : Schema.parse .builtIn request.schema = .ok schema)
    (judged : Judged request.each value values) :
    (request.report content).status =
      if refusals request.schema 0 values = [] then 0 else 1 := by
  have finished := run_of_judged contained read judged
  simp only [report_status_of_found finished, List.map_eq_nil_iff]

/-- A check ends with the status that the first thing to go wrong calls for. -/
theorem report_status_of_exits {status : Nat}
    (exits : Exits request.schema request.each content status) :
    (request.report content).status = status := by
  cases exits with
  | unreadable noText =>
      cases faulty : content.text with
      | ok text => exact (noText text (Content.text_eq_ok_iff.mp faulty)).elim
      | error fault =>
          have failed : request.run content = .error (.unreadable request.source fault) := by
            rw [run_eq, CheckRequest.load, faulty]
            rfl
          exact report_status_of_error failed
  | @notJson text fault held refused =>
      have failed : request.run content = .error (.notJson fault) := by
        rw [run_eq, CheckRequest.load, Content.text_eq_ok_iff.mpr held]
        simp only [refused]
        rfl
      exact report_status_of_error failed
  | @wrongSchema value error contained wrong =>
      have failed : request.run content = .error (.schema error) := by
        rw [run_eq, load_eq_ok_iff.mpr contained, wrong]
        rfl
      exact report_status_of_error failed
  | @notArray value known contained read each noArray =>
      have failed : request.run content = .error (.notArray value.kind) := by
        rw [run_eq, load_eq_ok_iff.mpr contained, read]
        change (request.values value >>= _) = _
        rw [values_of_no_array each noArray]
        rfl
      exact report_status_of_error failed
  | conforming contained read judged allConform =>
      have noneRefused := (refusals_eq_nil_iff read).mpr allConform
      rw [report_status_of_judged contained read judged, if_pos noneRefused]
  | refusing contained read judged notAll =>
      have someRefused := mt (refusals_eq_nil_iff read).mp notAll
      rw [report_status_of_judged contained read judged, if_neg someRefused]

/-- Every check has a status that is called for. -/
theorem exists_exits (schema : String) (each : Bool) (content : Content) :
    ∃ status, Exits schema each content status := by
  by_cases held : ∃ text, content.Holds text
  · obtain ⟨text, held⟩ := held
    cases isValue : Json.read text with
    | error fault => exact ⟨2, .notJson held isValue⟩
    | ok value =>
        have contained : content.Contains value := ⟨text, held, isValue⟩
        cases read : Schema.parse .builtIn schema with
        | error error => exact ⟨2, .wrongSchema contained read⟩
        | ok known =>
            by_cases judged : ∃ values, Judged each value values
            · obtain ⟨values, judged⟩ := judged
              by_cases all : ∀ item ∈ values, conforms .builtIn schema item = .ok true
              · exact ⟨0, .conforming contained read judged all⟩
              · exact ⟨1, .refusing contained read judged all⟩
            · cases each with
              | false => exact (judged ⟨_, .whole value⟩).elim
              | true =>
                  refine ⟨2, .notArray contained read rfl ?_⟩
                  intro elements isArray
                  subst isArray
                  exact judged ⟨_, .elements elements⟩
  · exact ⟨3, .unreadable (not_exists.mp held)⟩

theorem report_status_eq_iff {status : Nat} :
    (request.report content).status = status ↔
      Exits request.schema request.each content status := by
  constructor
  · rintro rfl
    obtain ⟨status, exits⟩ := exists_exits request.schema request.each content
    rw [report_status_of_exits exits]
    exact exits
  · exact report_status_of_exits

/-- The status of a check is the one that the first thing to go wrong calls for.  It depends
on the content, the schema text and on whether each element is judged by itself, and on
nothing else that is asked for.  Once the schema is fetched, the search never ends with an
error of the schema. -/
theorem check_status_precedence (request : CheckRequest) (content : Content) :
    (∀ status, (Request.run content (.check request)).status = status ↔
      Exits request.schema request.each content status) ∧
    (∀ other : CheckRequest, other.schema = request.schema → other.each = request.each →
      (Request.run content (.check other)).status =
        (Request.run content (.check request)).status) ∧
    (∀ known cache, (SchemaCache.empty .builtIn).fetch request.schema = (.ok known, cache) →
      ∀ values, ∃ found,
        findings cache request.schema request.info 0 values = .ok found) := by
  refine ⟨fun status => report_status_eq_iff, ?_, ?_⟩
  · intro other sameSchema sameEach
    have exits := report_status_eq_iff.mp (Eq.refl (request.report content).status)
    rw [← sameSchema, ← sameEach] at exits
    exact report_status_of_exits exits
  · intro known cache fetched values
    have faithful := (SchemaCache.faithful_empty .builtIn).fetch request.schema
    rw [fetched] at faithful
    obtain ⟨read, stillFaithful⟩ := faithful
    exact ⟨_, findings_of_faithful stillFaithful read.symm⟩

end TypeSchema.Command
