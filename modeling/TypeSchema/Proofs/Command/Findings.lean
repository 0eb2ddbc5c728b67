import TypeSchema.Command.Program
import TypeSchema.Proofs.Assertion.Verdicts
import TypeSchema.Proofs.Cache.Transparency

/-!
# What a check finds

The search through the values fetches the schema for every one of them.  Its cache stays
faithful, so every fetch yields the schema that was read before the search, and that schema
never fails.  The search therefore goes through all values and finds the ones that do not
conform, each at its own place.
-/

namespace TypeSchema.Command

variable {text : String} {value : Json} {values : List Json} {info : ErrorInfo}
  {cache : SchemaCache} {schema : Schema} {index : Nat}

/-- Whether the value does not conform to the text. -/
def refused (text : String) (value : Json) : Bool :=
  match conforms .builtIn text value with
  | .ok answer => !answer
  | .error _ => false

theorem refused_eq_true_iff :
    refused text value = true ↔ conforms .builtIn text value = .ok false := by
  unfold refused
  cases conforms .builtIn text value with
  | error error => simp
  | ok answer => simp

/-- The values that do not conform, each with its place; the first value has the place
given. -/
def refusals (text : String) (index : Nat) (values : List Json) : List (Json × Nat) :=
  (values.zipIdx index).filter fun entry => refused text entry.1

theorem refusals_cons :
    refusals text index (value :: values) =
      if refused text value then (value, index) :: refusals text (index + 1) values
      else refusals text (index + 1) values := by
  rw [refusals, List.zipIdx_cons, List.filter_cons]
  rfl

theorem mem_refusals_iff {entry : Json × Nat} :
    entry ∈ refusals text 0 values ↔
      values[entry.2]? = some entry.1 ∧ conforms .builtIn text entry.1 = .ok false := by
  rw [refusals, List.mem_filter, List.mem_zipIdx_iff_getElem?, refused_eq_true_iff]

theorem refusals_ascending (text : String) (index : Nat) (values : List Json) :
    (refusals text index values).Pairwise fun earlier later => earlier.2 < later.2 := by
  have ascending : (values.zipIdx index).Pairwise fun earlier later => earlier.2 < later.2 := by
    rw [← List.pairwise_map (f := Prod.snd) (R := (· < ·)), List.zipIdx_map_snd]
    exact List.pairwise_lt_range'
  exact ascending.sublist List.filter_sublist

/-- The finding about a value at a place, which does not conform to a schema of the name. -/
def findingAt (name : String) (info : ErrorInfo) (entry : Json × Nat) : Finding :=
  ⟨entry.2, entry.1.kind, .of name info⟩

/-- To assert a text that was read is to look whether the value is refused. -/
theorem require_eq_of_parse (read : Schema.parse .builtIn text = .ok schema) :
    require .builtIn text value info =
      if refused text value then .error (.value (.of schema.displayName info)) else .ok () := by
  obtain ⟨answer, answered⟩ := exists_answer_of_parse read value
  rw [refused, answered]
  cases answer with
  | true => exact require_eq_ok_iff.mpr answered
  | false => exact require_eq_value_iff.mpr ⟨answered, schema, read, rfl⟩

/-- A value is held against the schema that was read, whatever the cache remembers. -/
theorem require_of_faithful (faithful : cache.Faithful .builtIn)
    (read : Schema.parse .builtIn text = .ok schema) :
    (cache.require text value info).1 =
      if refused text value then .error (.value (.of schema.displayName info)) else .ok () :=
  (faithful.require text value info).1.trans (require_eq_of_parse read)

/-- One step of the search: a value that does not conform is found, and the search goes on
in either case. -/
theorem findings_cons (faithful : cache.Faithful .builtIn)
    (read : Schema.parse .builtIn text = .ok schema) :
    findings cache text info index (value :: values) =
      (findings (cache.require text value info).2 text info (index + 1) values).map
        fun others =>
          if refused text value then
            findingAt schema.displayName info (value, index) :: others
          else others := by
  have asserted : (cache.require text value info).1 = _ := require_of_faithful faithful read
  rw [findings]
  cases outcome : cache.require text value info with
  | mk assertion later =>
      rw [outcome] at asserted
      by_cases isRefused : refused text value = true
      · rw [if_pos isRefused] at asserted
        subst asserted
        simp only [isRefused, if_true]
        rfl
      · rw [if_neg isRefused] at asserted
        subst asserted
        simp only [isRefused]
        cases findings later text info (index + 1) values <;> rfl

/-- The search finds the values that do not conform, and no schema fails in it. -/
theorem findings_of_faithful (faithful : cache.Faithful .builtIn)
    (read : Schema.parse .builtIn text = .ok schema) :
    findings cache text info index values =
      .ok ((refusals text index values).map (findingAt schema.displayName info)) := by
  -- Every fetch may change the cache; all that the rest of the search needs is that it is
  -- faithful still.
  induction values generalizing cache index with
  | nil => rfl
  | cons value rest ih =>
      have stillFaithful := (faithful.require text value info).2
      rw [findings_cons faithful read, ih stillFaithful, refusals_cons]
      by_cases isRefused : refused text value = true
      · simp [Except.map, isRefused]
      · simp [Except.map, isRefused]

/-- The content is the text, in UTF-8. -/
def Content.Holds (content : Content) (text : String) : Prop :=
  content = .ok text.toUTF8

theorem Content.text_eq_ok_iff {content : Content} {text : String} :
    content.text = .ok text ↔ content.Holds text := by
  unfold Content.Holds
  cases content with
  | error fault => simp [Content.text]
  | ok bytes =>
      simp only [Content.text, Except.ok.injEq]
      constructor
      · intro decoded
        unfold String.fromUTF8? at decoded
        by_cases valid : bytes.IsValidUTF8
        · rw [dif_pos valid] at decoded
          cases decoded
          rfl
        · rw [dif_neg valid] at decoded
          cases decoded
      · rintro rfl
        have valid : text.toUTF8.IsValidUTF8 := text.isValidUTF8
        rw [String.fromUTF8?, dif_pos valid]
        rfl

/-- The content is a text that is read as the value. -/
def Content.Contains (content : Content) (value : Json) : Prop :=
  ∃ text, content.Holds text ∧ Json.read text = .ok value

theorem load_eq_ok_iff {request : CheckRequest} {content : Content} {value : Json} :
    request.load content = .ok value ↔ content.Contains value := by
  unfold CheckRequest.load Content.Contains
  simp only [← Content.text_eq_ok_iff]
  cases content.text with
  | error fault => simp
  | ok text => simp [Except.mapError_eq_ok_iff]

/-- What a check judges: a value as a whole, or the elements of an array. -/
inductive Judged : Bool → Json → List Json → Prop where
  | whole (value : Json) : Judged false value [value]
  | elements (elements : List Json) : Judged true (.array elements) elements

theorem values_eq_ok_iff {request : CheckRequest} :
    request.values value = .ok values ↔ Judged request.each value values := by
  unfold CheckRequest.values
  constructor
  · intro listed
    cases each : request.each with
    | true =>
        rw [each, if_pos rfl] at listed
        cases value with
        | array elements =>
            cases listed
            exact .elements values
        | _ => cases listed
    | false =>
        rw [each, if_neg Bool.false_ne_true] at listed
        cases listed
        exact .whole value
  · intro judged
    generalize request.each = each at judged
    cases judged with
    | whole => rfl
    | elements => rfl

/-- A check without its cache: what it finds are the values that do not conform. -/
theorem run_eq (request : CheckRequest) (content : Content) :
    request.run content = (do
      let value ← request.load content
      let schema ← (Schema.parse .builtIn request.schema).mapError CheckError.schema
      let values ← request.values value
      return (refusals request.schema 0 values).map
        (findingAt schema.displayName request.info)) := by
  have fetched := (SchemaCache.faithful_empty .builtIn).fetch request.schema
  rw [CheckRequest.run]
  cases outcome : (SchemaCache.empty .builtIn).fetch request.schema with
  | mk result cache =>
      rw [outcome] at fetched
      obtain ⟨parsed, faithful⟩ := fetched
      dsimp only at parsed faithful
      rw [parsed]
      cases read : Schema.parse .builtIn request.schema with
      | error error => rfl
      | ok schema =>
          simp only [findings_of_faithful faithful read]
          rfl

theorem run_of_judged {request : CheckRequest} {content : Content}
    (contained : content.Contains value)
    (read : Schema.parse .builtIn request.schema = .ok schema)
    (judged : Judged request.each value values) :
    request.run content =
      .ok ((refusals request.schema 0 values).map
        (findingAt schema.displayName request.info)) := by
  rw [run_eq, load_eq_ok_iff.mpr contained, read]
  change (request.values value >>= fun values => pure ((refusals request.schema 0 values).map
    (findingAt schema.displayName request.info))) = _
  rw [values_eq_ok_iff.mpr judged]
  rfl

end TypeSchema.Command
