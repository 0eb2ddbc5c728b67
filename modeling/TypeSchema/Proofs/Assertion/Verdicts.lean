import TypeSchema.Proofs.Schema.Alternatives
import TypeSchema.Proofs.Schema.RoundTrip

/-!
# One verdict, however it is asked for

To ask and to assert lead to the same verdict: a value conforms, does not conform, or cannot
be judged because the schema is wrong.  How a failure is to be reported only shows in the
failure.  The name that a failure gives is that of the terms of the text, and a schema that
was written and read again judges as the text does.
-/

namespace TypeSchema

namespace Schema

section

variable {registry : Registry} {schema : Schema} {value : Json} {info : ErrorInfo}

theorem require_eq_ok_iff :
    schema.require registry value info = .ok () ↔
      schema.admits registry value = .ok true := by
  unfold require
  cases schema.admits registry value with
  | error error => simp
  | ok answer => cases answer <;> simp

theorem require_eq_schema_iff {error : SchemaError} :
    schema.require registry value info = .error (.schema error) ↔
      schema.admits registry value = .error error := by
  unfold require
  cases schema.admits registry value with
  | error other => simp
  | ok answer => cases answer <;> simp

theorem require_eq_value_iff {failure : Failure} :
    schema.require registry value info = .error (.value failure) ↔
      schema.admits registry value = .ok false ∧
        .of schema.displayName info = failure := by
  unfold require
  cases schema.admits registry value with
  | error error => simp
  | ok answer => cases answer <;> simp

end

/-- The name that reports use for a term, if it names a registered type. -/
def termName? (registry : Registry) (term : List Char) : Option String :=
  match Text.beforeBrackets? term with
  | some front =>
      (registry.displayName? (.ofList (Text.trim front))).map fun name => "Array of " ++ name
  | none => registry.displayName? (.ofList term)

/-- The text consists of terms whose names, joined, are the name. -/
def Named (registry : Registry) (text name : String) : Prop :=
  ∃ names, List.Forall₂ (fun part name => termName? registry part = some name)
    (parts text) names ∧ " or ".intercalate names = name

variable {registry : Registry}

theorem termName?_of_readTerm {term : List Char} {schema : Schema}
    (read : readTerm registry term = .ok schema) :
    termName? registry term = some schema.displayName := by
  by_cases brackets : ['[', ']'] <:+ term
  · obtain ⟨front, rfl⟩ := brackets
    rw [readTerm_array, Except.map_eq_ok_iff] at read
    obtain ⟨displayName, named, rfl⟩ := read
    obtain ⟨-, registered⟩ := displayNameOf_eq_ok_iff.mp named
    rw [termName?, Text.beforeBrackets?_eq_some_iff.mpr rfl]
    simp [registered, Schema.displayName]
  · rw [readTerm_basic brackets, Except.map_eq_ok_iff] at read
    obtain ⟨displayName, named, rfl⟩ := read
    obtain ⟨-, registered⟩ := displayNameOf_eq_ok_iff.mp named
    rw [termName?, Text.beforeBrackets?_eq_none_iff.mpr brackets]
    simp [registered, Schema.displayName]

theorem displayName_ofParts (members : List Schema) :
    (ofParts members).displayName = " or ".intercalate (members.map displayName) := by
  match members with
  | [] => rfl
  | [member] => simp [ofParts]
  | _ :: _ :: _ => rfl

/-- The schema of a text has the name of the text. -/
theorem named_of_parse {text : String} {schema : Schema}
    (read : parse registry text = .ok schema) : Named registry text schema.displayName := by
  obtain ⟨members, readAll, rfl⟩ := parse_eq_ok_iff.mp read
  refine ⟨members.map displayName, ?_, (displayName_ofParts members).symm⟩
  rw [List.forall₂_map_right_iff]
  exact readAll.imp fun _ _ => termName?_of_readTerm

end Schema

variable {registry : Registry} {text : String} {value : Json} {info : ErrorInfo}

/-- A text that is read is answered for every value. -/
theorem exists_answer_of_parse {schema : Schema}
    (read : Schema.parse registry text = .ok schema) (value : Json) :
    ∃ answer, conforms registry text value = .ok answer := by
  obtain ⟨answer, admitted, -⟩ := Schema.admits_of_parse read value
  exact ⟨answer, (conforms_of_parse read).trans admitted⟩

theorem require_of_parse {schema : Schema} (read : Schema.parse registry text = .ok schema) :
    require registry text value info = schema.require registry value info := by
  rw [require, read]

theorem require_eq_ok_iff :
    require registry text value info = .ok () ↔ conforms registry text value = .ok true := by
  cases read : Schema.parse registry text with
  | error error => simp [require, conforms, read, bind, Except.bind]
  | ok schema =>
      rw [require_of_parse read, conforms_of_parse read]
      exact Schema.require_eq_ok_iff

theorem require_eq_schema_iff {error : SchemaError} :
    require registry text value info = .error (.schema error) ↔
      conforms registry text value = .error error := by
  cases read : Schema.parse registry text with
  | error other => simp [require, conforms, read, bind, Except.bind]
  | ok schema =>
      rw [require_of_parse read, conforms_of_parse read]
      exact Schema.require_eq_schema_iff

theorem require_eq_value_iff {failure : Failure} :
    require registry text value info = .error (.value failure) ↔
      conforms registry text value = .ok false ∧
        ∃ schema, Schema.parse registry text = .ok schema ∧
          .of schema.displayName info = failure := by
  cases read : Schema.parse registry text with
  | error error => simp [require, conforms, read, bind, Except.bind]
  | ok schema =>
      rw [require_of_parse read, conforms_of_parse read]
      simpa using Schema.require_eq_value_iff

theorem exists_value_iff :
    (∃ failure, require registry text value info = .error (.value failure)) ↔
      conforms registry text value = .ok false := by
  simp only [require_eq_value_iff]
  constructor
  · intro failed
    obtain ⟨_, answered, _⟩ := failed
    exact answered
  · intro answered
    obtain ⟨schema, read, -⟩ := Except.bind_eq_ok_iff.mp answered
    exact ⟨_, answered, schema, read, rfl⟩

/-- To assert is to ask: an assertion holds, fails for the schema or fails for the value as
the answer is positive, an error or negative.  A failure has the joined names of the terms,
and only its own report depends on how it is to be reported.  The compiled form of the schema,
loaded again, answers and asserts like the text. -/
theorem require_agrees_with_conforms (registry : Registry) (text : String) (value : Json)
    (info : ErrorInfo) :
    (require registry text value info = .ok () ↔
      conforms registry text value = .ok true) ∧
    (∀ error, require registry text value info = .error (.schema error) ↔
      conforms registry text value = .error error) ∧
    ((∃ failure, require registry text value info = .error (.value failure)) ↔
      conforms registry text value = .ok false) ∧
    (∀ failure, require registry text value info = .error (.value failure) →
      Schema.Named registry text failure.schemaName ∧
        failure = .of failure.schemaName info) ∧
    (∀ schema, Schema.parse registry text = .ok schema →
      ∃ loaded, Schema.ofJson schema.toJson = .ok loaded ∧
        loaded.admits registry value = conforms registry text value ∧
        loaded.require registry value info = require registry text value info) ∧
    (∀ other : ErrorInfo,
      (require registry text value other = .ok () ↔
        require registry text value info = .ok ()) ∧
      (∀ error, require registry text value other = .error (.schema error) ↔
        require registry text value info = .error (.schema error)) ∧
      ((∃ failure, require registry text value other = .error (.value failure)) ↔
        ∃ failure, require registry text value info = .error (.value failure))) := by
  refine ⟨require_eq_ok_iff, fun error => require_eq_schema_iff, exists_value_iff, ?_, ?_, ?_⟩
  · intro failure failed
    obtain ⟨-, schema, read, rfl⟩ := require_eq_value_iff.mp failed
    exact ⟨Schema.named_of_parse read, rfl⟩
  · intro schema read
    refine ⟨schema, Schema.ofJson_toJson schema, ?_, ?_⟩
    · exact (conforms_of_parse read).symm
    · exact (require_of_parse read).symm
  · intro other
    simp only [require_eq_ok_iff, require_eq_schema_iff, exists_value_iff, implies_true,
      and_self]

end TypeSchema
