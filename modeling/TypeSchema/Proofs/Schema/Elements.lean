import TypeSchema.Proofs.Registry.LookUp
import TypeSchema.Proofs.Schema.Alternatives
import TypeSchema.Proofs.Schema.Diagnosis

/-!
# Arrays of a type and their elements

Behind the name of a type a pair of brackets asks for the arrays of that type, whatever blanks
stand around the name.  An array conforms to this exactly if each of its elements conforms to
the name alone.  Spaces around bars make no difference.
-/

namespace TypeSchema

namespace Schema

variable {registry : Registry} {text name displayName : String}

/-- A text that names a type, with brackets behind it, names the arrays of the type. -/
theorem parse_append_brackets (read : parse registry text = .ok (.basic name displayName)) :
    parse registry (text ++ "[]") = .ok (.array name ("Array of " ++ displayName)) := by
  obtain ⟨segments, spelled, denotes⟩ := parse_iff_denotes.mp read
  cases denotes with
  | @single segment _ segmentDenotes =>
      obtain ⟨before, term, after⟩ := segment
      obtain ⟨blankBefore, termDenotes, blankAfter⟩ := segmentDenotes
      dsimp only at blankBefore termDenotes blankAfter
      cases termDenotes with
      | @basic name _ isName noBrackets registered =>
          -- The blanks behind the name are now those before the brackets.
          refine parse_iff_denotes.mpr ⟨[⟨before, .array name after, []⟩], ?_, .single ?_⟩
          · rw [String.toList_append, ← spelled]
            simp [written, Segment.text, Term.text]
          · exact ⟨blankBefore, .array isName blankAfter registered, .nil⟩

theorem name_shape : ∀ type ∈ Catalogue.types,
    type.name.toList ≠ [] ∧ bar ∉ type.name.toList ∧
      Text.trim type.name.toList = type.name.toList ∧
      Text.beforeBrackets? type.name.toList = none := by
  decide

theorem parse_builtIn {type : LeafType} (listed : type ∈ Catalogue.types) :
    parse .builtIn type.name = .ok (.basic type.name type.displayName) := by
  obtain ⟨shown, noBar, trimmed, noBrackets⟩ := name_shape type listed
  have registered : Registry.builtIn.displayName? type.name = some type.displayName :=
    Catalogue.displayName?_builtIn_eq_some_iff.mpr ⟨type, listed, rfl, rfl⟩
  rw [parse_of_no_bar noBar, trimmed, List.isEmpty_eq_false_iff.mpr shown,
    if_neg Bool.false_ne_true, readTerm_basic (Text.beforeBrackets?_eq_none_iff.mp noBrackets),
    displayNameOf_eq_ok_iff.mpr ⟨shown, by rwa [String.ofList_toList]⟩, String.ofList_toList]
  rfl

/-- The terms of texts that are joined by bars with a space on each side. -/
theorem parts_intercalate_spaced {texts : List String} (some : texts ≠ []) :
    parts (" | ".intercalate texts) = texts.flatMap parts := by
  have space : Text.AllBlank [' '] := by
    intro c member
    rw [List.mem_singleton.mp member]
    rfl
  induction texts with
  | nil => exact (some rfl).elim
  | cons text rest ih =>
      by_cases last : rest = []
      · subst last
        simp
      · have cut : (" | ".intercalate (text :: rest)).toList =
            (text.toList ++ [' ']) ++ bar :: ([' '] ++ (" | ".intercalate rest).toList) := by
          have someLists : rest.map String.toList ≠ [] := mt List.map_eq_nil_iff.mp last
          rw [String.toList_intercalate, String.toList_intercalate, List.map_cons,
            List.intercalate_cons_of_ne_nil someLists]
          simp [bar]
        have trimFirst : Text.trim (text.toList ++ [' ']) = Text.trim text.toList := by
          simpa using Text.trim_append_append text.toList .nil space
        have trimRest : Text.trim ([' '] ++ (" | ".intercalate rest).toList) =
            Text.trim (" | ".intercalate rest).toList := by
          simpa using Text.trim_append_append (" | ".intercalate rest).toList space .nil
        rw [parts, cut, Text.segments_append_separator, List.map_append,
          map_trim_segments_congr trimFirst, map_trim_segments_congr trimRest,
          List.flatMap_cons, ← ih last]
        rfl

theorem exists_parse_intercalate_spaced_iff {texts : List String} (some : texts ≠ []) :
    (∃ schema, parse registry (" | ".intercalate texts) = .ok schema) ↔
      ∀ text ∈ texts, ∃ schema, parse registry text = .ok schema := by
  simp only [exists_parse_iff, parts_intercalate_spaced some, List.mem_flatMap]
  constructor
  · intro allRead text listed part inParts
    exact allRead part ⟨text, listed, inParts⟩
  · rintro eachRead part ⟨text, listed, inParts⟩
    exact eachRead text listed part inParts

end Schema

variable {registry : Registry} {value : Json}

/-- A value conforms to texts that are joined by bars with spaces if and only if all of them
are read and the value conforms to one of them. -/
theorem conforms_intercalate_spaced_iff {texts : List String} (some : texts ≠ []) :
    conforms registry (" | ".intercalate texts) value = .ok true ↔
      (∀ text ∈ texts, ∃ schema, Schema.parse registry text = .ok schema) ∧
      ∃ text ∈ texts, conforms registry text value = .ok true := by
  rw [conforms_eq_ok_iff, Schema.parts_intercalate_spaced some, ← Schema.parts_intercalate some,
    ← conforms_eq_ok_iff, conforms_intercalate_eq_ok_iff some]
  simp

/-- An array conforms to the arrays of a type if and only if its elements conform to the
type. -/
theorem conforms_append_brackets_iff {text name displayName : String} {elements : List Json}
    (read : Schema.parse registry text = .ok (.basic name displayName)) :
    conforms registry (text ++ "[]") (.array elements) = .ok true ↔
      ∀ element ∈ elements, conforms registry text element = .ok true := by
  obtain ⟨type, registered, asArray⟩ : ∃ type, registry.get? name = some type ∧
      conforms registry (text ++ "[]") (.array elements) =
        .ok (Schema.allAccepted type (.array elements)) :=
    conforms_of_parse_array (Schema.parse_append_brackets read)
  have alone : ∀ element,
      conforms registry text element = .ok true ↔ type.accepts element = true := by
    intro element
    rw [conforms_of_parse read, Schema.admits_basic registered, Except.ok.injEq]
  rw [asArray, Except.ok.injEq, Schema.allAccepted_eq_true_iff]
  simp [alone]

end TypeSchema
