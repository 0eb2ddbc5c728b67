import TypeSchema.Proofs.Command.ExitStatus
import TypeSchema.Proofs.Schema.Elements

/-!
# Arrays checked as a whole and element by element

To check an array against the arrays of some types is to ask for one type to which all
elements conform, and to check its elements against the types is to ask for one of them for
each element.  So the first check succeeds only where the second one does, and with a single
type the two end alike.
-/

namespace TypeSchema.Command

variable {request : CheckRequest} {content : Content} {value : Json} {values : List Json}

/-- A check that gets to its values succeeds if all of them conform, and else ends with one. -/
theorem report_status_of_values {schema : Schema} (contained : content.Contains value)
    (read : Schema.parse .builtIn request.schema = .ok schema)
    (judged : Judged request.each value values) :
    ((request.report content).status = 0 ∨ (request.report content).status = 1) ∧
      ((request.report content).status = 0 ↔
        ∀ item ∈ values, conforms .builtIn request.schema item = .ok true) := by
  rw [report_status_of_judged contained read judged, ← refusals_eq_nil_iff read]
  by_cases noneRefused : refusals request.schema 0 values = []
  · simp [noneRefused]
  · simp [noneRefused]

theorem exists_type_of_builtIn {name : String}
    (builtIn : Registry.builtIn.contains name = true) :
    ∃ type ∈ Catalogue.types, type.name = name := by
  obtain ⟨type, found⟩ := Option.isSome_iff_exists.mp builtIn
  exact ⟨type, Catalogue.get?_builtIn_eq_some_iff.mp found⟩

variable {names : List String}

theorem exists_parse_of_builtIn (builtIn : ∀ name ∈ names, Registry.builtIn.contains name = true) :
    ∀ name ∈ names, ∃ displayName,
      Schema.parse .builtIn name = .ok (.basic name displayName) := by
  intro name listed
  obtain ⟨type, inCatalogue, rfl⟩ := exists_type_of_builtIn (builtIn name listed)
  exact ⟨type.displayName, Schema.parse_builtIn inCatalogue⟩

/-- The text that asks for one of the types. -/
def typesText (names : List String) : String :=
  " | ".intercalate names

/-- The text that asks for the arrays of one of the types. -/
def arraysText (names : List String) : String :=
  " | ".intercalate (names.map (· ++ "[]"))

theorem exists_parse_name (builtIn : ∀ name ∈ names, Registry.builtIn.contains name = true) :
    ∀ text ∈ names, ∃ schema, Schema.parse .builtIn text = .ok schema := by
  intro name listed
  obtain ⟨displayName, read⟩ := exists_parse_of_builtIn builtIn name listed
  exact ⟨_, read⟩

theorem exists_parse_arrayName
    (builtIn : ∀ name ∈ names, Registry.builtIn.contains name = true) :
    ∀ text ∈ names.map (· ++ "[]"), ∃ schema, Schema.parse .builtIn text = .ok schema := by
  intro text spelled
  obtain ⟨name, listed, rfl⟩ := List.mem_map.mp spelled
  obtain ⟨displayName, read⟩ := exists_parse_of_builtIn builtIn name listed
  exact ⟨_, Schema.parse_append_brackets read⟩

section

variable (some : names ≠ [])
  (builtIn : ∀ name ∈ names, Registry.builtIn.contains name = true)
include some builtIn

theorem conforms_typesText_iff :
    conforms .builtIn (typesText names) value = .ok true ↔
      ∃ name ∈ names, conforms .builtIn name value = .ok true := by
  rw [typesText, conforms_intercalate_spaced_iff some,
    and_iff_right (exists_parse_name builtIn)]

/-- An array conforms to the arrays of one of the types if there is one type to which all of
its elements conform. -/
theorem conforms_arraysText_iff {elements : List Json} :
    conforms .builtIn (arraysText names) (.array elements) = .ok true ↔
      ∃ name ∈ names, ∀ element ∈ elements, conforms .builtIn name element = .ok true := by
  have someArrays : names.map (· ++ "[]") ≠ [] := mt List.map_eq_nil_iff.mp some
  rw [arraysText, conforms_intercalate_spaced_iff someArrays,
    and_iff_right (exists_parse_arrayName builtIn)]
  simp only [List.mem_map, exists_exists_and_eq_and]
  apply exists_congr
  intro name
  apply and_congr_right
  intro listed
  obtain ⟨displayName, read⟩ := exists_parse_of_builtIn builtIn name listed
  exact conforms_append_brackets_iff read

variable {elements : List Json} (contained : content.Contains (.array elements))
  (request : CheckRequest)
include contained

/-- The check of the elements against the types. -/
theorem status_of_elements (asked : request.schema = typesText names)
    (each : request.each = true) :
    ((request.report content).status = 0 ∨ (request.report content).status = 1) ∧
      ((request.report content).status = 0 ↔
        ∀ element ∈ elements, ∃ name ∈ names, conforms .builtIn name element = .ok true) := by
  obtain ⟨schema, read⟩ : ∃ schema, Schema.parse .builtIn request.schema = .ok schema := by
    rw [asked, typesText, Schema.exists_parse_intercalate_spaced_iff some]
    exact exists_parse_name builtIn
  have judged : Judged request.each (.array elements) elements := each ▸ .elements elements
  have status := report_status_of_values contained read judged
  simpa only [asked, conforms_typesText_iff some builtIn] using status

/-- The check of the array as a whole against the arrays of the types. -/
theorem status_of_array (asked : request.schema = arraysText names)
    (whole : request.each = false) :
    ((request.report content).status = 0 ∨ (request.report content).status = 1) ∧
      ((request.report content).status = 0 ↔
        ∃ name ∈ names, ∀ element ∈ elements, conforms .builtIn name element = .ok true) := by
  have someArrays : names.map (· ++ "[]") ≠ [] := mt List.map_eq_nil_iff.mp some
  obtain ⟨schema, read⟩ : ∃ schema, Schema.parse .builtIn request.schema = .ok schema := by
    rw [asked, arraysText, Schema.exists_parse_intercalate_spaced_iff someArrays]
    exact exists_parse_arrayName builtIn
  have judged : Judged request.each (.array elements) [.array elements] := whole ▸ .whole _
  have status := report_status_of_values contained read judged
  simpa only [asked, List.forall_mem_singleton, conforms_arraysText_iff some builtIn] using status

end

/-- A check of an array against the arrays of some built-in types that succeeds is also one
where checking the elements against the types succeeds, and with a single type both end with
one status.  In any registry an array conforms to a type with brackets behind it exactly if
its elements conform to the type. -/
theorem arrays_agree_with_elements :
    (∀ (names : List String) (content : Content) (elements : List Json)
      (whole byElement : CheckRequest), names ≠ [] →
      (∀ name ∈ names, Registry.builtIn.contains name = true) →
      content.Contains (.array elements) →
      let wholeStatus := (Request.run content
        (.check { whole with schema := arraysText names, each := false })).status
      let elementStatus := (Request.run content
        (.check { byElement with schema := typesText names, each := true })).status
      (wholeStatus = 0 → elementStatus = 0) ∧
      (names.length = 1 →
        wholeStatus = elementStatus ∧ (wholeStatus = 0 ∨ wholeStatus = 1))) ∧
    ∀ registry text name displayName elements,
      Schema.parse registry text = .ok (.basic name displayName) →
      (conforms registry (text ++ "[]") (.array elements) = .ok true ↔
        ∀ element ∈ elements, conforms registry text element = .ok true) := by
  constructor
  · intro names content elements whole byElement some builtIn contained wholeStatus elementStatus
    obtain ⟨wholeRange, whole_iff⟩ :
        (wholeStatus = 0 ∨ wholeStatus = 1) ∧ (wholeStatus = 0 ↔ _) :=
      status_of_array some builtIn contained
        { whole with schema := arraysText names, each := false } rfl rfl
    obtain ⟨elementRange, element_iff⟩ :
        (elementStatus = 0 ∨ elementStatus = 1) ∧ (elementStatus = 0 ↔ _) :=
      status_of_elements some builtIn contained
        { byElement with schema := typesText names, each := true } rfl rfl
    constructor
    · intro succeeded
      obtain ⟨name, listed, allConform⟩ := whole_iff.mp succeeded
      exact element_iff.mpr fun element member => ⟨name, listed, allConform element member⟩
    · intro single
      obtain ⟨name, rfl⟩ := List.length_eq_one_iff.mp single
      have sameSuccess : wholeStatus = 0 ↔ elementStatus = 0 := by
        rw [whole_iff, element_iff]
        simp
      refine ⟨?_, wholeRange⟩
      omega
  · intro registry text name displayName elements read
    exact conforms_append_brackets_iff read

/-- Two strings are an array of strings, and each of them is a string or null. -/
theorem arrays_agree_with_elements_strings :
    let request : CheckRequest := ⟨"", .standardInput, false, none, none, none, false⟩
    let content : Content := .ok "[\"a\",\"\"]".toUTF8
    let wholeStatus := (Request.run content
      (.check { request with schema := arraysText ["string", "null"], each := false })).status
    let elementStatus := (Request.run content
      (.check { request with schema := typesText ["string", "null"], each := true })).status
    content.Contains (.array [.string "a", .string ""]) ∧ wholeStatus = 0 ∧
      elementStatus = 0 ∧
      conforms .builtIn "string[]" (.array [.string "a", .string ""]) = .ok true := by
  have isArray : Json.read "[\"a\",\"\"]" = .ok (.array [.string "a", .string ""]) := by rfl
  have succeeded : (Request.run (.ok "[\"a\",\"\"]".toUTF8) (.check
      ⟨arraysText ["string", "null"], .standardInput, false, none, none, none, false⟩)).status =
        0 := by
    decide +kernel
  have read : Schema.parse .builtIn "string" = .ok (.basic "string" "String") := by rfl
  have areStrings : ∀ element ∈ [Json.string "a", .string ""],
      conforms .builtIn "string" element = .ok true := by
    intro element member
    simp only [List.mem_cons, List.not_mem_nil, or_false] at member
    obtain rfl | rfl := member <;> rfl
  intro request content wholeStatus elementStatus
  have contained : content.Contains (.array [.string "a", .string ""]) := ⟨_, rfl, isArray⟩
  have agree := arrays_agree_with_elements.1 ["string", "null"] content
    [.string "a", .string ""] request request (by simp) (by decide) contained
  have inLibrary := arrays_agree_with_elements.2 .builtIn "string" "string" "String"
    [.string "a", .string ""] read
  exact ⟨contained, succeeded, agree.1 succeeded, inLibrary.mpr areStrings⟩

/-- With two types the converse fails: each element is a string or null, but the array is
neither one of strings nor one of nulls. -/
example :
    let request : CheckRequest := ⟨"", .standardInput, false, none, none, none, false⟩
    let content : Content := .ok "[\"a\",null]".toUTF8
    (Request.run content (.check
      { request with schema := arraysText ["string", "null"], each := false })).status = 1 ∧
    (Request.run content (.check
      { request with schema := typesText ["string", "null"], each := true })).status = 0 := by
  decide +kernel

end TypeSchema.Command
