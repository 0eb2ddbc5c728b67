import TypeSchema.Proofs.Schema.Grammar

/-!
# The canonical form of a schema text

The canonical form of a text has no blanks around its terms and none before their brackets.
It is read as the text is, it is what the schema of the text is written as, and writing it
again changes nothing.  So the schemas of two texts are equal if and only if the texts have
one canonical form.
-/

namespace TypeSchema

namespace Schema

/-- A term without the blanks before its brackets. -/
def canonicalTerm (term : List Char) : List Char :=
  match Text.beforeBrackets? term with
  | some front => Text.trim front ++ ['[', ']']
  | none => term

/-- A text without the blanks that do not belong to a name. -/
def canonical (text : String) : String :=
  .ofList ([bar].intercalate ((parts text).map canonicalTerm))

mutual

/-- The text that a schema is written as. -/
def render : Schema → String
  | .basic type _ => type
  | .array elementType _ => elementType ++ "[]"
  | .union members _ => "|".intercalate (renderAll members)

/-- The texts that schemas are written as, in turn. -/
def renderAll : List Schema → List String
  | [] => []
  | schema :: rest => render schema :: renderAll rest

end

@[simp]
theorem renderAll_eq_map (schemas : List Schema) : renderAll schemas = schemas.map render := by
  induction schemas with
  | nil => rfl
  | cons schema rest ih => rw [renderAll, ih, List.map_cons]

variable {registry : Registry}

theorem canonicalTerm_array (front : List Char) :
    canonicalTerm (front ++ ['[', ']']) = Text.trim front ++ ['[', ']'] := by
  rw [canonicalTerm, Text.beforeBrackets?_eq_some_iff.mpr rfl]

theorem canonicalTerm_basic {term : List Char} (noBrackets : ¬ ['[', ']'] <:+ term) :
    canonicalTerm term = term := by
  rw [canonicalTerm, Text.beforeBrackets?_eq_none_iff.mpr noBrackets]

theorem canonicalTerm_idempotent (term : List Char) :
    canonicalTerm (canonicalTerm term) = canonicalTerm term := by
  by_cases brackets : ['[', ']'] <:+ term
  · obtain ⟨front, rfl⟩ := brackets
    rw [canonicalTerm_array, canonicalTerm_array, Text.trim_trim]
  · rw [canonicalTerm_basic brackets, canonicalTerm_basic brackets]

theorem trimmed_canonicalTerm {term : List Char} (trimmed : Text.Trimmed term) :
    Text.Trimmed (canonicalTerm term) := by
  by_cases brackets : ['[', ']'] <:+ term
  · obtain ⟨front, rfl⟩ := brackets
    rw [canonicalTerm_array]
    constructor
    · intro first head
      cases shown : Text.trim front with
      | nil =>
          obtain rfl : '[' = first := by simpa [shown] using head
          decide
      | cons c rest =>
          apply (Text.trimmed_trim front).front first
          simpa [shown] using head
    · intro last final
      obtain rfl : ']' = last := by simpa using final
      decide
  · rwa [canonicalTerm_basic brackets]

theorem isEmpty_canonicalTerm (term : List Char) :
    (canonicalTerm term).isEmpty = term.isEmpty := by
  by_cases brackets : ['[', ']'] <:+ term
  · obtain ⟨front, rfl⟩ := brackets
    rw [canonicalTerm_array]
    cases Text.trim front <;> cases front <;> rfl
  · rw [canonicalTerm_basic brackets]

theorem bar_not_mem_canonicalTerm {term : List Char} (noBar : bar ∉ term) :
    bar ∉ canonicalTerm term := by
  by_cases brackets : ['[', ']'] <:+ term
  · obtain ⟨front, rfl⟩ := brackets
    rw [canonicalTerm_array]
    intro member
    apply noBar
    apply List.mem_append.mpr
    cases List.mem_append.mp member with
    | inl inName => exact .inl (Text.mem_of_mem_trim inName)
    | inr inBrackets => exact .inr inBrackets
  · rwa [canonicalTerm_basic brackets]

theorem readTerm_canonicalTerm (term : List Char) :
    readTerm registry (canonicalTerm term) = readTerm registry term := by
  by_cases brackets : ['[', ']'] <:+ term
  · obtain ⟨front, rfl⟩ := brackets
    rw [canonicalTerm_array, readTerm_array, readTerm_array, Text.trim_trim]
  · rw [canonicalTerm_basic brackets]

theorem render_of_readTerm {term : List Char} {schema : Schema}
    (read : readTerm registry term = .ok schema) :
    schema.render = .ofList (canonicalTerm term) := by
  by_cases brackets : ['[', ']'] <:+ term
  · obtain ⟨front, rfl⟩ := brackets
    rw [readTerm_array, Except.map_eq_ok_iff] at read
    obtain ⟨displayName, -, rfl⟩ := read
    rw [canonicalTerm_array, render, String.ofList_append]
  · rw [readTerm_basic brackets, Except.map_eq_ok_iff] at read
    obtain ⟨displayName, -, rfl⟩ := read
    rw [canonicalTerm_basic brackets, render]

/-- The terms of the canonical form are those of the text, without the blanks before their
brackets. -/
theorem parts_canonical (text : String) :
    parts (canonical text) = (parts text).map canonicalTerm := by
  have noBars : ∀ term ∈ (parts text).map canonicalTerm, bar ∉ term := by
    intro term member
    obtain ⟨part, inParts, rfl⟩ := List.mem_map.mp member
    exact bar_not_mem_canonicalTerm (bar_not_mem_of_mem_parts inParts)
  have someTerms : (parts text).map canonicalTerm ≠ [] := by
    simpa using parts_ne_nil text
  have cut : Text.segments bar (canonical text).toList = (parts text).map canonicalTerm := by
    rw [canonical, String.toList_ofList, Text.segments_eq_splitOn]
    exact List.splitOn_intercalate bar noBars someTerms
  rw [parts, cut, List.map_map]
  apply List.map_congr_left
  intro part member
  exact Text.trim_of_trimmed (trimmed_canonicalTerm (trimmed_of_mem_parts member))

theorem bar_mem_canonical_iff {text : String} :
    bar ∈ (canonical text).toList ↔ bar ∈ text.toList := by
  rw [← two_le_length_parts_iff, parts_canonical, List.length_map, two_le_length_parts_iff]

theorem canonical_canonical (text : String) : canonical (canonical text) = canonical text := by
  rw [canonical, parts_canonical, List.map_map, canonical]
  congr 2
  apply List.map_congr_left
  intro part _
  exact canonicalTerm_idempotent part

theorem readMembers_canonicalTerm (whole other : String) (position : Nat)
    (terms : List (List Char)) :
    (readMembers registry other position (terms.map canonicalTerm)).mapError
        SchemaError.innermost =
      (readMembers registry whole position terms).mapError SchemaError.innermost := by
  induction terms generalizing position with
  | nil => rfl
  | cons term rest ih =>
      rw [List.map_cons, readMembers, readMembers, readTerm_canonicalTerm]
      cases readTerm registry term with
      | error cause => rfl
      | ok schema =>
          dsimp only
          rw [Except.mapError_map, Except.mapError_map, ih]

/-- The canonical form is read as the text is, and fails for what the text fails for. -/
theorem parse_canonical (text : String) :
    (parse registry (canonical text)).mapError SchemaError.innermost =
      (parse registry text).mapError SchemaError.innermost := by
  by_cases several : bar ∈ text.toList
  · rw [parse_of_bar several, parse_of_bar (bar_mem_canonical_iff.mpr several),
      parts_canonical, Except.mapError_map, Except.mapError_map,
      readMembers_canonicalTerm (.ofList (Text.trim text.toList))]
  · have singleCanonical := mt bar_mem_canonical_iff.mp several
    have sameTerm : Text.trim (canonical text).toList =
        canonicalTerm (Text.trim text.toList) := by
      simpa [parts_of_no_bar several, parts_of_no_bar singleCanonical]
        using parts_canonical text
    rw [parse_of_no_bar several, parse_of_no_bar singleCanonical, sameTerm,
      readTerm_canonicalTerm, isEmpty_canonicalTerm]

theorem parse_canonical_eq_ok_iff {text : String} {schema : Schema} :
    parse registry (canonical text) = .ok schema ↔ parse registry text = .ok schema := by
  rw [← Except.mapError_eq_ok_iff, parse_canonical, Except.mapError_eq_ok_iff]

theorem render_ofParts (members : List Schema) :
    (ofParts members).render = "|".intercalate (members.map render) := by
  match members with
  | [] => rfl
  | [member] => simp [ofParts]
  | first :: second :: others =>
      rw [← renderAll_eq_map]
      rfl

/-- The schema of a text is written as the canonical form of the text. -/
theorem render_of_parse {text : String} {schema : Schema}
    (read : parse registry text = .ok schema) : schema.render = canonical text := by
  obtain ⟨members, readAll, rfl⟩ := parse_eq_ok_iff.mp read
  have written : members.map render =
      (parts text).map fun part => .ofList (canonicalTerm part) := by
    rw [← List.forall₂_eq_eq_eq, List.forall₂_map_left_iff, List.forall₂_map_right_iff]
    apply List.Forall₂.flip
    apply readAll.imp
    intro part member read
    exact render_of_readTerm read
  rw [render_ofParts, written, canonical]
  apply String.toList_injective
  simp only [String.toList_intercalate, List.map_map, Function.comp_def, String.toList_ofList]
  rfl

/-- Two texts that are read have one schema if and only if they have one canonical form. -/
theorem parse_eq_iff_canonical_eq {left right : String} {leftSchema rightSchema : Schema}
    (leftRead : parse registry left = .ok leftSchema)
    (rightRead : parse registry right = .ok rightSchema) :
    leftSchema = rightSchema ↔ canonical left = canonical right := by
  constructor
  · intro same
    rw [← render_of_parse leftRead, same, render_of_parse rightRead]
  · intro same
    have leftCanonical := parse_canonical_eq_ok_iff.mpr leftRead
    rw [same] at leftCanonical
    have rightCanonical := parse_canonical_eq_ok_iff.mpr rightRead
    exact Except.ok.inj (leftCanonical.symm.trans rightCanonical)

/-- The canonical form of a text is read as the text is, or fails for the same cause in the
end.  It is what the schema is written as, so that a schema that was read can be written and
read again.  It is its own canonical form, and texts that are read have one schema if and
only if they have one canonical form. -/
theorem canonical_form_is_determined_by_schema (registry : Registry) (text : String) :
    ((parse registry (canonical text)).mapError SchemaError.innermost =
      (parse registry text).mapError SchemaError.innermost) ∧
    (∀ schema, parse registry (canonical text) = .ok schema ↔
      parse registry text = .ok schema) ∧
    (∀ schema, parse registry text = .ok schema →
      schema.render = canonical text ∧ parse registry schema.render = .ok schema) ∧
    canonical (canonical text) = canonical text ∧
    (∀ other schema otherSchema, parse registry text = .ok schema →
      parse registry other = .ok otherSchema →
      (schema = otherSchema ↔ canonical text = canonical other)) := by
  refine ⟨parse_canonical text, fun schema => parse_canonical_eq_ok_iff, ?_,
    canonical_canonical text, ?_⟩
  · intro schema read
    have written := render_of_parse read
    refine ⟨written, ?_⟩
    rw [written]
    exact parse_canonical_eq_ok_iff.mpr read
  · intro other schema otherSchema read otherRead
    exact parse_eq_iff_canonical_eq read otherRead

end Schema

end TypeSchema
