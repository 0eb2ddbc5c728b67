import TypeSchema.Assertion
import TypeSchema.Proofs.Outcome
import TypeSchema.Proofs.Schema.Grammar

/-!
# Bars mean alternatives

The terms of joined texts are the terms of each in turn, every term that is read names a
registered type, and so a value conforms to joined texts if and only if it conforms to one
of them.  Neither the early end of the search nor an error inside it can be observed on a
schema that was read with the same registry.
-/

namespace TypeSchema

namespace Schema

/-- A basic or array schema whose type is registered. -/
inductive RegisteredLeaf (registry : Registry) : Schema → Prop where
  | basic {name displayName : String} {type : LeafType} :
      registry.get? name = some type → RegisteredLeaf registry (.basic name displayName)
  | array {name displayName : String} {type : LeafType} :
      registry.get? name = some type → RegisteredLeaf registry (.array name displayName)

variable {registry : Registry} {value : Json}

theorem admits_basic {name displayName : String} {type : LeafType}
    (registered : registry.get? name = some type) :
    admits registry value (.basic name displayName) = .ok (type.accepts value) := by
  rw [admits, leafType, registered]
  rfl

theorem admits_array {name displayName : String} {type : LeafType}
    (registered : registry.get? name = some type) :
    admits registry value (.array name displayName) = .ok (allAccepted type value) := by
  rw [admits, leafType, registered]
  rfl

theorem allAccepted_eq_true_iff {type : LeafType} :
    allAccepted type value = true ↔
      ∃ elements, value = .array elements ∧
        ∀ element ∈ elements, type.accepts element = true := by
  cases value <;> simp [allAccepted]

theorem RegisteredLeaf.admits_ok {schema : Schema} (leaf : RegisteredLeaf registry schema) :
    ∃ answer, schema.admits registry value = .ok answer := by
  cases leaf with
  | basic registered => exact ⟨_, admits_basic registered⟩
  | array registered => exact ⟨_, admits_array registered⟩

/-- Where no member fails, the search for a member that admits the value does what
searching all of them would do. -/
theorem anyAdmits_of_all_ok {members : List Schema}
    (allOk : ∀ member ∈ members, ∃ answer, member.admits registry value = .ok answer) :
    ∃ answer, anyAdmits registry value members = .ok answer ∧
      (answer = true ↔ ∃ member ∈ members, member.admits registry value = .ok true) := by
  induction members with
  | nil => exact ⟨false, rfl, by simp⟩
  | cons member rest ih =>
      obtain ⟨first, firstAnswer⟩ := allOk member List.mem_cons_self
      have restOk : ∀ later ∈ rest, ∃ answer, later.admits registry value = .ok answer :=
        fun later inRest => allOk later (List.mem_cons_of_mem _ inRest)
      cases first with
      | true =>
          refine ⟨true, ?_, ?_⟩
          · rw [anyAdmits, firstAnswer]
            rfl
          · simp [firstAnswer]
      | false =>
          obtain ⟨answer, restAnswer, meaning⟩ := ih restOk
          refine ⟨answer, ?_, ?_⟩
          · rw [anyAdmits, firstAnswer]
            exact restAnswer
          · simp [firstAnswer, meaning]

theorem displayName?_eq_some_iff {name displayName : String} :
    registry.displayName? name = some displayName ↔
      ∃ type, registry.get? name = some type ∧ type.displayName = displayName := by
  rw [Registry.displayName?, Option.map_eq_some_iff]

/-- Every term that is read names a registered type. -/
theorem registeredLeaf_of_readTerm {term : List Char} {schema : Schema}
    (success : readTerm registry term = .ok schema) : RegisteredLeaf registry schema := by
  obtain ⟨name, displayName, registered, spelled⟩ := exists_type_of_readTerm success
  obtain ⟨type, found, -⟩ := displayName?_eq_some_iff.mp registered
  cases spelled with
  | inl isBasic => exact isBasic ▸ .basic found
  | inr isArray => exact isArray ▸ .array found

/-- The terms of joined texts are the terms of each of them in turn. -/
theorem parts_intercalate {texts : List String} (some : texts ≠ []) :
    parts ("|".intercalate texts) = texts.flatMap parts := by
  have someLists : texts.map String.toList ≠ [] := by simpa using some
  calc
    parts ("|".intercalate texts)
        = (Text.segments bar ([bar].intercalate (texts.map String.toList))).map Text.trim := by
          rw [parts, String.toList_intercalate]
          rfl
    _ = ((texts.map String.toList).flatMap (Text.segments bar)).map Text.trim := by
          rw [Text.segments_intercalate someLists]
    _ = texts.flatMap parts := by
          rw [List.flatMap_map, List.map_flatMap]
          rfl

/-- A text is read if and only if each of its terms is. -/
theorem exists_parse_iff {text : String} :
    (∃ schema, parse registry text = .ok schema) ↔
      ∀ part ∈ parts text, ∃ member, readTerm registry part = .ok member := by
  rw [← List.exists_forall₂_iff]
  constructor
  · rintro ⟨schema, success⟩
    obtain ⟨members, readAll, -⟩ := parse_eq_ok_iff.mp success
    exact ⟨members, readAll⟩
  · rintro ⟨members, readAll⟩
    exact ⟨ofParts members, parse_eq_ok_iff.mpr ⟨members, readAll, rfl⟩⟩

/-- A value conforms to the schema of a text if and only if it conforms to one of the
terms. -/
theorem admits_of_parse {text : String} {schema : Schema}
    (success : parse registry text = .ok schema) (value : Json) :
    ∃ answer, schema.admits registry value = .ok answer ∧
      (answer = true ↔ ∃ part ∈ parts text, ∃ member,
        readTerm registry part = .ok member ∧ member.admits registry value = .ok true) := by
  obtain ⟨members, readAll, rfl⟩ := parse_eq_ok_iff.mp success
  have allOk : ∀ member ∈ members, ∃ answer, member.admits registry value = .ok answer := by
    intro member inMembers
    have isImage : ∃ image ∈ members, member = image := ⟨member, inMembers, rfl⟩
    obtain ⟨part, -, _, read, rfl⟩ := (List.exists_image_iff readAll).mp isImage
    exact (registeredLeaf_of_readTerm read).admits_ok
  rw [← List.exists_image_iff readAll]
  match members with
  | [member] =>
      obtain ⟨answer, admitted⟩ := allOk member List.mem_cons_self
      exact ⟨answer, admitted, by simp [admitted]⟩
  | [] => simpa [ofParts, ofMembers, admits] using anyAdmits_of_all_ok allOk
  | _ :: _ :: _ => simpa [ofParts, ofMembers, admits] using anyAdmits_of_all_ok allOk

end Schema

variable {registry : Registry} {value : Json}

/-- A text is answered if and only if all its terms are read, and positively if and only if
the value conforms to one of them. -/
theorem conforms_eq_ok_iff {text : String} {answer : Bool} :
    conforms registry text value = .ok answer ↔
      (∀ part ∈ Schema.parts text, ∃ member, Schema.readTerm registry part = .ok member) ∧
      (answer = true ↔ ∃ part ∈ Schema.parts text, ∃ member,
        Schema.readTerm registry part = .ok member ∧
        member.admits registry value = .ok true) := by
  rw [conforms, Except.bind_eq_ok_iff]
  constructor
  · rintro ⟨schema, success, admitted⟩
    obtain ⟨answer', admitted', meaning⟩ := Schema.admits_of_parse success value
    obtain rfl : answer' = answer := Except.ok.inj (admitted'.symm.trans admitted)
    exact ⟨Schema.exists_parse_iff.mp ⟨schema, success⟩, meaning⟩
  · rintro ⟨allRead, meaning⟩
    obtain ⟨schema, success⟩ := Schema.exists_parse_iff.mpr allRead
    obtain ⟨answer', admitted, meaning'⟩ := Schema.admits_of_parse success value
    have same : answer' = answer := Bool.eq_iff_iff.mpr (meaning'.trans meaning.symm)
    exact ⟨schema, success, same ▸ admitted⟩

/-- Joined texts are answered if and only if each is read, and positively if and only if one
of them is. -/
theorem conforms_intercalate_eq_ok_iff {texts : List String} (some : texts ≠ [])
    {answer : Bool} :
    conforms registry ("|".intercalate texts) value = .ok answer ↔
      (∀ text ∈ texts, ∃ schema, Schema.parse registry text = .ok schema) ∧
      (answer = true ↔ ∃ text ∈ texts, conforms registry text value = .ok true) := by
  rw [conforms_eq_ok_iff, Schema.parts_intercalate some]
  have allRead :
      (∀ part ∈ texts.flatMap Schema.parts,
        ∃ member, Schema.readTerm registry part = .ok member) ↔
      ∀ text ∈ texts, ∃ schema, Schema.parse registry text = .ok schema := by
    simp only [Schema.exists_parse_iff]
    constructor
    · intro allRead text inTexts part inParts
      exact allRead part (List.mem_flatMap.mpr ⟨text, inTexts, inParts⟩)
    · intro eachRead part inSome
      obtain ⟨text, inTexts, inParts⟩ := List.mem_flatMap.mp inSome
      exact eachRead text inTexts part inParts
  rw [allRead]
  refine and_congr_right fun eachRead => iff_congr Iff.rfl ?_
  constructor
  · rintro ⟨part, inSome, member, read, admitted⟩
    obtain ⟨text, inTexts, inParts⟩ := List.mem_flatMap.mp inSome
    have textRead := Schema.exists_parse_iff.mp (eachRead text inTexts)
    refine ⟨text, inTexts, conforms_eq_ok_iff.mpr ⟨textRead, ?_⟩⟩
    exact iff_of_true rfl ⟨part, inParts, member, read, admitted⟩
  · rintro ⟨text, inTexts, answered⟩
    obtain ⟨part, inParts, found⟩ := (conforms_eq_ok_iff.mp answered).2.mp rfl
    exact ⟨part, List.mem_flatMap.mpr ⟨text, inTexts, inParts⟩, found⟩

/-- The error of joined texts comes from a text that is not read on its own. -/
theorem conforms_intercalate_error_iff {texts : List String} (some : texts ≠ []) :
    (∃ error, conforms registry ("|".intercalate texts) value = .error error) ↔
      ∃ text ∈ texts, ∃ error, Schema.parse registry text = .error error := by
  have answered :
      (∃ answer, conforms registry ("|".intercalate texts) value = .ok answer) ↔
        ∀ text ∈ texts, ∃ schema, Schema.parse registry text = .ok schema := by
    constructor
    · rintro ⟨answer, answered⟩
      exact ((conforms_intercalate_eq_ok_iff some).mp answered).1
    · intro eachRead
      classical
      exact ⟨_, (conforms_intercalate_eq_ok_iff some).mpr ⟨eachRead, decide_eq_true_iff⟩⟩
  simp only [Except.exists_error_iff, answered]
  push Not
  rfl

/-- Texts with the same members, in any order and number, are answered alike. -/
theorem conforms_intercalate_congr {left right : List String} (leftSome : left ≠ [])
    (rightSome : right ≠ []) (same : ∀ text, text ∈ left ↔ text ∈ right) {answer : Bool} :
    conforms registry ("|".intercalate left) value = .ok answer ↔
      conforms registry ("|".intercalate right) value = .ok answer := by
  simp only [conforms_intercalate_eq_ok_iff leftSome,
    conforms_intercalate_eq_ok_iff rightSome, same]

private theorem registeredLeaf_of_parse {text : String} {schema : Schema}
    (read : Schema.parse registry text = .ok schema)
    (leaf : ∀ members name, schema ≠ .union members name) :
    schema.RegisteredLeaf registry := by
  obtain ⟨members, readAll, rfl⟩ := Schema.parse_eq_ok_iff.mp read
  generalize Schema.parts text = terms at readAll
  match terms, members, readAll with
  | [_], [_], .cons readTerm .nil => exact Schema.registeredLeaf_of_readTerm readTerm
  | [], [], _ => exact (leaf _ _ rfl).elim
  | _ :: _ :: _, _ :: _ :: _, _ => exact (leaf _ _ rfl).elim

theorem conforms_of_parse {text : String} {schema : Schema}
    (read : Schema.parse registry text = .ok schema) :
    conforms registry text value = schema.admits registry value := by
  rw [conforms, read]
  rfl

theorem conforms_of_parse_basic {text name displayName : String}
    (read : Schema.parse registry text = .ok (.basic name displayName)) :
    ∃ type, registry.get? name = some type ∧
      conforms registry text value = .ok (type.accepts value) := by
  cases registeredLeaf_of_parse read (by simp) with
  | @basic _ _ type registered =>
      exact ⟨type, registered, (conforms_of_parse read).trans (Schema.admits_basic registered)⟩

theorem conforms_of_parse_array {text name displayName : String}
    (read : Schema.parse registry text = .ok (.array name displayName)) :
    ∃ type, registry.get? name = some type ∧
      conforms registry text value = .ok (Schema.allAccepted type value) := by
  cases registeredLeaf_of_parse read (by simp) with
  | @array _ _ type registered =>
      exact ⟨type, registered, (conforms_of_parse read).trans (Schema.admits_array registered)⟩

/-- To join texts with bars is to ask for one of them.  The answer to joined texts is an
error if and only if one of the texts is not read, and else the disjunction of their
answers, whatever their order and number; basic and array texts are answered by the types
that they name; and a schema that was read never fails with the registry it was read with. -/
theorem bar_is_disjunction (registry : Registry) (value : Json) (first : String)
    (others : List String) :
    ((∃ error, conforms registry ("|".intercalate (first :: others)) value = .error error) ↔
      ∃ text ∈ first :: others, ∃ error, Schema.parse registry text = .error error) ∧
    ((∀ text ∈ first :: others, ∃ schema, Schema.parse registry text = .ok schema) →
      ∃ answer, conforms registry ("|".intercalate (first :: others)) value = .ok answer ∧
        (answer = true ↔
          ∃ text ∈ first :: others, conforms registry text value = .ok true)) ∧
    (∀ text name displayName,
      Schema.parse registry text = .ok (.basic name displayName) →
      ∃ type, registry.get? name = some type ∧
        conforms registry text value = .ok (type.accepts value)) ∧
    (∀ text name displayName,
      Schema.parse registry text = .ok (.array name displayName) →
      ∃ type answer, registry.get? name = some type ∧
        conforms registry text value = .ok answer ∧
        (answer = true ↔ ∃ elements, value = .array elements ∧
          ∀ element ∈ elements, type.accepts element = true)) ∧
    (∀ texts : List String, (∀ text, text ∈ texts ↔ text ∈ first :: others) →
      ∀ answer, conforms registry ("|".intercalate texts) value = .ok answer ↔
        conforms registry ("|".intercalate (first :: others)) value = .ok answer) ∧
    (∀ text schema, Schema.parse registry text = .ok schema →
      ∃ answer, schema.admits registry value = .ok answer) := by
  have some : first :: others ≠ [] := List.cons_ne_nil first others
  refine ⟨conforms_intercalate_error_iff some, ?_, ?_, ?_, ?_, ?_⟩
  · intro eachRead
    classical
    exact ⟨_, (conforms_intercalate_eq_ok_iff some).mpr ⟨eachRead, decide_eq_true_iff⟩,
      decide_eq_true_iff⟩
  · intro text name displayName read
    exact conforms_of_parse_basic read
  · intro text name displayName read
    obtain ⟨type, registered, answered⟩ := conforms_of_parse_array read
    exact ⟨type, _, registered, answered, Schema.allAccepted_eq_true_iff⟩
  · intro texts same answer
    have textsSome : texts ≠ [] := List.ne_nil_of_mem ((same first).mpr List.mem_cons_self)
    exact conforms_intercalate_congr textsSome some same
  · intro text schema read
    obtain ⟨answer, admitted, -⟩ := Schema.admits_of_parse read value
    exact ⟨answer, admitted⟩

end TypeSchema
