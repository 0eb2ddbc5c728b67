import TypeSchema.Proofs.Registry.LookUp
import TypeSchema.Proofs.Schema.Diagnosis
import TypeSchema.Proofs.Schema.Leaves

/-!
# What a schema depends on

A text is read, asked and asserted alike with every registry that has the same types for the
names that its terms put forward.  A registry that is extended keeps all its answers, those
on schemas that name unknown types included, and finds the first mistake of a union no
earlier.
-/

namespace TypeSchema

/-- The place of the wrong member, if the mistake is in a member of a union. -/
def SchemaError.position? : SchemaError → Option Nat
  | .member position _ _ _ => some position
  | _ => none

namespace Schema

/-- The names that the terms of a text put forward. -/
def candidates (text : String) : List String :=
  (parts text).map fun part => .ofList (candidate part)

variable {registry other : Registry} {value : Json}

theorem readTerm_congr {term : List Char}
    (agree : registry.get? (.ofList (candidate term)) = other.get? (.ofList (candidate term))) :
    readTerm registry term = readTerm other term := by
  by_cases brackets : ['[', ']'] <:+ term
  · obtain ⟨front, rfl⟩ := brackets
    rw [candidate_array] at agree
    rw [readTerm_array, readTerm_array, displayNameOf, displayNameOf, Registry.displayName?,
      Registry.displayName?, agree]
  · rw [candidate_basic brackets] at agree
    rw [readTerm_basic brackets, readTerm_basic brackets, displayNameOf, displayNameOf,
      Registry.displayName?, Registry.displayName?, agree]

theorem readMembers_congr {whole : String} {position : Nat} {terms : List (List Char)}
    (same : ∀ term ∈ terms, readTerm registry term = readTerm other term) :
    readMembers registry whole position terms = readMembers other whole position terms := by
  induction terms generalizing position with
  | nil => rfl
  | cons term rest ih =>
      have sameInRest : ∀ later ∈ rest, readTerm registry later = readTerm other later := by
        intro later member
        exact same later (List.mem_cons_of_mem term member)
      rw [readMembers, readMembers, same term List.mem_cons_self, ih sameInRest]

theorem parse_congr {text : String}
    (agree : ∀ name ∈ candidates text, registry.get? name = other.get? name) :
    parse registry text = parse other text := by
  have sameTerms : ∀ part ∈ parts text, readTerm registry part = readTerm other part := by
    intro part member
    apply readTerm_congr
    apply agree
    exact List.mem_map_of_mem member
  by_cases several : bar ∈ text.toList
  · rw [parse_of_bar several, parse_of_bar several, readMembers_congr sameTerms]
  · have onlyPart : Text.trim text.toList ∈ parts text := by
      rw [parts_of_no_bar several]
      exact List.mem_singleton_self _
    rw [parse_of_no_bar several, parse_of_no_bar several, sameTerms _ onlyPart]

mutual

/-- A schema judges alike with registries that agree on the types of its leaves. -/
theorem admits_congr (schema : Schema)
    (agree : ∀ leaf ∈ leaves schema, registry.get? leaf.type = other.get? leaf.type) :
    schema.admits registry value = schema.admits other value := by
  cases schema with
  | basic type displayName =>
      have same : registry.get? type = other.get? type :=
        agree (.basic type) List.mem_cons_self
      rw [admits, admits, leafType, leafType, same]
  | array elementType displayName =>
      have same : registry.get? elementType = other.get? elementType :=
        agree (.array elementType) List.mem_cons_self
      rw [admits, admits, leafType, leafType, same]
  | union members displayName =>
      rw [admits, admits]
      apply anyAdmits_congr
      intro leaf member
      apply agree
      rwa [leaves]

/-- List counterpart of `admits_congr`. -/
theorem anyAdmits_congr (schemas : List Schema)
    (agree : ∀ leaf ∈ leavesAll schemas, registry.get? leaf.type = other.get? leaf.type) :
    anyAdmits registry value schemas = anyAdmits other value schemas := by
  cases schemas with
  | nil => rfl
  | cons schema rest =>
      rw [leavesAll] at agree
      have first := admits_congr schema fun leaf member =>
        agree leaf (List.mem_append_left _ member)
      have others := anyAdmits_congr rest fun leaf member =>
        agree leaf (List.mem_append_right _ member)
      rw [anyAdmits, anyAdmits, first, others]

end

theorem leaves_of_readTerm {term : List Char} {schema : Schema}
    (read : readTerm registry term = .ok schema) :
    ∃ leaf : Leaf, leaves schema = [leaf] ∧ leaf.type = .ofList (candidate term) := by
  by_cases brackets : ['[', ']'] <:+ term
  · obtain ⟨front, rfl⟩ := brackets
    rw [readTerm_array, Except.map_eq_ok_iff] at read
    obtain ⟨displayName, -, rfl⟩ := read
    rw [candidate_array]
    exact ⟨.array (.ofList (Text.trim front)), rfl, rfl⟩
  · rw [readTerm_basic brackets, Except.map_eq_ok_iff] at read
    obtain ⟨displayName, -, rfl⟩ := read
    rw [candidate_basic brackets]
    exact ⟨.basic (.ofList term), rfl, rfl⟩

theorem leaves_ofParts (members : List Schema) : leaves (ofParts members) = leavesAll members := by
  match members with
  | [] => rfl
  | [member] => rw [ofParts, leavesAll, leavesAll, List.append_nil]
  | first :: second :: others => rfl

/-- The leaves of the schema of a text are of the types that the terms of the text name. -/
theorem leaf_types_of_parse {text : String} {schema : Schema}
    (read : parse registry text = .ok schema) :
    (leaves schema).map Leaf.type = candidates text := by
  obtain ⟨members, readAll, rfl⟩ := parse_eq_ok_iff.mp read
  rw [leaves_ofParts, candidates]
  clear read
  generalize parts text = terms at readAll
  induction readAll with
  | nil => rfl
  | cons success rest ih =>
      obtain ⟨leaf, only, named⟩ := leaves_of_readTerm success
      rw [leavesAll, List.map_append, ih, only, List.map_singleton, named]
      rfl

theorem admits_congr_of_parse {text : String} {schema : Schema} (value : Json)
    (read : parse registry text = .ok schema)
    (agree : ∀ name ∈ candidates text, registry.get? name = other.get? name) :
    schema.admits registry value = schema.admits other value := by
  apply admits_congr
  intro leaf member
  apply agree
  rw [← leaf_types_of_parse read]
  exact List.mem_map_of_mem member

theorem registered_of_readTerm {term : List Char} {schema : Schema}
    (read : readTerm registry term = .ok schema) :
    ∃ type, registry.get? (.ofList (candidate term)) = some type := by
  cases named : displayNameOf registry (candidate term) with
  | error cause =>
      have failed := readTerm_eq_error_iff.mpr named
      rw [read] at failed
      cases failed
  | ok displayName =>
      obtain ⟨-, known⟩ := displayNameOf_eq_ok_iff.mp named
      obtain ⟨type, found, -⟩ := displayName?_eq_some_iff.mp known
      exact ⟨type, found⟩

theorem readTerm_of_extendedBy (extended : registry.ExtendedBy other) {term : List Char}
    {schema : Schema} (read : readTerm registry term = .ok schema) :
    readTerm other term = .ok schema := by
  obtain ⟨type, found⟩ := registered_of_readTerm read
  have agree : registry.get? (.ofList (candidate term)) =
      other.get? (.ofList (candidate term)) := by
    rw [found, extended _ type found]
  rw [← readTerm_congr agree, read]

theorem parse_of_extendedBy (extended : registry.ExtendedBy other) {text : String}
    {schema : Schema} (read : parse registry text = .ok schema) :
    parse other text = .ok schema := by
  obtain ⟨members, readAll, rfl⟩ := parse_eq_ok_iff.mp read
  apply parse_eq_ok_iff.mpr
  refine ⟨members, ?_, rfl⟩
  apply readAll.imp
  intro term member success
  exact readTerm_of_extendedBy extended success

theorem leafType_eq_ok_iff {name : String} {type : LeafType} :
    leafType registry name = .ok type ↔ registry.get? name = some type := by
  rw [leafType]
  cases registry.get? name <;> simp

theorem leafType_of_extendedBy (extended : registry.ExtendedBy other) {name : String}
    {type : LeafType} (found : leafType registry name = .ok type) :
    leafType other name = .ok type := by
  rw [leafType_eq_ok_iff] at found ⊢
  exact extended name type found

mutual

/-- An answer that was reached has only asked for registered types. -/
theorem admits_of_extendedBy (extended : registry.ExtendedBy other) (schema : Schema)
    {answer : Bool} (answered : schema.admits registry value = .ok answer) :
    schema.admits other value = .ok answer := by
  cases schema with
  | basic type displayName =>
      rw [admits, Except.bind_eq_ok_iff] at answered ⊢
      obtain ⟨known, found, judged⟩ := answered
      exact ⟨known, leafType_of_extendedBy extended found, judged⟩
  | array elementType displayName =>
      rw [admits, Except.bind_eq_ok_iff] at answered ⊢
      obtain ⟨known, found, judged⟩ := answered
      exact ⟨known, leafType_of_extendedBy extended found, judged⟩
  | union members displayName =>
      rw [admits] at answered ⊢
      exact anyAdmits_of_extendedBy extended members answered

/-- List counterpart of `admits_of_extendedBy`. -/
theorem anyAdmits_of_extendedBy (extended : registry.ExtendedBy other) (schemas : List Schema)
    {answer : Bool} (answered : anyAdmits registry value schemas = .ok answer) :
    anyAdmits other value schemas = .ok answer := by
  cases schemas with
  | nil => exact answered
  | cons schema rest =>
      rw [anyAdmits, Except.bind_eq_ok_iff] at answered ⊢
      obtain ⟨first, firstAnswered, restAnswered⟩ := answered
      refine ⟨first, admits_of_extendedBy extended schema firstAnswered, ?_⟩
      cases first with
      | true => exact restAnswered
      | false => exact anyAdmits_of_extendedBy extended rest restAnswered

end

theorem readMembers_position {whole : String} {position : Nat} {terms : List (List Char)}
    {error : SchemaError} (failed : readMembers registry whole position terms = .error error) :
    ∃ place, error.position? = some place ∧ position ≤ place := by
  obtain ⟨before, term, after, cause, -, -, -, rfl⟩ := readMembers_eq_error_iff.mp failed
  exact ⟨position + before.length, rfl, Nat.le_add_right _ _⟩

/-- The mistake that a registry finds first is found no earlier with a registry that extends
it. -/
theorem readMembers_position_of_extendedBy (extended : registry.ExtendedBy other)
    {whole : String} {position : Nat} {terms : List (List Char)} {error later : SchemaError}
    (failed : readMembers registry whole position terms = .error error)
    (failedLater : readMembers other whole position terms = .error later) :
    ∃ place laterPlace, error.position? = some place ∧ later.position? = some laterPlace ∧
      place ≤ laterPlace := by
  induction terms generalizing position with
  | nil => cases failed
  | cons term rest ih =>
      obtain ⟨laterPlace, laterAt, bound⟩ := readMembers_position failedLater
      rw [readMembers] at failed failedLater
      cases read : readTerm registry term with
      | error cause =>
          rw [read] at failed
          cases failed
          exact ⟨position, laterPlace, rfl, laterAt, bound⟩
      | ok schema =>
          rw [read] at failed
          rw [readTerm_of_extendedBy extended read] at failedLater
          exact ih (Except.map_eq_error_iff.mp failed) (Except.map_eq_error_iff.mp failedLater)

theorem parse_position_of_extendedBy (extended : registry.ExtendedBy other) {text : String}
    {error later : SchemaError} (several : bar ∈ text.toList)
    (failed : parse registry text = .error error) (failedLater : parse other text = .error later) :
    ∃ place laterPlace, error.position? = some place ∧ later.position? = some laterPlace ∧
      place ≤ laterPlace := by
  rw [parse_of_bar several, Except.map_eq_error_iff] at failed failedLater
  exact readMembers_position_of_extendedBy extended failed failedLater

end Schema

variable {registry other : Registry} {text : String}

theorem conforms_congr (value : Json)
    (agree : ∀ name ∈ Schema.candidates text, registry.get? name = other.get? name) :
    conforms registry text value = conforms other text value := by
  have sameReading := Schema.parse_congr agree
  cases read : Schema.parse registry text with
  | error error =>
      rw [conforms, conforms, ← sameReading, read]
      rfl
  | ok schema =>
      rw [conforms_of_parse read, conforms_of_parse (sameReading ▸ read)]
      exact Schema.admits_congr_of_parse value read agree

theorem require_congr (value : Json) (info : ErrorInfo)
    (agree : ∀ name ∈ Schema.candidates text, registry.get? name = other.get? name) :
    require registry text value info = require other text value info := by
  have sameReading := Schema.parse_congr agree
  cases read : Schema.parse registry text with
  | error error => rw [require, require, ← sameReading, read]
  | ok schema =>
      rw [require, require, ← sameReading, read]
      dsimp only
      rw [Schema.require, Schema.require, Schema.admits_congr_of_parse value read agree]

theorem conforms_of_extendedBy (extended : registry.ExtendedBy other) {value : Json}
    {answer : Bool} (answered : conforms registry text value = .ok answer) :
    conforms other text value = .ok answer := by
  rw [conforms, Except.bind_eq_ok_iff] at answered ⊢
  obtain ⟨schema, read, admitted⟩ := answered
  exact ⟨schema, Schema.parse_of_extendedBy extended read,
    Schema.admits_of_extendedBy extended schema admitted⟩

/-- Registries with the same types for the names that a text puts forward cannot be told
apart by it: it is read, asked and asserted alike with both.  With a registry that extends
another, every schema that was read, every answer to a text and every answer of a schema,
also of one that names unknown types, stays the same, and a union that is rejected with both
has its first mistake no earlier.  To add types of new names is to extend. -/
theorem schemas_depend_on_the_types_they_name (registry other : Registry) :
    (∀ text, (∀ name ∈ Schema.candidates text, registry.get? name = other.get? name) →
      Schema.parse registry text = Schema.parse other text ∧
      (∀ value, conforms registry text value = conforms other text value) ∧
      (∀ value info, require registry text value info = require other text value info)) ∧
    (registry.ExtendedBy other →
      (∀ text schema, Schema.parse registry text = .ok schema →
        Schema.parse other text = .ok schema) ∧
      (∀ text value answer, conforms registry text value = .ok answer →
        conforms other text value = .ok answer) ∧
      (∀ schema value answer, Schema.admits registry value schema = .ok answer →
        Schema.admits other value schema = .ok answer) ∧
      (∀ text error later, Schema.bar ∈ text.toList →
        Schema.parse registry text = .error error → Schema.parse other text = .error later →
        ∃ place laterPlace, error.position? = some place ∧
          later.position? = some laterPlace ∧ place ≤ laterPlace)) ∧
    (∀ types added : List LeafType,
      (∀ type ∈ added, ∀ known ∈ types, type.name ≠ known.name) →
      (Registry.ofList types).ExtendedBy (.ofList (types ++ added))) := by
  refine ⟨?_, ?_, ?_⟩
  · intro text agree
    exact ⟨Schema.parse_congr agree, fun value => conforms_congr value agree,
      fun value info => require_congr value info agree⟩
  · intro extended
    refine ⟨?_, ?_, ?_, ?_⟩
    · intro text schema read
      exact Schema.parse_of_extendedBy extended read
    · intro text value answer answered
      exact conforms_of_extendedBy extended answered
    · intro schema value answer answered
      exact Schema.admits_of_extendedBy extended schema answered
    · intro text error later several failed failedLater
      exact Schema.parse_position_of_extendedBy extended several failed failedLater
  · intro types added new
    exact Registry.extendedBy_append new

end TypeSchema
