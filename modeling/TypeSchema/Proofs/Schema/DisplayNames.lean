import TypeSchema.Proofs.Assertion.Verdicts
import TypeSchema.Proofs.Registry.LookUp
import TypeSchema.Proofs.Text.Words

/-!
# Names that reports use identify schemas

The names of built-in types are put together by words that none of them uses: one stands
between the members of a union, one in front of the elements of an array, and one ends what
the standard message says before the name.  So the name of a schema can be taken apart again,
and a message as well.
-/

namespace TypeSchema

namespace Catalogue

/-- The word between the members of a union. -/
def orWord : List Char := ['o', 'r']

/-- The word in front of the type of an array's elements. -/
def ofWord : List Char := ['o', 'f']

/-- The word in front of the name in the standard message. -/
def typeWord : List Char := ['t', 'y', 'p', 'e', ':']

theorem displayNames_distinct : (types.map LeafType.displayName).Nodup := by
  decide

/-- No built-in type has a name with one of the words that put names together. -/
theorem not_mem_words_displayName : ∀ type ∈ types, ∀ word ∈ [orWord, ofWord, typeWord],
    word ∉ Text.words type.displayName.toList := by
  decide

end Catalogue

namespace Schema

open Catalogue (orWord ofWord typeWord)

/-- A built-in type, or the arrays of one. -/
inductive BuiltInTerm : Schema → Prop where
  | basic {type : LeafType} :
      type ∈ Catalogue.types → BuiltInTerm (.basic type.name type.displayName)
  | array {type : LeafType} :
      type ∈ Catalogue.types → BuiltInTerm (.array type.name ("Array of " ++ type.displayName))

theorem builtInTerm_of_readTerm {term : List Char} {schema : Schema}
    (read : readTerm .builtIn term = .ok schema) : BuiltInTerm schema := by
  obtain ⟨name, displayName, registered, spelled⟩ := exists_type_of_readTerm read
  obtain ⟨type, listed, rfl, rfl⟩ := Catalogue.displayName?_builtIn_eq_some_iff.mp registered
  cases spelled with
  | inl isBasic => exact isBasic ▸ .basic listed
  | inr isArray => exact isArray ▸ .array listed

theorem words_arrayName (displayName : String) :
    Text.words ("Array of " ++ displayName).toList =
      ['A', 'r', 'r', 'a', 'y'] :: ofWord :: Text.words displayName.toList := by
  rw [String.toList_append]
  exact Text.words_append_space ['A', 'r', 'r', 'a', 'y', ' ', 'o', 'f'] displayName.toList

namespace BuiltInTerm

variable {left right schema : Schema}

theorem not_mem_words (term : BuiltInTerm schema) :
    ∀ word ∈ [orWord, typeWord], word ∉ Text.words schema.displayName.toList := by
  have notInFront : ∀ word ∈ [orWord, typeWord],
      word ≠ ['A', 'r', 'r', 'a', 'y'] ∧ word ≠ ofWord := by
    decide
  intro word joins
  have unused : ∀ type ∈ Catalogue.types, word ∉ Text.words type.displayName.toList := by
    intro type listed
    apply Catalogue.not_mem_words_displayName type listed
    simp only [List.mem_cons, List.not_mem_nil, or_false] at joins ⊢
    exact joins.imp_right .inr
  cases term with
  | basic listed => exact unused _ listed
  | array listed =>
      rw [displayName, words_arrayName]
      simp only [List.mem_cons, not_or]
      exact ⟨(notInFront word joins).1, (notInFront word joins).2, unused _ listed⟩

private theorem basic_ne_array {type element : LeafType} (listed : type ∈ Catalogue.types) :
    type.displayName ≠ "Array of " ++ element.displayName := by
  intro same
  have absent := Catalogue.not_mem_words_displayName type listed ofWord (by simp)
  rw [same, words_arrayName] at absent
  simp at absent

/-- Two terms of one name are the same term. -/
theorem eq_of_displayName_eq (leftTerm : BuiltInTerm left) (rightTerm : BuiltInTerm right)
    (same : left.displayName = right.displayName) : left = right := by
  have sameType : ∀ type ∈ Catalogue.types, ∀ other ∈ Catalogue.types,
      type.displayName = other.displayName → type = other :=
    List.inj_on_of_nodup_map Catalogue.displayNames_distinct
  cases leftTerm with
  | basic leftListed =>
      cases rightTerm with
      | basic rightListed => rw [sameType _ leftListed _ rightListed same]
      | array rightListed => exact (basic_ne_array leftListed same).elim
  | array leftListed =>
      cases rightTerm with
      | basic rightListed => exact (basic_ne_array rightListed same.symm).elim
      | array rightListed =>
          have sameName := String.append_right_inj _ |>.mp same
          rw [sameType _ leftListed _ rightListed sameName]

end BuiltInTerm

theorem exists_terms_of_parse {text : String} {schema : Schema}
    (read : parse .builtIn text = .ok schema) :
    ∃ members, members ≠ [] ∧ (∀ member ∈ members, BuiltInTerm member) ∧
      ofParts members = schema := by
  obtain ⟨members, readAll, rfl⟩ := parse_eq_ok_iff.mp read
  refine ⟨members, ?_, ?_, rfl⟩
  · intro none
    subst none
    exact parts_ne_nil text (List.forall₂_nil_right_iff.mp readAll)
  · intro member inMembers
    obtain ⟨term, -, readTerm⟩ := List.exists_related_of_mem readAll inMembers
    exact builtInTerm_of_readTerm readTerm

theorem toList_displayName_ofParts (members : List Schema) :
    (ofParts members).displayName.toList =
      (' ' :: orWord ++ [' ']).intercalate (members.map fun member =>
        member.displayName.toList) := by
  rw [displayName_ofParts, String.toList_intercalate, List.map_map]
  rfl

/-- The members of a union can be taken from its name. -/
theorem eq_of_displayName_ofParts_eq {left right : List Schema} (leftSome : left ≠ [])
    (rightSome : right ≠ []) (leftTerms : ∀ member ∈ left, BuiltInTerm member)
    (rightTerms : ∀ member ∈ right, BuiltInTerm member)
    (same : (ofParts left).displayName = (ofParts right).displayName) : left = right := by
  have free : ∀ members : List Schema, (∀ member ∈ members, BuiltInTerm member) →
      ∀ text ∈ members.map (fun member => member.displayName.toList),
        orWord ∉ Text.words text := by
    intro members terms text named
    obtain ⟨member, inMembers, rfl⟩ := List.mem_map.mp named
    exact (terms member inMembers).not_mem_words orWord (by simp)
  apply List.eq_of_map_eq (f := fun member : Schema => member.displayName.toList)
  · have whole : ' ' ∉ orWord := by decide
    apply Text.intercalate_word_injective whole
    · exact mt List.map_eq_nil_iff.mp leftSome
    · exact mt List.map_eq_nil_iff.mp rightSome
    · exact free left leftTerms
    · exact free right rightTerms
    · rw [← toList_displayName_ofParts, ← toList_displayName_ofParts, same]
  · intro member inLeft other inRight sameName
    exact (leftTerms member inLeft).eq_of_displayName_eq (rightTerms other inRight)
      (String.toList_injective sameName)

/-- No name of a schema has the word in front of it in the standard message. -/
theorem typeWord_not_mem_ofParts {members : List Schema} (some : members ≠ [])
    (terms : ∀ member ∈ members, BuiltInTerm member) :
    typeWord ∉ Text.words (ofParts members).displayName.toList := by
  rw [toList_displayName_ofParts, Text.words_intercalate (by decide), List.map_map]
  · apply Text.not_mem_intercalate (by decide)
    intro words named
    obtain ⟨member, inMembers, rfl⟩ := List.mem_map.mp named
    exact (terms member inMembers).not_mem_words typeWord (by simp)
  · exact mt List.map_eq_nil_iff.mp some

/-- The standard message ends, behind the last of its own words, in the name of the schema. -/
theorem words_standardMessage (valueName : Option String) (schemaName : String) :
    ∃ before, Text.words (standardMessage valueName schemaName).toList =
      before ++ typeWord :: Text.words schemaName.toList := by
  obtain ⟨subject, message⟩ : ∃ subject, standardMessage valueName schemaName =
      subject ++ " must be of type: " ++ schemaName := ⟨_, rfl⟩
  refine ⟨Text.words subject.toList ++ [['m', 'u', 's', 't'], ['b', 'e'], ofWord], ?_⟩
  calc
    Text.words (standardMessage valueName schemaName).toList
        = Text.words (subject.toList ++ ' ' ::
            ("must be of type:".toList ++ ' ' :: schemaName.toList)) := by
          rw [message, String.toList_append, String.toList_append, List.append_assoc]
          rfl
    _ = Text.words subject.toList ++
          ([['m', 'u', 's', 't'], ['b', 'e'], ofWord, typeWord] ++
            Text.words schemaName.toList) := by
          rw [Text.words_append_space, Text.words_append_space]
          rfl
    _ = Text.words subject.toList ++ [['m', 'u', 's', 't'], ['b', 'e'], ofWord] ++
          typeWord :: Text.words schemaName.toList := by
          simp

/-- Two texts that are read with the built-in types have schemas of one name if and only if
they have one schema.  Standard messages that are the same, whatever the values are called,
are about the same schema. -/
theorem display_names_identify_schemas {left right : String}
    {leftSchema rightSchema : Schema} (leftRead : parse .builtIn left = .ok leftSchema)
    (rightRead : parse .builtIn right = .ok rightSchema) :
    (leftSchema.displayName = rightSchema.displayName ↔ leftSchema = rightSchema) ∧
    ∀ leftValue rightValue,
      standardMessage leftValue leftSchema.displayName =
        standardMessage rightValue rightSchema.displayName → leftSchema = rightSchema := by
  obtain ⟨leftMembers, leftSome, leftTerms, rfl⟩ := exists_terms_of_parse leftRead
  obtain ⟨rightMembers, rightSome, rightTerms, rfl⟩ := exists_terms_of_parse rightRead
  have identified : (ofParts leftMembers).displayName = (ofParts rightMembers).displayName →
      ofParts leftMembers = ofParts rightMembers := by
    intro same
    rw [eq_of_displayName_ofParts_eq leftSome rightSome leftTerms rightTerms same]
  refine ⟨⟨identified, fun same => same ▸ rfl⟩, ?_⟩
  intro leftValue rightValue sameMessage
  obtain ⟨before, leftWords⟩ := words_standardMessage leftValue (ofParts leftMembers).displayName
  obtain ⟨before', rightWords⟩ :=
    words_standardMessage rightValue (ofParts rightMembers).displayName
  rw [sameMessage, rightWords] at leftWords
  have sameWords := Text.behind_last_injective (typeWord_not_mem_ofParts rightSome rightTerms)
    (typeWord_not_mem_ofParts leftSome leftTerms) leftWords
  exact identified (String.toList_injective (Text.words_injective sameWords.symm))

/-- Two unions that differ only in which of their members is an array. -/
theorem display_names_identify_schemas_arrays :
    let left := Schema.union [.basic "array" "Array", .array "string" "Array of String"]
      "Array or Array of String"
    let right := Schema.union [.array "array" "Array of Array", .basic "string" "String"]
      "Array of Array or String"
    parse .builtIn "array | string []" = .ok left ∧ parse .builtIn "array[]|string" = .ok right ∧
    (left.displayName = right.displayName ↔ left = right) ∧
    ∀ leftValue rightValue, standardMessage leftValue left.displayName =
      standardMessage rightValue right.displayName → left = right := by
  intro left right
  have leftRead : parse .builtIn "array | string []" = .ok left := by rfl
  have rightRead : parse .builtIn "array[]|string" = .ok right := by rfl
  exact ⟨leftRead, rightRead, display_names_identify_schemas leftRead rightRead⟩

end Schema

end TypeSchema
