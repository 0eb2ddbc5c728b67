import Mathlib.Logic.Relation
import TypeSchema.Proofs.Schema.Grammar

/-!
# What is wrong with a rejected text

`Diagnosis` says which mistake a rejected text is rejected for.  In a union it is that of the
first part that cannot be read on its own, whatever stands behind it.  Blanks at the ends of
a text and around its bars change nothing in a diagnosis but the text of the union that it
quotes.
-/

namespace TypeSchema

/-- The same mistake in another text, which is quoted instead. -/
def SchemaError.within (whole : String) : SchemaError → SchemaError
  | .member position part _ cause => .member position part whole cause
  | error => error

theorem SchemaError.innermost_code_ne_union (error : SchemaError) :
    error.innermost.code ≠ "INVALID_UNION_SCHEMA" := by
  cases error with
  | term cause => cases cause <;> simp [innermost, code, TermError.code]
  | member position part whole cause => cases cause <;> simp [innermost, code, TermError.code]
  | _ => simp [innermost, code]

namespace Schema

variable {registry : Registry}

/-- The name that a term puts forward: what stands before its brackets, without the blanks
around it, or else the whole term. -/
def candidate (term : List Char) : List Char :=
  match Text.beforeBrackets? term with
  | some front => Text.trim front
  | none => term

theorem candidate_array (front : List Char) :
    candidate (front ++ ['[', ']']) = Text.trim front := by
  rw [candidate, Text.beforeBrackets?_eq_some_iff.mpr rfl]

theorem candidate_basic {term : List Char} (noBrackets : ¬ ['[', ']'] <:+ term) :
    candidate term = term := by
  rw [candidate, Text.beforeBrackets?_eq_none_iff.mpr noBrackets]

theorem candidate_eq_nil_iff {term : List Char} (trimmed : Text.Trimmed term) :
    candidate term = [] ↔ term = [] ∨ term = ['[', ']'] := by
  constructor
  · intro nameless
    by_cases brackets : ['[', ']'] <:+ term
    · obtain ⟨front, rfl⟩ := brackets
      rw [candidate_array, Text.trim_eq_nil_iff] at nameless
      -- A blank before the brackets would be a blank at the front of the whole term.
      cases front with
      | nil => exact .inr rfl
      | cons c rest =>
          have visible := trimmed.front c rfl
          simp [nameless c List.mem_cons_self] at visible
    · rw [candidate_basic brackets] at nameless
      exact .inl nameless
  · intro spelled
    cases spelled with
    | inl empty =>
        rw [empty]
        rfl
    | inr brackets =>
        rw [brackets]
        exact candidate_array []

theorem displayNameOf_eq_error_iff {name : List Char} {cause : TermError} :
    displayNameOf registry name = .error cause ↔
      (name = [] ∧ cause = .noName) ∨
        (name ≠ [] ∧ registry.contains (.ofList name) = false ∧
          cause = .unknownType (.ofList name)) := by
  by_cases empty : name = []
  · subst empty
    simpa [displayNameOf] using eq_comm
  · rw [displayNameOf, List.isEmpty_eq_false_iff.mpr empty, if_neg Bool.false_ne_true,
      Registry.displayName?, Registry.contains]
    cases registry.get? (.ofList name) with
    | none => simpa [empty] using eq_comm
    | some type => simp [empty]

theorem readTerm_eq_error_iff {term : List Char} {cause : TermError} :
    readTerm registry term = .error cause ↔
      displayNameOf registry (candidate term) = .error cause := by
  by_cases brackets : ['[', ']'] <:+ term
  · obtain ⟨front, rfl⟩ := brackets
    rw [readTerm_array, candidate_array, Except.map_eq_error_iff]
  · rw [readTerm_basic brackets, candidate_basic brackets, Except.map_eq_error_iff]

theorem readMembers_eq_error_iff {whole : String} {position : Nat}
    {terms : List (List Char)} {error : SchemaError} :
    readMembers registry whole position terms = .error error ↔
      ∃ before term after cause, terms = before ++ term :: after ∧
        (∀ earlier ∈ before, ∃ schema, readTerm registry earlier = .ok schema) ∧
        readTerm registry term = .error cause ∧
        error = .member (position + before.length) (.ofList term) whole cause := by
  -- Behind a member that is read, the place of the mistake is counted from one further on.
  induction terms generalizing position with
  | nil => simp [readMembers]
  | cons head rest ih =>
      rw [readMembers]
      cases read : readTerm registry head with
      | error cause =>
          constructor
          · intro failed
            cases failed
            refine ⟨[], head, rest, cause, rfl, ?_, read, rfl⟩
            intro earlier member
            cases member
          · rintro ⟨before, term, after, other, cut, readable, failed, rfl⟩
            cases before with
            | nil =>
                obtain ⟨rfl, rfl⟩ := List.cons.inj cut
                obtain rfl : cause = other := Except.error.inj (read.symm.trans failed)
                rfl
            | cons first others =>
                obtain ⟨rfl, -⟩ := List.cons.inj cut
                obtain ⟨schema, known⟩ := readable head List.mem_cons_self
                rw [read] at known
                cases known
      | ok schema =>
          simp only [Except.map_eq_error_iff, ih]
          constructor
          · rintro ⟨before, term, after, cause, rfl, readable, failed, rfl⟩
            refine ⟨head :: before, term, after, cause, rfl, ?_, failed, ?_⟩
            · intro earlier member
              cases member with
              | head => exact ⟨schema, read⟩
              | tail _ later => exact readable earlier later
            · rw [List.length_cons, Nat.add_right_comm, Nat.add_assoc]
          · rintro ⟨before, term, after, cause, cut, readable, failed, rfl⟩
            cases before with
            | nil =>
                obtain ⟨rfl, -⟩ := List.cons.inj cut
                rw [read] at failed
                cases failed
            | cons first others =>
                obtain ⟨rfl, rfl⟩ := List.cons.inj cut
                refine ⟨others, term, after, cause, rfl, ?_, failed, ?_⟩
                · intro earlier member
                  exact readable earlier (List.mem_cons_of_mem _ member)
                · rw [List.length_cons, Nat.add_right_comm, Nat.add_assoc]

/-- A part that cannot be read on its own, and for which cause.  Of a part that shows nothing
it is said that it names no type. -/
inductive FailsAlone (registry : Registry) (piece : List Char) : TermError → Prop where
  | blank : Text.AllBlank piece → FailsAlone registry piece .noName
  | term {cause : TermError} :
      parse registry (.ofList piece) = .error (.term cause) → FailsAlone registry piece cause

theorem parse_piece {piece : List Char} (noBar : bar ∉ piece) :
    parse registry (.ofList piece) =
      if (Text.trim piece).isEmpty then .error .blank
      else (readTerm registry (Text.trim piece)).mapError .term := by
  have noBarInText : bar ∉ (String.ofList piece).toList := by rwa [String.toList_ofList]
  rw [parse_of_no_bar noBarInText, String.toList_ofList]

theorem readTerm_piece_eq_ok_iff {piece : List Char} {schema : Schema}
    (noBar : bar ∉ piece) :
    readTerm registry (Text.trim piece) = .ok schema ↔
      parse registry (.ofList piece) = .ok schema := by
  rw [parse_piece noBar]
  cases Text.trim piece with
  | nil => simp [readTerm_nil]
  | cons c rest => rw [List.isEmpty_cons, if_neg Bool.false_ne_true, Except.mapError_eq_ok_iff]

theorem readTerm_piece_eq_error_iff {piece : List Char} {cause : TermError}
    (noBar : bar ∉ piece) :
    readTerm registry (Text.trim piece) = .error cause ↔ FailsAlone registry piece cause := by
  by_cases empty : Text.trim piece = []
  · have blank : Text.AllBlank piece := Text.trim_eq_nil_iff.mp empty
    have alone : parse registry (.ofList piece) = .error .blank := by
      rw [parse_piece noBar, empty]
      rfl
    rw [empty, readTerm_nil]
    constructor
    · intro nameless
      cases nameless
      exact .blank blank
    · intro fails
      cases fails with
      | blank => rfl
      | term failed =>
          rw [alone] at failed
          cases failed
  · have alone : parse registry (.ofList piece) =
        (readTerm registry (Text.trim piece)).mapError .term := by
      rw [parse_piece noBar, List.isEmpty_eq_false_iff.mpr empty, if_neg Bool.false_ne_true]
    constructor
    · intro failed
      exact .term (alone.trans (Except.mapError_eq_error_iff.mpr ⟨cause, failed, rfl⟩))
    · intro fails
      cases fails with
      | blank blank => exact (empty (Text.trim_eq_nil_iff.mpr blank)).elim
      | term failed =>
          rw [alone, Except.mapError_eq_error_iff] at failed
          obtain ⟨inner, failed, same⟩ := failed
          cases same
          exact failed

/-- What a rejected text is rejected for. -/
inductive Diagnosis (registry : Registry) (text : String) : SchemaError → Prop where
  | blank : Text.AllBlank text.toList → Diagnosis registry text .blank
  | noName : Text.trim text.toList = ['[', ']'] → Diagnosis registry text (.term .noName)
  | unknownType :
      ¬ Text.AllBlank text.toList → bar ∉ text.toList →
      Text.trim text.toList ≠ ['[', ']'] →
      registry.contains (.ofList (candidate (Text.trim text.toList))) = false →
      Diagnosis registry text
        (.term (.unknownType (.ofList (candidate (Text.trim text.toList)))))
  | member {before : List (List Char)} {piece : List Char} {after : List (List Char)}
      {cause : TermError} :
      bar ∈ text.toList → Text.segments bar text.toList = before ++ piece :: after →
      (∀ earlier ∈ before, ∃ schema, parse registry (.ofList earlier) = .ok schema) →
      FailsAlone registry piece cause →
      Diagnosis registry text
        (.member (before.length + 1) (.ofList (Text.trim piece))
          (.ofList (Text.trim text.toList)) cause)

theorem parse_eq_error_iff_of_no_bar {text : String} {error : SchemaError}
    (single : bar ∉ text.toList) :
    parse registry text = .error error ↔ Diagnosis registry text error := by
  rw [parse_of_no_bar single]
  by_cases empty : Text.trim text.toList = []
  · have blank : Text.AllBlank text.toList := Text.trim_eq_nil_iff.mp empty
    rw [empty]
    constructor
    · intro failed
      cases failed
      exact .blank blank
    · intro diagnosis
      cases diagnosis with
      | blank => rfl
      | noName brackets => simp [empty] at brackets
      | unknownType shown => exact (shown blank).elim
      | member several => exact (single several).elim
  · have shown : ¬ Text.AllBlank text.toList := mt Text.trim_eq_nil_iff.mpr empty
    have nameless_iff : candidate (Text.trim text.toList) = [] ↔
        Text.trim text.toList = ['[', ']'] := by
      rw [candidate_eq_nil_iff (Text.trimmed_trim _), or_iff_right empty]
    rw [List.isEmpty_eq_false_iff.mpr empty, if_neg Bool.false_ne_true,
      Except.mapError_eq_error_iff]
    simp only [readTerm_eq_error_iff, displayNameOf_eq_error_iff, ne_eq, nameless_iff]
    constructor
    · rintro ⟨cause, ⟨brackets, rfl⟩ | ⟨named, missing, rfl⟩, rfl⟩
      · exact .noName brackets
      · exact .unknownType shown single named missing
    · intro diagnosis
      cases diagnosis with
      | blank blank => exact (shown blank).elim
      | noName brackets => exact ⟨_, .inl ⟨brackets, rfl⟩, rfl⟩
      | unknownType _ _ named missing => exact ⟨_, .inr ⟨named, missing, rfl⟩, rfl⟩
      | member several => exact (single several).elim

theorem parse_eq_error_iff_of_bar {text : String} {error : SchemaError}
    (several : bar ∈ text.toList) :
    parse registry text = .error error ↔ Diagnosis registry text error := by
  have noBars : ∀ piece ∈ Text.segments bar text.toList, bar ∉ piece :=
    fun piece member => Text.not_mem_of_mem_segments member
  have barVisible : Text.isBlank bar = false := by decide
  rw [parse_of_bar several, Except.map_eq_error_iff, readMembers_eq_error_iff, parts]
  constructor
  · rintro ⟨terms, term, others, cause, cut, readable, failed, rfl⟩
    obtain ⟨before, rest, split, rfl, restCut⟩ := List.map_eq_append_iff.mp cut
    obtain ⟨piece, after, rfl, rfl, rfl⟩ := List.map_eq_cons_iff.mp restCut
    rw [split] at noBars
    rw [List.length_map, Nat.add_comm]
    apply Diagnosis.member several split
    · intro earlier member
      obtain ⟨schema, read⟩ := readable (Text.trim earlier) (List.mem_map_of_mem member)
      have noBar := noBars earlier (List.mem_append_left _ member)
      exact ⟨schema, (readTerm_piece_eq_ok_iff noBar).mp read⟩
    · exact (readTerm_piece_eq_error_iff (noBars piece (by simp))).mp failed
  · intro diagnosis
    cases diagnosis with
    | blank blank => exact (blank.not_mem barVisible several).elim
    | noName brackets =>
        have inTrimmed : bar ∈ Text.trim text.toList := (Text.mem_trim_iff barVisible).mpr several
        simp [brackets, bar] at inTrimmed
    | unknownType _ single => exact (single several).elim
    | @member before piece after cause _ split readable fails =>
        rw [split] at noBars ⊢
        refine ⟨before.map Text.trim, Text.trim piece, after.map Text.trim, cause, by simp, ?_,
          (readTerm_piece_eq_error_iff (noBars piece (by simp))).mpr fails, ?_⟩
        · intro term member
          obtain ⟨earlier, inBefore, rfl⟩ := List.mem_map.mp member
          obtain ⟨schema, read⟩ := readable earlier inBefore
          have noBar := noBars earlier (List.mem_append_left _ inBefore)
          exact ⟨schema, (readTerm_piece_eq_ok_iff noBar).mpr read⟩
        · rw [List.length_map, Nat.add_comm]

theorem parse_eq_error_iff {text : String} {error : SchemaError} :
    parse registry text = .error error ↔ Diagnosis registry text error := by
  by_cases several : bar ∈ text.toList
  · exact parse_eq_error_iff_of_bar several
  · exact parse_eq_error_iff_of_no_bar several

/-- Which kind of mistake is reported depends on the text alone. -/
theorem Diagnosis.code_eq {text : String} {error : SchemaError}
    (diagnosis : Diagnosis registry text error) :
    error.code =
      if Text.trim text.toList = [] ∨ Text.trim text.toList = ['[', ']'] then "INVALID_SCHEMA"
      else if bar ∈ text.toList then "INVALID_UNION_SCHEMA"
      else "INVALID_HANDY_TYPE" := by
  cases diagnosis with
  | blank blank => rw [if_pos (.inl (Text.trim_eq_nil_iff.mpr blank)), SchemaError.code]
  | noName brackets => rw [if_pos (.inr brackets), SchemaError.code, TermError.code]
  | unknownType shown single named missing =>
      rw [if_neg (not_or.mpr ⟨mt Text.trim_eq_nil_iff.mp shown, named⟩), if_neg single,
        SchemaError.code, TermError.code]
  | member several =>
      have inTrimmed : bar ∈ Text.trim text.toList :=
        (Text.mem_trim_iff (by decide)).mpr several
      have union : ¬ (Text.trim text.toList = [] ∨ Text.trim text.toList = ['[', ']']) := by
        intro short
        cases short with
        | inl empty => simp [empty] at inTrimmed
        | inr brackets => simp [brackets, bar] at inTrimmed
      rw [if_neg union, if_pos several, SchemaError.code]

/-- Reading the part that a diagnosis names fails on its own, for a mistake of the same
kind. -/
theorem Diagnosis.part_fails {text : String} {position : Nat} {part whole : String}
    {cause : TermError}
    (diagnosis : Diagnosis registry text (.member position part whole cause)) :
    ∃ alone, parse registry part = .error alone ∧ alone.code = cause.code := by
  cases diagnosis with
  | @member before piece after cause several split readable fails =>
      have noBar : bar ∉ piece := by
        apply Text.not_mem_of_mem_segments
        rw [split]
        exact List.mem_append_right _ List.mem_cons_self
      have noBarInPart : bar ∉ Text.trim piece := fun member =>
        noBar (Text.mem_of_mem_trim member)
      have same : parse registry (.ofList (Text.trim piece)) = parse registry (.ofList piece) := by
        rw [parse_piece noBar, parse_piece noBarInPart, Text.trim_trim]
      rw [same]
      cases fails with
      | blank blank =>
          refine ⟨.blank, ?_, rfl⟩
          rw [parse_piece noBar, Text.trim_eq_nil_iff.mpr blank]
          rfl
      | term failed => exact ⟨.term cause, failed, rfl⟩

/-- Blanks are put at an end of a text or at a side of one of its bars. -/
inductive Respaced : List Char → List Char → Prop where
  | front {gap : List Char} (text : List Char) :
      Text.AllBlank gap → Respaced text (gap ++ text)
  | back {gap : List Char} (text : List Char) :
      Text.AllBlank gap → Respaced text (text ++ gap)
  | beforeBar {gap : List Char} (left right : List Char) :
      Text.AllBlank gap → Respaced (left ++ bar :: right) (left ++ gap ++ bar :: right)
  | behindBar {gap : List Char} (left right : List Char) :
      Text.AllBlank gap → Respaced (left ++ bar :: right) (left ++ bar :: (gap ++ right))

theorem map_trim_segments_congr {left right : List Char}
    (same : Text.trim left = Text.trim right) :
    (Text.segments bar left).map Text.trim = (Text.segments bar right).map Text.trim := by
  have barVisible : Text.isBlank bar = false := by decide
  rw [← Text.map_trim_segments_trim left barVisible, same,
    Text.map_trim_segments_trim right barVisible]

theorem Respaced.map_trim_segments {text other : List Char} (respaced : Respaced text other) :
    (Text.segments bar text).map Text.trim = (Text.segments bar other).map Text.trim := by
  cases respaced with
  | @front gap _ blank =>
      apply map_trim_segments_congr
      simpa using (Text.trim_append_append text blank .nil).symm
  | @back gap _ blank =>
      apply map_trim_segments_congr
      simpa using (Text.trim_append_append text .nil blank).symm
  | @beforeBar gap left right blank =>
      have sameLeft : Text.trim left = Text.trim (left ++ gap) := by
        simpa using (Text.trim_append_append left .nil blank).symm
      simp only [Text.segments_append_separator, List.map_append,
        map_trim_segments_congr sameLeft]
  | @behindBar gap left right blank =>
      have sameRight : Text.trim right = Text.trim (gap ++ right) := by
        simpa using (Text.trim_append_append right blank .nil).symm
      simp only [Text.segments_append_separator, List.map_append,
        map_trim_segments_congr sameRight]

theorem map_trim_segments_of_respaced {text other : List Char}
    (respaced : Relation.EqvGen Respaced text other) :
    (Text.segments bar text).map Text.trim = (Text.segments bar other).map Text.trim := by
  induction respaced with
  | rel left right step => exact step.map_trim_segments
  | refl => rfl
  | symm left right _ ih => exact ih.symm
  | trans left middle right _ _ first second => exact first.trans second

theorem readMembers_within (whole other : String) (position : Nat) (terms : List (List Char)) :
    readMembers registry other position terms =
      (readMembers registry whole position terms).mapError (SchemaError.within other) := by
  induction terms generalizing position with
  | nil => rfl
  | cons term rest ih =>
      rw [readMembers, readMembers, ih]
      cases readTerm registry term with
      | error cause => rfl
      | ok schema =>
          dsimp only
          cases readMembers registry whole (position + 1) rest <;> rfl

/-- Texts with the same parts are read alike, and a mistake in one is the same mistake in the
other. -/
theorem parse_eq_within {text other : String} (same : parts text = parts other) :
    parse registry other =
      (parse registry text).mapError (SchemaError.within (.ofList (Text.trim other.toList))) := by
  have several_iff : bar ∈ other.toList ↔ bar ∈ text.toList := by
    rw [← two_le_length_parts_iff, ← two_le_length_parts_iff, same]
  by_cases several : bar ∈ text.toList
  · rw [parse_of_bar several, parse_of_bar (several_iff.mpr several), same,
      readMembers_within (.ofList (Text.trim text.toList))]
    cases readMembers registry (.ofList (Text.trim text.toList)) 1 (parts other) <;> rfl
  · have singleOther := mt several_iff.mp several
    have sameTerm : Text.trim other.toList = Text.trim text.toList := by
      simpa [parts_of_no_bar several, parts_of_no_bar singleOther] using same.symm
    rw [parse_of_no_bar several, parse_of_no_bar singleOther, sameTerm]
    split
    · rfl
    · cases readTerm registry (Text.trim text.toList) <;> rfl

/-- A text is rejected for exactly what its diagnosis says: for showing nothing, for naming no
type or an unknown one, or for the first part of a union that cannot be read on its own.  The
cause of a mistake in a union is a mistake in a single term.  Blanks put at the ends or
around bars, or taken away there, change only the text that is quoted for the union. -/
theorem rejection_is_diagnosed (registry : Registry) (text : String) :
    (∀ error, parse registry text = .error error ↔ Diagnosis registry text error) ∧
    (∀ error, parse registry text = .error error →
      error.code =
        (if Text.trim text.toList = [] ∨ Text.trim text.toList = ['[', ']'] then
          "INVALID_SCHEMA"
        else if bar ∈ text.toList then "INVALID_UNION_SCHEMA"
        else "INVALID_HANDY_TYPE") ∧
      error.innermost.code ≠ "INVALID_UNION_SCHEMA" ∧
      error.code ≠ "INTERNAL_ERROR_INVALID_SCHEMA") ∧
    (∀ position part whole cause,
      parse registry text = .error (.member position part whole cause) →
      (SchemaError.member position part whole cause).innermost = .term cause ∧
      ∃ alone, parse registry part = .error alone ∧ alone.code = cause.code) ∧
    (∀ other : String, Relation.EqvGen Respaced text.toList other.toList →
      parse registry other =
        (parse registry text).mapError
          (SchemaError.within (.ofList (Text.trim other.toList)))) := by
  refine ⟨fun error => parse_eq_error_iff, ?_, ?_, ?_⟩
  · intro error failed
    have code := (parse_eq_error_iff.mp failed).code_eq
    refine ⟨code, error.innermost_code_ne_union, ?_⟩
    rw [code]
    split_ifs <;> decide
  · intro position part whole cause failed
    exact ⟨rfl, (parse_eq_error_iff.mp failed).part_fails⟩
  · intro other respaced
    exact parse_eq_within (map_trim_segments_of_respaced respaced)

end Schema

end TypeSchema
