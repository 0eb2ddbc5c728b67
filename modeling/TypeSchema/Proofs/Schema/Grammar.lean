import Mathlib.Data.List.Forall2
import TypeSchema.Proofs.Outcome
import TypeSchema.Proofs.Text.Segmentation
import TypeSchema.Schema.Text

/-!
# The grammar of schema texts

A schema text is one or more segments with bars between them, and a segment is a term with
blanks around it.  `Denotes` relates segments to the schema that they stand for without a
word about how a text is read.  Reading accepts exactly the texts of such segments, and a
text has at most one list of segments that stands for anything.
-/

namespace TypeSchema.Schema

/-- A name as it may stand in a term. -/
structure IsName (name : List Char) : Prop where
  shown : name ≠ []
  noBar : bar ∉ name
  trimmed : Text.Trimmed name

/-- A term as it is written; blanks may stand before the brackets of an array. -/
inductive Term where
  | basic (name : List Char)
  | array (name gap : List Char)

def Term.text : Term → List Char
  | .basic name => name
  | .array name gap => name ++ gap ++ ['[', ']']

/-- The schema that a term stands for. -/
inductive Term.Denotes (registry : Registry) : Term → Schema → Prop where
  | basic {name : List Char} {displayName : String} :
      IsName name → ¬ ['[', ']'] <:+ name →
      registry.displayName? (.ofList name) = some displayName →
      Term.Denotes registry (.basic name) (.basic (.ofList name) displayName)
  | array {name gap : List Char} {displayName : String} :
      IsName name → Text.AllBlank gap →
      registry.displayName? (.ofList name) = some displayName →
      Term.Denotes registry (.array name gap)
        (.array (.ofList name) ("Array of " ++ displayName))

/-- A term with the blanks around it. -/
structure Segment where
  before : List Char
  term : Term
  after : List Char

def Segment.text (segment : Segment) : List Char :=
  segment.before ++ segment.term.text ++ segment.after

/-- The schema that a segment stands for. -/
structure Segment.Denotes (registry : Registry) (segment : Segment) (schema : Schema) :
    Prop where
  blankBefore : Text.AllBlank segment.before
  term : segment.term.Denotes registry schema
  blankAfter : Text.AllBlank segment.after

/-- Segments as they are written, with bars between them. -/
def written (segments : List Segment) : List Char :=
  [bar].intercalate (segments.map Segment.text)

/-- The schema that segments stand for: that of a single one, or the union of several. -/
inductive Denotes (registry : Registry) : List Segment → Schema → Prop where
  | single {segment : Segment} {schema : Schema} :
      segment.Denotes registry schema → Denotes registry [segment] schema
  | union {first second : Segment} {others : List Segment} {members : List Schema} :
      List.Forall₂ (Segment.Denotes registry) (first :: second :: others) members →
      Denotes registry (first :: second :: others)
        (.union members (" or ".intercalate (members.map displayName)))

theorem displayNameOf_eq_ok_iff {registry : Registry} {name : List Char}
    {displayName : String} :
    displayNameOf registry name = .ok displayName ↔
      name ≠ [] ∧ registry.displayName? (.ofList name) = some displayName := by
  unfold displayNameOf
  cases name with
  | nil => simp
  | cons c rest =>
      cases found : registry.displayName? (.ofList (c :: rest)) with
      | none => simp
      | some other => simp

theorem readTerm_array {registry : Registry} (front : List Char) :
    readTerm registry (front ++ ['[', ']']) =
      (displayNameOf registry (Text.trim front)).map fun displayName =>
        .array (.ofList (Text.trim front)) ("Array of " ++ displayName) := by
  rw [readTerm, Text.beforeBrackets?_eq_some_iff.mpr rfl]
  dsimp only
  cases displayNameOf registry (Text.trim front) <;> rfl

theorem readTerm_basic {registry : Registry} {term : List Char}
    (noBrackets : ¬ ['[', ']'] <:+ term) :
    readTerm registry term =
      (displayNameOf registry term).map fun displayName =>
        .basic (.ofList term) displayName := by
  rw [readTerm, Text.beforeBrackets?_eq_none_iff.mpr noBrackets]
  dsimp only
  cases displayNameOf registry term <;> rfl

/-- What is read of a term names a registered type. -/
theorem exists_type_of_readTerm {registry : Registry} {term : List Char} {schema : Schema}
    (success : readTerm registry term = .ok schema) :
    ∃ name displayName, registry.displayName? name = some displayName ∧
      (schema = .basic name displayName ∨ schema = .array name ("Array of " ++ displayName)) := by
  by_cases brackets : ['[', ']'] <:+ term
  · obtain ⟨front, rfl⟩ := brackets
    rw [readTerm_array, Except.map_eq_ok_iff] at success
    obtain ⟨displayName, named, rfl⟩ := success
    exact ⟨_, displayName, (displayNameOf_eq_ok_iff.mp named).2, .inr rfl⟩
  · rw [readTerm_basic brackets, Except.map_eq_ok_iff] at success
    obtain ⟨displayName, named, rfl⟩ := success
    exact ⟨_, displayName, (displayNameOf_eq_ok_iff.mp named).2, .inl rfl⟩

namespace Term.Denotes

variable {registry : Registry} {term : Term} {schema : Schema}

theorem shown (denotes : term.Denotes registry schema) : term.text ≠ [] := by
  cases denotes with
  | basic isName noBrackets registered => exact isName.shown
  | array isName blank registered => simp [Term.text]

theorem noBar (denotes : term.Denotes registry schema) : bar ∉ term.text := by
  cases denotes with
  | basic isName noBrackets registered => exact isName.noBar
  | @array name gap displayName isName blank registered =>
      have noBarInGap : bar ∉ gap := blank.not_mem (by decide)
      simp only [Term.text, List.mem_append, not_or]
      exact ⟨⟨isName.noBar, noBarInGap⟩, by decide⟩

theorem trimmed (denotes : term.Denotes registry schema) : Text.Trimmed term.text := by
  cases denotes with
  | basic isName noBrackets registered => exact isName.trimmed
  | @array name gap displayName isName blank registered =>
      obtain ⟨c, rest, rfl⟩ := List.exists_cons_of_ne_nil isName.shown
      constructor
      · intro first head
        exact isName.trimmed.front first (by simpa [Term.text] using head)
      · intro last final
        have closing : (Term.array (c :: rest) gap).text.getLast? = some ']' := by
          rw [Term.text, List.getLast?_append]
          rfl
        obtain rfl : ']' = last := Option.some.inj (closing.symm.trans final)
        decide

/-- What a term stands for is what reading its text yields. -/
theorem readTerm_text (denotes : term.Denotes registry schema) :
    readTerm registry term.text = .ok schema := by
  cases denotes with
  | basic isName noBrackets registered =>
      rw [Term.text, readTerm_basic noBrackets,
        displayNameOf_eq_ok_iff.mpr ⟨isName.shown, registered⟩]
      rfl
  | @array name gap displayName isName blank registered =>
      have element : Text.trim (name ++ gap) = name := by
        simpa using Text.trim_surround Text.AllBlank.nil isName.trimmed blank
      rw [Term.text, readTerm_array, element,
        displayNameOf_eq_ok_iff.mpr ⟨isName.shown, registered⟩]
      rfl

end Term.Denotes

/-- Every text that reads as a term is the text of one. -/
theorem exists_term_of_readTerm {registry : Registry} {text : List Char} {schema : Schema}
    (trimmed : Text.Trimmed text) (noBar : bar ∉ text)
    (success : readTerm registry text = .ok schema) :
    ∃ term : Term, term.text = text ∧ term.Denotes registry schema := by
  by_cases brackets : ['[', ']'] <:+ text
  · obtain ⟨front, rfl⟩ := brackets
    rw [readTerm_array, Except.map_eq_ok_iff] at success
    obtain ⟨displayName, named, rfl⟩ := success
    obtain ⟨shown, registered⟩ := displayNameOf_eq_ok_iff.mp named
    obtain ⟨before, gap, blankBefore, blankGap, cut⟩ := Text.trim_cut front
    -- A blank before the name would be a blank at the front of the whole term.
    have nothingBefore : before = [] := by
      cases before with
      | nil => rfl
      | cons c rest =>
          have visible := trimmed.front c (by rw [← cut]; rfl)
          simp [blankBefore c List.mem_cons_self] at visible
    rw [nothingBefore, List.nil_append] at cut
    refine ⟨.array (Text.trim front) gap, by rw [Term.text, cut], .array ?_ blankGap registered⟩
    refine ⟨shown, ?_, Text.trimmed_trim front⟩
    intro member
    exact noBar (List.mem_append_left _ (Text.mem_of_mem_trim member))
  · rw [readTerm_basic brackets, Except.map_eq_ok_iff] at success
    obtain ⟨displayName, named, rfl⟩ := success
    obtain ⟨shown, registered⟩ := displayNameOf_eq_ok_iff.mp named
    exact ⟨.basic text, rfl, .basic ⟨shown, noBar, trimmed⟩ brackets registered⟩

theorem Segment.Denotes.noBar {registry : Registry} {segment : Segment} {schema : Schema}
    (denotes : segment.Denotes registry schema) : bar ∉ segment.text := by
  have barVisible : Text.isBlank bar = false := by decide
  simp only [Segment.text, List.mem_append, not_or]
  exact ⟨⟨denotes.blankBefore.not_mem barVisible, denotes.term.noBar⟩,
    denotes.blankAfter.not_mem barVisible⟩

theorem Segment.Denotes.trim_text {registry : Registry} {segment : Segment} {schema : Schema}
    (denotes : segment.Denotes registry schema) :
    Text.trim segment.text = segment.term.text :=
  Text.trim_surround denotes.blankBefore denotes.term.trimmed denotes.blankAfter

/-- A text without a bar reads as a schema if and only if it is the text of a segment that
stands for it. -/
theorem readTerm_trim_eq_ok_iff {registry : Registry} {piece : List Char} {schema : Schema}
    (noBar : bar ∉ piece) :
    readTerm registry (Text.trim piece) = .ok schema ↔
      ∃ segment : Segment, segment.text = piece ∧ segment.Denotes registry schema := by
  constructor
  · intro success
    have noBarInTerm : bar ∉ Text.trim piece := by
      intro member
      exact noBar (Text.mem_of_mem_trim member)
    obtain ⟨term, spelled, denotes⟩ :=
      exists_term_of_readTerm (Text.trimmed_trim piece) noBarInTerm success
    obtain ⟨before, after, blankBefore, blankAfter, cut⟩ := Text.trim_cut piece
    refine ⟨⟨before, term, after⟩, ?_, blankBefore, denotes, blankAfter⟩
    rw [Segment.text, spelled, cut]
  · rintro ⟨segment, rfl, denotes⟩
    rw [denotes.trim_text]
    exact denotes.term.readTerm_text

/-- The terms of a schema text, without the blanks around them. -/
def parts (text : String) : List (List Char) :=
  (Text.segments bar text.toList).map Text.trim

theorem parts_ne_nil (text : String) : parts text ≠ [] := by
  intro none
  exact Text.segments_ne_nil bar text.toList (List.map_eq_nil_iff.mp none)

theorem bar_not_mem_of_mem_parts {text : String} {part : List Char}
    (member : part ∈ parts text) : bar ∉ part := by
  obtain ⟨piece, inSegments, rfl⟩ := List.mem_map.mp member
  intro inPart
  exact Text.not_mem_of_mem_segments inSegments (Text.mem_of_mem_trim inPart)

theorem trimmed_of_mem_parts {text : String} {part : List Char}
    (member : part ∈ parts text) : Text.Trimmed part := by
  obtain ⟨piece, -, rfl⟩ := List.mem_map.mp member
  exact Text.trimmed_trim piece

theorem parts_of_no_bar {text : String} (single : bar ∉ text.toList) :
    parts text = [Text.trim text.toList] := by
  rw [parts, Text.segments_of_not_mem single, List.map_singleton]

theorem two_le_length_parts_iff {text : String} :
    2 ≤ (parts text).length ↔ bar ∈ text.toList := by
  rw [parts, List.length_map, Text.two_le_length_segments_iff]

/-- The schema of a text whose terms have the given schemas. -/
def ofParts : List Schema → Schema
  | [schema] => schema
  | members => ofMembers members

theorem readMembers_eq_ok_iff {registry : Registry} {whole : String} {position : Nat}
    {terms : List (List Char)} {members : List Schema} :
    readMembers registry whole position terms = .ok members ↔
      List.Forall₂ (fun term member => readTerm registry term = .ok member)
        terms members := by
  induction terms generalizing position members with
  | nil =>
      rw [readMembers, List.forall₂_nil_left_iff]
      simp [eq_comm]
  | cons term rest ih =>
      rw [readMembers, List.forall₂_cons_left_iff]
      cases read : readTerm registry term with
      | error cause => simp
      | ok schema =>
          simp only [Except.map_eq_ok_iff, ih, Except.ok.injEq]
          constructor
          · rintro ⟨others, readOthers, rfl⟩
            exact ⟨schema, others, rfl, readOthers, rfl⟩
          · rintro ⟨member, others, rfl, readOthers, rfl⟩
            exact ⟨others, readOthers, rfl⟩

theorem readTerm_nil (registry : Registry) : readTerm registry [] = .error .noName :=
  rfl

theorem exists_ofParts_single_iff {registry : Registry} {term : List Char}
    {schema : Schema} :
    (∃ members,
        List.Forall₂ (fun term member => readTerm registry term = .ok member)
          [term] members ∧
        ofParts members = schema) ↔
      readTerm registry term = .ok schema := by
  constructor
  · rintro ⟨members, _ | ⟨read, _ | _⟩, rfl⟩
    exact read
  · intro read
    exact ⟨[schema], .cons read .nil, rfl⟩

/-- A text with a bar in it is read as a union of its terms. -/
theorem parse_of_bar {registry : Registry} {text : String} (several : bar ∈ text.toList) :
    parse registry text =
      (readMembers registry (.ofList (Text.trim text.toList)) 1 (parts text)).map
        ofMembers := by
  have barVisible : Text.isBlank bar = false := by decide
  have inTrimmed : bar ∈ Text.trim text.toList := (Text.mem_trim_iff barVisible).mpr several
  have shown : (Text.trim text.toList).isEmpty = false :=
    List.isEmpty_eq_false_iff.mpr (List.ne_nil_of_mem inTrimmed)
  rw [parse, readTrimmed, shown, if_neg Bool.false_ne_true, if_pos inTrimmed,
    Text.map_trim_segments_trim _ barVisible, parts]

/-- A text without a bar is read as a single term. -/
theorem parse_of_no_bar {registry : Registry} {text : String}
    (single : bar ∉ text.toList) :
    parse registry text =
      if (Text.trim text.toList).isEmpty then .error .blank
      else (readTerm registry (Text.trim text.toList)).mapError .term := by
  have notInTrimmed : bar ∉ Text.trim text.toList := by
    intro member
    exact single (Text.mem_of_mem_trim member)
  rw [parse, readTrimmed, if_neg notInTrimmed]

/-- A text is read if and only if all its terms are. -/
theorem parse_eq_ok_iff {registry : Registry} {text : String} {schema : Schema} :
    parse registry text = .ok schema ↔
      ∃ members,
        List.Forall₂ (fun term member => readTerm registry term = .ok member)
          (parts text) members ∧
        ofParts members = schema := by
  by_cases several : bar ∈ text.toList
  · rw [parse_of_bar several, Except.map_eq_ok_iff]
    simp only [readMembers_eq_ok_iff]
    refine exists_congr fun members => and_congr_right fun readAll => ?_
    have many : 2 ≤ members.length := by
      rw [← readAll.length_eq]
      exact two_le_length_parts_iff.mpr several
    match members, many with
    | first :: second :: others, _ => exact Iff.rfl
  · rw [parse_of_no_bar several, parts_of_no_bar several, exists_ofParts_single_iff]
    cases Text.trim text.toList with
    | nil => simp [readTerm_nil]
    | cons c rest =>
        rw [List.isEmpty_cons, if_neg Bool.false_ne_true, Except.mapError_eq_ok_iff]

theorem denotes_iff {registry : Registry} {segments : List Segment} {schema : Schema} :
    Denotes registry segments schema ↔
      segments ≠ [] ∧ ∃ members,
        List.Forall₂ (Segment.Denotes registry) segments members ∧
        ofParts members = schema := by
  constructor
  · intro denotes
    cases denotes with
    | single denotes => exact ⟨by simp, [schema], .cons denotes .nil, rfl⟩
    | @union first second others members all =>
        refine ⟨by simp, members, all, ?_⟩
        match members, all with
        | _ :: _ :: _, _ => rfl
  · rintro ⟨some, members, all, rfl⟩
    match segments, members, all with
    | [_], [_], .cons denotes .nil => exact .single denotes
    | _ :: _ :: _, _ :: _ :: _, all => exact .union all

/-- The terms of a text are read one by one if and only if its segments stand for what is
read. -/
theorem forall₂_readTerm_iff {registry : Registry} {pieces : List (List Char)}
    {members : List Schema} (noBars : ∀ piece ∈ pieces, bar ∉ piece) :
    List.Forall₂ (fun term member => readTerm registry term = .ok member)
        (pieces.map Text.trim) members ↔
      ∃ segments, segments.map Segment.text = pieces ∧
        List.Forall₂ (Segment.Denotes registry) segments members := by
  rw [List.forall₂_map_left_iff]
  induction pieces generalizing members with
  | nil => simp [List.forall₂_nil_left_iff]
  | cons piece rest ih =>
      have noBarsInRest : ∀ later ∈ rest, bar ∉ later := fun later member =>
        noBars later (List.mem_cons_of_mem _ member)
      constructor
      · intro all
        obtain _ | ⟨read, readRest⟩ := all
        obtain ⟨segment, spelled, denotes⟩ :=
          (readTerm_trim_eq_ok_iff (noBars piece List.mem_cons_self)).mp read
        obtain ⟨segments, spelledRest, denoteRest⟩ := (ih noBarsInRest).mp readRest
        exact ⟨segment :: segments, by simp [spelled, spelledRest], .cons denotes denoteRest⟩
      · rintro ⟨segments, spelled, all⟩
        obtain _ | ⟨segment, others⟩ := segments
        · simp at spelled
        · obtain ⟨spelledFirst, spelledRest⟩ := List.cons.inj spelled
          obtain _ | ⟨denotes, denoteRest⟩ := all
          exact .cons
            ((readTerm_trim_eq_ok_iff (noBars piece List.mem_cons_self)).mpr
              ⟨segment, spelledFirst, denotes⟩)
            ((ih noBarsInRest).mpr ⟨others, spelledRest, denoteRest⟩)

/-- Segments that stand for a schema are the pieces between the bars of their text. -/
theorem segments_written {registry : Registry} {segments : List Segment}
    {members : List Schema} (some : segments ≠ [])
    (all : List.Forall₂ (Segment.Denotes registry) segments members) :
    Text.segments bar (written segments) = segments.map Segment.text := by
  rw [written, Text.segments_intercalate (by simpa using some), List.flatMap_map]
  induction all with
  | nil => rfl
  | @cons segment member segments members denotes rest ih =>
      by_cases last : segments = []
      · subst last
        simp [Text.segments_of_not_mem denotes.noBar]
      · simp [Text.segments_of_not_mem denotes.noBar, ih last]

/-- A text is read as a schema if and only if it is the text of segments that stand for the
schema. -/
theorem parse_iff_denotes {registry : Registry} {text : String} {schema : Schema} :
    parse registry text = .ok schema ↔
      ∃ segments, written segments = text.toList ∧ Denotes registry segments schema := by
  have noBars : ∀ piece ∈ Text.segments bar text.toList, bar ∉ piece :=
    fun piece member => Text.not_mem_of_mem_segments member
  simp only [parse_eq_ok_iff, parts, forall₂_readTerm_iff noBars, denotes_iff]
  constructor
  · rintro ⟨members, ⟨segments, spelled, all⟩, rfl⟩
    have some : segments ≠ [] := by
      rintro rfl
      exact Text.segments_ne_nil bar text.toList spelled.symm
    refine ⟨segments, ?_, some, members, all, rfl⟩
    rw [written, spelled, Text.intercalate_segments]
  · rintro ⟨segments, spelled, some, members, all, rfl⟩
    refine ⟨members, ⟨segments, ?_, all⟩, rfl⟩
    rw [← spelled, segments_written some all]

end TypeSchema.Schema
