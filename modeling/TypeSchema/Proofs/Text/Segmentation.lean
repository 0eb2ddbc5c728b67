import TypeSchema.Proofs.Text.Trimming
import TypeSchema.Text

/-!
# Segments and brackets

Cutting at a separator and joining with it are inverse to each other, segments of a joined
text are the segments of the parts in turn, and the blanks at the ends of a text change
nothing in its segments once these are trimmed.
-/

namespace TypeSchema.Text

variable {separator : Char}

private theorem consToFirst_eq_modifyHead (c : Char) {pieces : List (List Char)}
    (some : pieces ≠ []) : consToFirst c pieces = pieces.modifyHead (List.cons c) := by
  cases pieces with
  | nil => exact (some rfl).elim
  | cons first others => rfl

theorem segments_eq_splitOn (separator : Char) (text : List Char) :
    segments separator text = text.splitOn separator := by
  induction text with
  | nil => rfl
  | cons c rest ih =>
      rw [segments, ih, List.splitOn_cons_eq_if_modifyHead,
        consToFirst_eq_modifyHead c (List.splitOn_ne_nil separator rest)]
      simp only [beq_iff_eq]

theorem segments_ne_nil (separator : Char) (text : List Char) :
    segments separator text ≠ [] := by
  rw [segments_eq_splitOn]
  exact List.splitOn_ne_nil separator text

theorem segments_of_not_mem {text : List Char} (absent : separator ∉ text) :
    segments separator text = [text] := by
  rw [segments_eq_splitOn]
  exact List.splitOn_eq_singleton absent

theorem intercalate_segments (text : List Char) :
    [separator].intercalate (segments separator text) = text := by
  rw [segments_eq_splitOn]
  exact List.intercalate_splitOn separator

theorem segments_append_separator (left right : List Char) :
    segments separator (left ++ separator :: right) =
      segments separator left ++ segments separator right := by
  simp only [segments_eq_splitOn]
  exact List.splitOn_append_cons_self left right

/-- The segments of texts that are joined with the separator. -/
theorem segments_intercalate {texts : List (List Char)} (some : texts ≠ []) :
    segments separator ([separator].intercalate texts) =
      texts.flatMap (segments separator) := by
  induction texts with
  | nil => exact (some rfl).elim
  | cons text rest ih =>
      by_cases last : rest = []
      · subst last
        simp
      · rw [List.intercalate_cons_of_ne_nil last, List.append_assoc, List.singleton_append,
          segments_append_separator, ih last, List.flatMap_cons]

theorem not_mem_of_mem_segments {text part : List Char}
    (member : part ∈ segments separator text) : separator ∉ part := by
  induction text generalizing part with
  | nil =>
      have empty : part = [] := by simpa [segments] using member
      simp [empty]
  | cons c rest ih =>
      by_cases same : c = separator
      · rw [segments, if_pos same] at member
        rcases List.mem_cons.mp member with rfl | later
        · simp
        · exact ih later
      · rw [segments, if_neg same] at member
        cases pieces : segments separator rest with
        | nil => exact (segments_ne_nil separator rest pieces).elim
        | cons first others =>
            rw [pieces] at member ih
            rcases List.mem_cons.mp member with rfl | later
            · have absent := ih List.mem_cons_self
              simp [Ne.symm same, absent]
            · exact ih (List.mem_cons_of_mem _ later)

/-- Several segments mean that there is a separator. -/
theorem two_le_length_segments_iff {text : List Char} :
    2 ≤ (segments separator text).length ↔ separator ∈ text := by
  constructor
  · intro several
    by_contra absent
    simp [segments_of_not_mem absent] at several
  · intro member
    obtain ⟨left, right, rfl⟩ := List.append_of_mem member
    have leftSome := List.length_pos_iff.mpr (segments_ne_nil separator left)
    have rightSome := List.length_pos_iff.mpr (segments_ne_nil separator right)
    rw [segments_append_separator, List.length_append]
    omega

/-- The last segment of a text runs on into the first one of the text behind it. -/
theorem segments_append (separator : Char) (left right : List Char) :
    ∃ front last first others,
      segments separator left = front ++ [last] ∧
      segments separator right = first :: others ∧
      segments separator (left ++ right) = front ++ (last ++ first) :: others := by
  induction left with
  | nil =>
      obtain ⟨first, others, cut⟩ := List.exists_cons_of_ne_nil
        (segments_ne_nil separator right)
      exact ⟨[], [], first, others, rfl, cut, cut⟩
  | cons c rest ih =>
      obtain ⟨front, last, first, others, restCut, rightCut, wholeCut⟩ := ih
      by_cases same : c = separator
      · refine ⟨[] :: front, last, first, others, ?_, rightCut, ?_⟩
        · simp [segments, same, restCut]
        · simp [segments, same, wholeCut]
      · -- The character joins the first piece of the rest, which may be its last as well.
        cases front with
        | nil =>
            refine ⟨[], c :: last, first, others, ?_, rightCut, ?_⟩
            · simp [segments, same, restCut, consToFirst]
            · simp [segments, same, wholeCut, consToFirst]
        | cons piece pieces =>
            refine ⟨(c :: piece) :: pieces, last, first, others, ?_, rightCut, ?_⟩
            · simp [segments, same, restCut, consToFirst]
            · simp [segments, same, wholeCut, consToFirst]

theorem AllBlank.not_mem {text : List Char} (blank : AllBlank text)
    (visible : isBlank separator = false) : separator ∉ text := by
  intro member
  simp [blank separator member] at visible

private theorem map_trim_segments_prepend {before : List Char} (text : List Char)
    (visible : isBlank separator = false) (blank : AllBlank before) :
    (segments separator (before ++ text)).map trim = (segments separator text).map trim := by
  obtain ⟨front, last, first, others, beforeCut, textCut, wholeCut⟩ :=
    segments_append separator before text
  rw [segments_of_not_mem (blank.not_mem visible)] at beforeCut
  obtain ⟨rfl, rfl⟩ : front = [] ∧ last = before := by
    cases front with
    | nil => simpa using beforeCut.symm
    | cons piece pieces => simp at beforeCut
  have sameFirst : trim (last ++ first) = trim first := by
    simpa using trim_append_append first blank AllBlank.nil
  simp [textCut, wholeCut, sameFirst]

private theorem map_trim_segments_append {after : List Char} (text : List Char)
    (visible : isBlank separator = false) (blank : AllBlank after) :
    (segments separator (text ++ after)).map trim = (segments separator text).map trim := by
  obtain ⟨front, last, first, others, textCut, afterCut, wholeCut⟩ :=
    segments_append separator text after
  rw [segments_of_not_mem (blank.not_mem visible)] at afterCut
  obtain ⟨rfl, rfl⟩ : first = after ∧ others = [] := by
    simpa [eq_comm] using afterCut
  have sameLast : trim (last ++ first) = trim last := by
    simpa using trim_append_append last AllBlank.nil blank
  simp [textCut, wholeCut, sameLast]

/-- Blanks at the ends of a text do not show in its trimmed segments. -/
theorem map_trim_segments_trim (text : List Char) (visible : isBlank separator = false) :
    (segments separator (trim text)).map trim = (segments separator text).map trim := by
  obtain ⟨before, after, blankBefore, blankAfter, cut⟩ := trim_cut text
  calc
    (segments separator (trim text)).map trim
        = (segments separator (before ++ trim text)).map trim :=
          (map_trim_segments_prepend (trim text) visible blankBefore).symm
    _ = (segments separator (before ++ trim text ++ after)).map trim :=
          (map_trim_segments_append (before ++ trim text) visible blankAfter).symm
    _ = (segments separator text).map trim := by rw [cut]

theorem beforeBrackets?_eq_some_iff {text front : List Char} :
    beforeBrackets? text = some front ↔ text = front ++ ['[', ']'] := by
  unfold beforeBrackets?
  constructor
  · intro found
    split at found
    · rename_i rest reversed
      cases found
      rw [← List.reverse_reverse text, reversed]
      simp
    · cases found
  · rintro rfl
    simp

theorem beforeBrackets?_eq_none_iff {text : List Char} :
    beforeBrackets? text = none ↔ ¬ ['[', ']'] <:+ text := by
  rw [← not_iff_not, not_not, ← ne_eq, Option.ne_none_iff_exists']
  constructor
  · rintro ⟨front, found⟩
    exact ⟨front, (beforeBrackets?_eq_some_iff.mp found).symm⟩
  · rintro ⟨front, cut⟩
    exact ⟨front, beforeBrackets?_eq_some_iff.mpr cut.symm⟩

end TypeSchema.Text
