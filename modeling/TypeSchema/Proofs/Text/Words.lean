import TypeSchema.Proofs.Text.Segmentation

/-!
# Words of a text

A text is its words with spaces between them.  When texts are joined by a word with spaces
around it, the words of the result are those of the texts with this word between them.  So
texts in which the word does not occur can be told apart again.
-/

namespace TypeSchema.Text

/-- The pieces of a text between its spaces. -/
def words (text : List Char) : List (List Char) :=
  segments ' ' text

theorem words_injective : Function.Injective words :=
  Function.LeftInverse.injective (g := [' '].intercalate) intercalate_segments

theorem words_append_space (left right : List Char) :
    words (left ++ ' ' :: right) = words left ++ words right :=
  segments_append_separator left right

variable {word : List Char}

theorem words_of_word (whole : ' ' ∉ word) : words word = [word] :=
  segments_of_not_mem whole

/-- The words of texts that are joined by a word. -/
theorem words_intercalate (whole : ' ' ∉ word) {texts : List (List Char)} (some : texts ≠ []) :
    words ((' ' :: word ++ [' ']).intercalate texts) = [word].intercalate (texts.map words) := by
  induction texts with
  | nil => exact (some rfl).elim
  | cons text rest ih =>
      by_cases last : rest = []
      · subst last
        simp
      · have lastWords : rest.map words ≠ [] := mt List.map_eq_nil_iff.mp last
        calc
          words ((' ' :: word ++ [' ']).intercalate (text :: rest))
              = words (text ++ ' ' :: (word ++ ' ' ::
                  (' ' :: word ++ [' ']).intercalate rest)) := by
                rw [List.intercalate_cons_of_ne_nil last]
                simp
          _ = words text ++ ([word] ++ [word].intercalate (rest.map words)) := by
                rw [words_append_space, words_append_space, words_of_word whole, ih last]
          _ = [word].intercalate ((text :: rest).map words) := by
                rw [List.map_cons, List.intercalate_cons_of_ne_nil lastWords, List.append_assoc]

/-- Texts in which a word does not occur are determined by what they are when joined by it. -/
theorem intercalate_word_injective (whole : ' ' ∉ word) {left right : List (List Char)}
    (leftSome : left ≠ []) (rightSome : right ≠ [])
    (leftFree : ∀ text ∈ left, word ∉ words text)
    (rightFree : ∀ text ∈ right, word ∉ words text)
    (same : (' ' :: word ++ [' ']).intercalate left =
      (' ' :: word ++ [' ']).intercalate right) : left = right := by
  have cut : ∀ texts : List (List Char), texts ≠ [] → (∀ text ∈ texts, word ∉ words text) →
      (words ((' ' :: word ++ [' ']).intercalate texts)).splitOn word = texts.map words := by
    intro texts some free
    rw [words_intercalate whole some]
    apply List.splitOn_intercalate
    · exact List.forall_mem_map.mpr free
    · exact mt List.map_eq_nil_iff.mp some
  apply List.map_injective_iff.mpr words_injective
  rw [← cut left leftSome leftFree, same, cut right rightSome rightFree]

theorem not_mem_intercalate {other : List Char} (different : other ≠ word)
    {lists : List (List (List Char))} (absent : ∀ list ∈ lists, other ∉ list) :
    other ∉ [word].intercalate lists := by
  induction lists with
  | nil => simp
  | cons list rest ih =>
      obtain ⟨absentHere, absentInRest⟩ := List.forall_mem_cons.mp absent
      by_cases last : rest = []
      · subst last
        simpa using absentHere
      · rw [List.intercalate_cons_of_ne_nil last]
        simp [absentHere, different, ih absentInRest]

/-- What stands behind the last occurrence of a word is determined. -/
theorem behind_last_injective {before after before' after' : List (List Char)}
    (last : word ∉ after) (last' : word ∉ after')
    (same : before ++ word :: after = before' ++ word :: after') : after = after' := by
  have cut : ∀ front rest : List (List Char), word ∉ rest →
      ((front ++ word :: rest).splitOn word).getLast? = some rest := by
    intro front rest absent
    rw [List.splitOn_append_cons_self, List.splitOn_eq_singleton absent]
    simp
  have found := cut before after last
  rw [same, cut before' after' last'] at found
  exact (Option.some.inj found).symm

end TypeSchema.Text
