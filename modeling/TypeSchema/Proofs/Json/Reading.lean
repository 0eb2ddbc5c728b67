import Mathlib.Tactic.IntervalCases
import Mathlib.Tactic.SplitIfs
import TypeSchema.Proofs.Json.Spelling

/-!
# Reading what spells a value

The machine that reads is followed through one token after another.  `Passes` says where a
text takes it, and `Holds` that it has read a value, which for a numeral shows only at the
character behind it.  Whatever spells a value makes the machine hold that value, as long as
not too many arrays and objects are open.
-/

namespace TypeSchema.Json

mutual

/-- How deeply arrays and objects are nested in the value. -/
def depth : Json → Nat
  | .array elements => depthAll elements + 1
  | .object members => depthMembers members + 1
  | _ => 0

def depthAll : List Json → Nat
  | [] => 0
  | value :: rest => max (depth value) (depthAll rest)

def depthMembers : List (String × Json) → Nat
  | [] => 0
  | (_, value) :: rest => max (depth value) (depthMembers rest)

end

theorem depthAll_le_iff {values : List Json} {bound : Nat} :
    depthAll values ≤ bound ↔ ∀ value ∈ values, value.depth ≤ bound := by
  induction values with
  | nil => simp [depthAll]
  | cons value rest ih => simp [depthAll, ih]

namespace Reader

/-- The text takes the machine from one state to another. -/
inductive Passes : Reader → List Char → Reader → Prop where
  | nil (reader : Reader) : Passes reader [] reader
  | cons {reader next later : Reader} {c : Char} {rest : List Char} :
      reader.step c = .ok next → Passes next rest later → Passes reader (c :: rest) later

namespace Passes

variable {reader middle later : Reader} {left right : List Char} {c : Char}

theorem one (taken : reader.step c = .ok later) : Passes reader [c] later :=
  .cons taken (.nil later)

theorem append (first : Passes reader left middle) (second : Passes middle right later) :
    Passes reader (left ++ right) later := by
  induction first with
  | nil => exact second
  | cons taken _ ih => exact .cons taken (ih second)

theorem run_eq (passes : Passes reader left later) (position : Position) (rest : List Char) :
    reader.run position (left ++ rest) = later.run (left.foldl Position.advance position) rest := by
  induction passes generalizing position with
  | nil => rfl
  | cons taken _ ih =>
      rw [List.cons_append, run, taken]
      exact ih _

theorem spaces {gap : List Char} (space : AllSpace gap)
    (stays : ∀ c, isSpace c = true → reader.step c = .ok reader) : Passes reader gap reader := by
  induction gap with
  | nil => exact .nil reader
  | cons c rest ih =>
      refine .cons (stays c (space c List.mem_cons_self)) (ih ?_)
      intro later member
      exact space later (List.mem_cons_of_mem c member)

end Passes

/-- A character that ends a numeral. -/
structure EndsNumeral (c : Char) : Prop where
  noDigit : digit? c = none
  noPoint : c ≠ '.'
  noMark : ¬ (c = 'e' ∨ c = 'E')

/-- The machine has read a value inside the open arrays and objects. -/
structure Holds (reader : Reader) (value : Json) (outer : List Frame) : Prop where
  step : ∀ c, EndsNumeral c → reader.step c = stepDone value outer c
  finish : reader.finish = closed value outer

/-- The text makes the machine hold a value. -/
def Reads (reader : Reader) (text : List Char) (value : Json) (outer : List Frame) : Prop :=
  ∃ later, Passes reader text later ∧ Holds later value outer

theorem Passes.reads {reader middle : Reader} {left right : List Char} {value : Json}
    {outer : List Frame} (passes : Passes reader left middle)
    (reads : Reads middle right value outer) : Reads reader (left ++ right) value outer := by
  obtain ⟨later, passesRight, holds⟩ := reads
  exact ⟨later, passes.append passesRight, holds⟩

theorem holds_done (value : Json) (outer : List Frame) :
    Holds ⟨.done value, outer⟩ value outer :=
  ⟨fun _ _ => rfl, rfl⟩

theorem endsNumeral_of_isSpace {c : Char} (space : isSpace c = true) : EndsNumeral c := by
  have cases : c = ' ' ∨ c = '\t' ∨ c = '\n' ∨ c = '\r' := by
    simpa [isSpace, or_assoc] using space
  rcases cases with rfl | rfl | rfl | rfl <;> constructor <;> decide

theorem Holds.spaces {reader : Reader} {value : Json} {outer : List Frame} {gap : List Char}
    (holds : Holds reader value outer) (space : AllSpace gap) : Reads reader gap value outer := by
  cases gap with
  | nil => exact ⟨reader, .nil reader, holds⟩
  | cons c rest =>
      have isSpace := space c List.mem_cons_self
      have done : reader.step c = .ok ⟨.done value, outer⟩ :=
        (holds.step c (endsNumeral_of_isSpace isSpace)).trans (if_pos isSpace)
      have restSpace : AllSpace rest := fun later member =>
        space later (List.mem_cons_of_mem c member)
      refine ⟨_, .cons done (Passes.spaces restSpace ?_), holds_done value outer⟩
      intro later laterSpace
      exact if_pos laterSpace

/-- A state for every place in a string, which follows the reading of the string. -/
def FollowsString (state : StringReading → Reader) : Prop :=
  ∀ reading c later, reading.step c = .goOn later → (state reading).step c = .ok (state later)

theorem followsString_value (outer : List Frame) :
    FollowsString fun reading => ⟨.string reading, outer⟩ := by
  intro reading c later taken
  simp only [step, taken]

theorem followsString_key (members : List (String × Json)) (outer : List Frame) :
    FollowsString fun reading => ⟨.key members reading, outer⟩ := by
  intro reading c later taken
  simp only [step, taken]

/-- What stands for a character in a string: an escape by a letter or by a number, or the
character itself. -/
inductive Escapes (c : Char) : List Char → Prop where
  | letter {letter : Char} :
      letter ≠ 'u' → unescape? letter = some c → Escapes c ['\\', letter]
  | number : c.toNat < 0x20 →
      Escapes c ['\\', 'u', '0', '0', hexDigit (c.toNat / 16), hexDigit (c.toNat % 16)]
  | plain : c ≠ '"' → c ≠ '\\' → ¬ c.toNat < 0x20 → Escapes c [c]

theorem escapes_escapeChar (c : Char) : Escapes c (escapeChar c) := by
  unfold escapeChar
  split_ifs with quote backslash backspace formFeed lineFeed carriageReturn tab low
  · subst quote
    exact .letter (by decide) rfl
  · subst backslash
    exact .letter (by decide) rfl
  · subst backspace
    exact .letter (by decide) rfl
  · subst formFeed
    exact .letter (by decide) rfl
  · subst lineFeed
    exact .letter (by decide) rfl
  · subst carriageReturn
    exact .letter (by decide) rfl
  · subst tab
    exact .letter (by decide) rfl
  · exact .number low
  · exact .plain quote backslash low

theorem hexDigit?_hexDigit : ∀ digit < 16, hexDigit? (hexDigit digit) = some digit := by
  decide

theorem stepHex_hexDigit (reversed : List Char) (bytesLeft number : Nat) {digit : Nat}
    (more : ¬ bytesLeft ≤ 1) (small : digit < 16) :
    StringReading.step ⟨.hex bytesLeft (some number) none, reversed⟩ (hexDigit digit) =
      .goOn ⟨.hex (bytesLeft - 1) (some (number * 16 + digit)) none, reversed⟩ := by
  simp only [StringReading.step, StringReading.stepHex, hexDigit?_hexDigit digit small,
    if_neg more, Option.map_some]

theorem stepHex_lastDigit (reversed : List Char) (number : Nat) {digit : Nat}
    (small : digit < 16) (low : number * 16 + digit < 0xD800) :
    StringReading.step ⟨.hex 1 (some number) none, reversed⟩ (hexDigit digit) =
      .goOn ⟨.plain, Char.ofNat (number * 16 + digit) :: reversed⟩ := by
  -- The number is below both halves of surrogate pairs.
  have notFirst : isFirstHalf (number * 16 + digit) = false := by
    simp only [isFirstHalf, Bool.and_eq_false_iff, decide_eq_false_iff_not]
    omega
  have notSecond : isSecondHalf (number * 16 + digit) = false := by
    simp only [isSecondHalf, Bool.and_eq_false_iff, decide_eq_false_iff_not]
    omega
  simp [StringReading.step, StringReading.stepHex, hexDigit?_hexDigit digit small,
    StringReading.closeHex, notFirst, notSecond, StringReading.add]

section Strings

variable {state : StringReading → Reader} (follows : FollowsString state)

include follows

theorem passes_escape {c : Char} {text : List Char} (escapes : Escapes c text)
    (reversed : List Char) :
    Passes (state ⟨.plain, reversed⟩) text (state ⟨.plain, c :: reversed⟩) := by
  cases escapes with
  | @letter letter notHex unescaped =>
      have read : StringReading.step ⟨.escape, reversed⟩ letter =
          .goOn ⟨.plain, c :: reversed⟩ := by
        simp only [StringReading.step, if_neg notHex, unescaped, StringReading.add]
      exact .cons (follows _ _ ⟨.escape, reversed⟩ rfl) (.one (follows _ _ _ read))
  | number low =>
      have upper := stepHex_hexDigit reversed 2 0 (by decide)
        (show c.toNat / 16 < 16 by omega)
      have lower := stepHex_lastDigit reversed (0 * 16 + c.toNat / 16)
        (show c.toNat % 16 < 16 by omega) (by omega)
      have whole : (0 * 16 + c.toNat / 16) * 16 + c.toNat % 16 = c.toNat := by omega
      rw [whole, Char.ofNat_toNat] at lower
      exact .cons (follows _ _ ⟨.escape, reversed⟩ rfl)
        (.cons (follows _ _ ⟨.hex 4 (some 0) none, reversed⟩ rfl)
          (.cons (follows _ _ ⟨.hex 3 (some 0) none, reversed⟩ rfl)
            (.cons (follows _ _ ⟨.hex 2 (some 0) none, reversed⟩ rfl)
              (.cons (follows _ _ _ upper) (.one (follows _ _ _ lower))))))
  | plain noQuote noBackslash printable =>
      have read : StringReading.step ⟨.plain, reversed⟩ c = .goOn ⟨.plain, c :: reversed⟩ := by
        simp only [StringReading.step, if_neg noQuote, if_neg noBackslash, if_neg printable,
          StringReading.add]
      exact .one (follows _ _ _ read)

theorem passes_escaped (reversed text : List Char) :
    Passes (state ⟨.plain, reversed⟩) (text.flatMap escapeChar)
      (state ⟨.plain, text.reverse ++ reversed⟩) := by
  induction text generalizing reversed with
  | nil => exact .nil _
  | cons c rest ih =>
      rw [List.flatMap_cons, List.reverse_cons, List.append_assoc]
      exact (passes_escape follows (escapes_escapeChar c) reversed).append (ih (c :: reversed))

end Strings

theorem passes_string (text : String) (place : ValuePlace) (outer : List Frame) :
    Passes ⟨.value place, outer⟩ (quoted text) ⟨.done (.string text), outer⟩ := by
  have inside := passes_escaped (followsString_value outer) [] text.toList
  have closing : step ⟨.string ⟨.plain, text.toList.reverse ++ []⟩, outer⟩ '"' =
      .ok ⟨.done (.string text), outer⟩ := by
    simp [step, StringReading.step, StringReading.text]
  rw [quoted]
  exact .cons rfl (inside.append (.one closing))

theorem passes_key (key : String) (members : List (String × Json)) (isFirst : Bool)
    (outer : List Frame) :
    Passes ⟨.keyStart members isFirst, outer⟩ (quoted key) ⟨.colon members key, outer⟩ := by
  have inside := passes_escaped (followsString_key members outer) [] key.toList
  have closing : step ⟨.key members ⟨.plain, key.toList.reverse ++ []⟩, outer⟩ '"' =
      .ok ⟨.colon members key, outer⟩ := by
    simp [step, StringReading.step, StringReading.text]
  rw [quoted]
  exact .cons rfl (inside.append (.one closing))

theorem digit?_digitChar : ∀ digit < 10, digit? (Nat.digitChar digit) = some digit := by
  decide

theorem step_digit (negative : Bool) (significand : Nat) (outer : List Frame) {digit : Nat}
    (small : digit < 10) (fits : significand * 10 + digit < 2 ^ 64) :
    step ⟨.numeral (.whole negative significand), outer⟩ (Nat.digitChar digit) =
      .ok ⟨.numeral (.whole negative (significand * 10 + digit)), outer⟩ := by
  simp only [step, Numeral.step, digit?_digitChar digit small, appendDigit?, if_pos fits]

theorem passes_digits {reader : Reader} {negative : Bool} {outer : List Frame}
    (starts : ∀ digit, 0 < digit → digit < 10 →
      reader.step (Nat.digitChar digit) = .ok ⟨.numeral (.whole negative digit), outer⟩)
    {number : Nat} (positive : 0 < number) (fits : number < 2 ^ 64) :
    Passes reader (Nat.toDigits 10 number) ⟨.numeral (.whole negative number), outer⟩ := by
  -- All digits but the last are those of the quotient.
  induction number using Nat.strongRecOn with
  | ind number ih =>
      by_cases single : number < 10
      · rw [Nat.toDigits_of_lt_base single]
        exact .one (starts number positive single)
      · rw [Nat.toDigits_of_base_le (by decide) (by omega)]
        have front := ih (number / 10) (by omega) (by omega) (by omega)
        have last := step_digit negative (number / 10) outer
          (show number % 10 < 10 by omega) (by omega)
        rw [Nat.div_add_mod'] at last
        exact front.append (.one last)

theorem holds_numeral {reading : Numeral} {number : Number} (outer : List Frame)
    (ends : ∀ c, EndsNumeral c → reading.step c = .complete)
    (value : reading.value = .ok number) :
    Holds ⟨.numeral reading, outer⟩ (.number number) outer := by
  constructor
  · intro c behind
    simp only [step, ends c behind, value]
  · simp only [finish, value]

theorem holds_whole {value : Int} (fits : FitsWord value) {negative : Bool} {significand : Nat}
    (same : (if negative then -(significand : Int) else significand) = value)
    (outer : List Frame) :
    Holds ⟨.numeral (.whole negative significand), outer⟩
      (.number (.integer value fits)) outer := by
  apply holds_numeral
  · intro c behind
    simp only [Numeral.step, behind.noDigit, Numeral.afterWhole, if_neg behind.noPoint,
      if_neg behind.noMark]
  · simp only [Numeral.value, same, Number.ofInt?, dif_pos fits]

theorem reads_integer (value : Int) (fits : FitsWord value) (place : ValuePlace)
    (outer : List Frame) :
    Reads ⟨.value place, outer⟩ (integerText value) (.number (.integer value fits)) outer := by
  have bounds : -2 ^ 63 ≤ value ∧ value < 2 ^ 64 := fits
  rw [integerText, Decimal.digitChars]
  rcases Int.lt_trichotomy value 0 with below | rfl | above
  · rw [if_pos below]
    refine ⟨⟨.numeral (.whole true value.natAbs), outer⟩, .cons rfl (passes_digits ?_ ?_ ?_),
      holds_whole fits ?_ outer⟩
    · intro digit positive small
      interval_cases digit <;> rfl
    · omega
    · omega
    · rw [if_pos rfl]
      omega
  · refine ⟨⟨.numeral (.zero false), outer⟩, .one rfl, holds_numeral outer ?_ rfl⟩
    intro c behind
    simp only [Numeral.step, behind.noDigit, Numeral.afterWhole, if_neg behind.noPoint,
      if_neg behind.noMark]
  · rw [if_neg (by omega)]
    refine ⟨⟨.numeral (.whole false value.natAbs), outer⟩, passes_digits ?_ ?_ ?_,
      holds_whole fits ?_ outer⟩
    · intro digit positive small
      interval_cases digit <;> rfl
    · omega
    · omega
    · rw [if_neg (by decide)]
      omega

theorem passes_valueSpaces (place : ValuePlace) (outer : List Frame) {gap : List Char}
    (space : AllSpace gap) : Passes ⟨.value place, outer⟩ gap ⟨.value place, outer⟩ :=
  .spaces space fun _ isSpace => if_pos isSpace

theorem passes_keySpaces (members : List (String × Json)) (isFirst : Bool)
    (outer : List Frame) {gap : List Char} (space : AllSpace gap) :
    Passes ⟨.keyStart members isFirst, outer⟩ gap ⟨.keyStart members isFirst, outer⟩ :=
  .spaces space fun _ isSpace => if_pos isSpace

theorem passes_keyStart {key : String} {text : List Char} (spells : SpellsKey key text)
    (members : List (String × Json)) (isFirst : Bool) (outer : List Frame) :
    Passes ⟨.keyStart members isFirst, outer⟩ text
      ⟨.value .required, .object members key :: outer⟩ := by
  cases spells with
  | @intro before after spaceBefore spaceAfter =>
      have named := passes_key key members isFirst outer
      have beforeColon : Passes ⟨.colon members key, outer⟩ before ⟨.colon members key, outer⟩ :=
        .spaces spaceBefore fun _ isSpace => if_pos isSpace
      have colon : step ⟨.colon members key, outer⟩ ':' =
          .ok ⟨.value .required, .object members key :: outer⟩ := rfl
      exact (named.append beforeColon).append
        (.cons colon (passes_valueSpaces .required (.object members key :: outer) spaceAfter))

theorem step_bracket {outer : List Frame} (room : outer.length < maxDepth) (place : ValuePlace) :
    step ⟨.value place, outer⟩ '[' = .ok ⟨.value .firstElement, .array [] :: outer⟩ :=
  if_pos room

theorem step_brace {outer : List Frame} (room : outer.length < maxDepth) (place : ValuePlace) :
    step ⟨.value place, outer⟩ '\x7b' = .ok ⟨.keyStart [] true, outer⟩ :=
  if_pos room

theorem insert_of_new {key : String} {value : Json} {members others : List (String × Json)}
    (distinct : Entries.Distinct (members ++ (key, value) :: others)) :
    Entries.insert key value members = members ++ [(key, value)] := by
  induction members with
  | nil => rfl
  | cons member rest ih =>
      obtain ⟨memberNew, restDistinct⟩ := List.nodup_cons.mp distinct
      have different : ¬ member.1 = key := by
        intro same
        exact memberNew (by simp [same])
      rw [Entries.insert, if_neg different, ih restDistinct]
      rfl

mutual

/-- What spells a value makes the machine hold it. -/
theorem reads_of_spells {text : List Char} (value : Json) (spells : Spells text value)
    (place : ValuePlace) (outer : List Frame) (room : outer.length + depth value ≤ maxDepth) :
    Reads ⟨.value place, outer⟩ text value outer := by
  cases spells with
  | null => exact ⟨_, .cons rfl (.cons rfl (.cons rfl (.one rfl))), holds_done _ outer⟩
  | true => exact ⟨_, .cons rfl (.cons rfl (.cons rfl (.one rfl))), holds_done _ outer⟩
  | false =>
      exact ⟨_, .cons rfl (.cons rfl (.cons rfl (.cons rfl (.one rfl)))), holds_done _ outer⟩
  | integer value fits => exact reads_integer value fits place outer
  | string text => exact ⟨_, passes_string text place outer, holds_done _ outer⟩
  | @emptyArray gap space =>
      rw [depth, depthAll] at room
      have opened := step_bracket (show outer.length < maxDepth by omega) place
      have inside := passes_valueSpaces .firstElement (.array [] :: outer) space
      exact ⟨_, .cons opened (inside.append (.one rfl)), holds_done _ outer⟩
  | @array gap text rest first others space spellsFirst spellsOthers =>
      rw [depth, depthAll] at room
      have opened := step_bracket (show outer.length < maxDepth by omega) place
      have inside := passes_valueSpaces .firstElement (.array [] :: outer) space
      obtain ⟨behindFirst, passesFirst, holdsFirst⟩ := reads_of_spells first spellsFirst
        .firstElement (.array [] :: outer) (by rw [List.length_cons]; omega)
      have behind := reads_of_spellsElements others spellsOthers holdsFirst (by omega)
      exact (Passes.cons opened (inside.append passesFirst)).reads behind
  | @emptyObject gap space =>
      rw [depth, depthMembers] at room
      have opened := step_brace (show outer.length < maxDepth by omega) place
      have inside := passes_keySpaces [] true outer space
      exact ⟨_, .cons opened (inside.append (.one rfl)), holds_done _ outer⟩
  | @object gap start text rest key value others space spellsKey spellsValue spellsOthers
      distinct =>
      rw [depth, depthMembers] at room
      have opened := step_brace (show outer.length < maxDepth by omega) place
      have inside := passes_keySpaces [] true outer space
      have named := passes_keyStart spellsKey [] true outer
      obtain ⟨behindValue, passesValue, holdsValue⟩ := reads_of_spells value spellsValue
        .required (.object [] key :: outer) (by rw [List.length_cons]; omega)
      have behind := reads_of_spellsMembers others spellsOthers holdsValue distinct (by omega)
      exact (Passes.cons opened ((inside.append named).append passesValue)).reads behind

theorem reads_of_spellsElements {text : List Char} (elements : List Json)
    (spells : SpellsElements text elements) {reader : Reader} {result : Json}
    {reversed : List Json} {outer : List Frame}
    (holds : Holds reader result (.array reversed :: outer))
    (room : outer.length + 1 + depthAll elements ≤ maxDepth) :
    Reads reader text (.array ((result :: reversed).reverse ++ elements)) outer := by
  cases spells with
  | @close gap space =>
      obtain ⟨behind, passes, held⟩ := holds.spaces space
      have closing := held.step ']' (by constructor <;> decide)
      rw [List.append_nil]
      exact ⟨_, passes.append (.one closing), holds_done _ outer⟩
  | @next before after text rest value others spaceBefore spaceAfter spellsValue spellsOthers =>
      rw [depthAll] at room
      obtain ⟨behind, passes, held⟩ := holds.spaces spaceBefore
      have comma := held.step ',' (by constructor <;> decide)
      have spaces := passes_valueSpaces .nextElement (.array (result :: reversed) :: outer)
        spaceAfter
      obtain ⟨behindValue, passesValue, holdsValue⟩ := reads_of_spells value spellsValue
        .nextElement (.array (result :: reversed) :: outer) (by rw [List.length_cons]; omega)
      have tail := reads_of_spellsElements others spellsOthers holdsValue (by omega)
      rw [List.reverse_cons, List.append_assoc, List.singleton_append] at tail
      exact ((passes.append (.cons comma spaces)).append passesValue).reads tail

theorem reads_of_spellsMembers {text : List Char} (members : List (String × Json))
    (spells : SpellsMembers text members) {reader : Reader} {key : String} {result : Json}
    {earlier : List (String × Json)} {outer : List Frame}
    (holds : Holds reader result (.object earlier key :: outer))
    (distinct : Entries.Distinct (earlier ++ (key, result) :: members))
    (room : outer.length + 1 + depthMembers members ≤ maxDepth) :
    Reads reader text (.object (earlier ++ (key, result) :: members)) outer := by
  -- The key of the member that is held is new, so the member goes behind the earlier ones.
  have inserted := insert_of_new distinct
  cases spells with
  | @close gap space =>
      obtain ⟨behind, passes, held⟩ := holds.spaces space
      have closing : behind.step '\x7d' =
          .ok ⟨.done (.object (Entries.insert key result earlier)), outer⟩ :=
        held.step '\x7d' (by constructor <;> decide)
      rw [inserted] at closing
      exact ⟨_, passes.append (.one closing), holds_done _ outer⟩
  | @next before after start text rest nextKey value others spaceBefore spaceAfter spellsKey
      spellsValue spellsOthers =>
      rw [depthMembers] at room
      obtain ⟨behind, passes, held⟩ := holds.spaces spaceBefore
      have comma : behind.step ',' =
          .ok ⟨.keyStart (Entries.insert key result earlier) false, outer⟩ :=
        held.step ',' (by constructor <;> decide)
      rw [inserted] at comma
      have spaces := passes_keySpaces (earlier ++ [(key, result)]) false outer spaceAfter
      have named := passes_keyStart spellsKey (earlier ++ [(key, result)]) false outer
      obtain ⟨behindValue, passesValue, holdsValue⟩ := reads_of_spells value spellsValue
        .required (.object (earlier ++ [(key, result)]) nextKey :: outer)
        (by rw [List.length_cons]; omega)
      have regrouped : earlier ++ (key, result) :: (nextKey, value) :: others =
          earlier ++ [(key, result)] ++ (nextKey, value) :: others := by simp
      rw [regrouped] at distinct ⊢
      have tail := reads_of_spellsMembers others spellsOthers holdsValue distinct (by omega)
      exact (((passes.append (.cons comma spaces)).append named).append passesValue).reads tail

end

end Reader

/-- A text that spells a value is read as that value, also with spaces behind it. -/
theorem read_of_spells {text gap : List Char} {value : Json} (spells : Spells text value)
    (space : AllSpace gap) (shallow : value.depth ≤ maxDepth) :
    read (.ofList (text ++ gap)) = .ok value := by
  have room : ([] : List Frame).length + value.depth ≤ maxDepth := by simpa using shallow
  obtain ⟨behind, passes, holds⟩ := Reader.reads_of_spells value spells .required [] room
  obtain ⟨last, passesGap, held⟩ := holds.spaces space
  have ended := (passes.append passesGap).run_eq .start []
  rw [List.append_nil, Reader.run, held.finish] at ended
  rw [read, String.toList_ofList]
  exact ended

variable {value : Json} (distinct : DistinctKeys value) (integral : Integral value)
  (shallow : value.depth ≤ maxDepth)

include distinct integral shallow

/-- A value that is written in either layout, with a line feed behind it, is read again. -/
theorem read_compact_line : read (value.compact ++ "\n") = .ok value := by
  have lineFeed : AllSpace ['\n'] := by simp [AllSpace, isSpace]
  have whole := read_of_spells (compactChars_spells value distinct integral) lineFeed shallow
  rwa [String.ofList_append] at whole

theorem read_indented_line : read (value.indented ++ "\n") = .ok value := by
  have lineFeed : AllSpace ['\n'] := by simp [AllSpace, isSpace]
  have whole := read_of_spells (indentedChars_spells 0 value distinct integral) lineFeed shallow
  rwa [String.ofList_append] at whole

end TypeSchema.Json
