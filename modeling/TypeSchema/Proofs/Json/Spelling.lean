import TypeSchema.Json.Reader
import TypeSchema.Json.Text

/-!
# Spellings of a value

A value is spelled by its tokens with spaces between them.  `Spells` fixes the tokens of a
value and leaves the spaces open, and says nothing about how a text is read.  Both layouts in
which values are written spell them.  The one token that is left out is a numeral with a
point or an exponent, so values with doubles in them have no spelling here.
-/

namespace TypeSchema.Json

def AllSpace (gap : List Char) : Prop :=
  ∀ c ∈ gap, isSpace c = true

inductive SpellsKey (key : String) : List Char → Prop where
  | intro {before after : List Char} : AllSpace before → AllSpace after →
      SpellsKey key (quoted key ++ before ++ ':' :: after)

mutual

/-- The text spells the value. -/
inductive Spells : List Char → Json → Prop where
  | null : Spells ['n', 'u', 'l', 'l'] .null
  | true : Spells ['t', 'r', 'u', 'e'] (.boolean true)
  | false : Spells ['f', 'a', 'l', 's', 'e'] (.boolean false)
  | integer (value : Int) (fits : FitsWord value) :
      Spells (integerText value) (.number (.integer value fits))
  | string (text : String) : Spells (quoted text) (.string text)
  | emptyArray {gap : List Char} : AllSpace gap → Spells ('[' :: gap ++ [']']) (.array [])
  | array {gap text rest : List Char} {first : Json} {others : List Json} :
      AllSpace gap → Spells text first → SpellsElements rest others →
      Spells ('[' :: gap ++ text ++ rest) (.array (first :: others))
  | emptyObject {gap : List Char} :
      AllSpace gap → Spells ('\x7b' :: gap ++ ['\x7d']) (.object [])
  | object {gap start text rest : List Char} {key : String} {value : Json}
      {others : List (String × Json)} :
      AllSpace gap → SpellsKey key start → Spells text value → SpellsMembers rest others →
      Entries.Distinct ((key, value) :: others) →
      Spells ('\x7b' :: gap ++ start ++ text ++ rest) (.object ((key, value) :: others))

/-- What stands behind an element of an array: the later ones, each behind its comma, and the
closing bracket. -/
inductive SpellsElements : List Char → List Json → Prop where
  | close {gap : List Char} : AllSpace gap → SpellsElements (gap ++ [']']) []
  | next {before after text rest : List Char} {value : Json} {others : List Json} :
      AllSpace before → AllSpace after → Spells text value → SpellsElements rest others →
      SpellsElements (before ++ ',' :: after ++ text ++ rest) (value :: others)

/-- What stands behind a member of an object: the later ones, each behind its comma, and the
closing brace. -/
inductive SpellsMembers : List Char → List (String × Json) → Prop where
  | close {gap : List Char} : AllSpace gap → SpellsMembers (gap ++ ['\x7d']) []
  | next {before after start text rest : List Char} {key : String} {value : Json}
      {others : List (String × Json)} :
      AllSpace before → AllSpace after → SpellsKey key start → Spells text value →
      SpellsMembers rest others →
      SpellsMembers (before ++ ',' :: after ++ start ++ text ++ rest) ((key, value) :: others)

end

mutual

/-- Every number in the value is an integer. -/
def Integral : Json → Prop
  | .number (.double _) => False
  | .array elements => IntegralAll elements
  | .object members => IntegralMembers members
  | _ => True

def IntegralAll : List Json → Prop
  | [] => True
  | value :: rest => Integral value ∧ IntegralAll rest

def IntegralMembers : List (String × Json) → Prop
  | [] => True
  | (_, value) :: rest => Integral value ∧ IntegralMembers rest

end

theorem distinctKeysAll_iff {values : List Json} :
    DistinctKeysAll values ↔ ∀ value ∈ values, value.DistinctKeys := by
  induction values with
  | nil => simp [DistinctKeysAll]
  | cons value rest ih => simp [DistinctKeysAll, ih]

theorem integralAll_iff {values : List Json} :
    IntegralAll values ↔ ∀ value ∈ values, value.Integral := by
  induction values with
  | nil => simp [IntegralAll]
  | cons value rest ih => simp [IntegralAll, ih]

theorem AllSpace.nil : AllSpace [] := by
  intro c member
  cases member

theorem allSpace_newline (level : Nat) : AllSpace (newline level) := by
  intro c member
  cases member with
  | head => rfl
  | tail _ later =>
      obtain rfl := List.eq_of_mem_replicate later
      rfl

theorem spellsKey_compact (key : String) : SpellsKey key (quoted key ++ [':']) := by
  have spelled : SpellsKey key (quoted key ++ [] ++ [':']) := .intro .nil .nil
  rwa [List.append_nil] at spelled

theorem spellsKey_indented (key : String) : SpellsKey key (quoted key ++ [':', ' ']) := by
  have space : AllSpace [' '] := by simp [AllSpace, isSpace]
  have spelled : SpellsKey key (quoted key ++ [] ++ [':', ' ']) := .intro .nil space
  rwa [List.append_nil] at spelled

mutual

theorem compactChars_spells (value : Json) (distinct : DistinctKeys value)
    (integral : Integral value) : Spells (compactChars value) value := by
  cases value with
  | null => exact .null
  | boolean truth =>
      cases truth with
      | true => exact .true
      | false => exact .false
  | number number =>
      cases number with
      | integer value fits => exact .integer value fits
      | double value => exact integral.elim
  | string text => exact .string text
  | array elements =>
      cases elements with
      | nil => exact .emptyArray .nil
      | cons first others =>
          obtain ⟨firstDistinct, othersDistinct⟩ := distinct
          obtain ⟨firstIntegral, othersIntegral⟩ := integral
          have spelled := Spells.array .nil
            (compactChars_spells first firstDistinct firstIntegral)
            (compactElements_spell others othersDistinct othersIntegral)
          simpa [compactChars] using spelled
  | object members =>
      cases members with
      | nil => exact .emptyObject .nil
      | cons member others =>
          obtain ⟨key, value⟩ := member
          obtain ⟨keysDistinct, valueDistinct, othersDistinct⟩ := distinct
          obtain ⟨valueIntegral, othersIntegral⟩ := integral
          have spelled := Spells.object .nil (spellsKey_compact key)
            (compactChars_spells value valueDistinct valueIntegral)
            (compactMembers_spell others othersDistinct othersIntegral) keysDistinct
          simpa [compactChars] using spelled

theorem compactElements_spell (elements : List Json) (distinct : DistinctKeysAll elements)
    (integral : IntegralAll elements) :
    SpellsElements (compactElements elements ++ [']']) elements := by
  cases elements with
  | nil => exact .close .nil
  | cons value others =>
      obtain ⟨valueDistinct, othersDistinct⟩ := distinct
      obtain ⟨valueIntegral, othersIntegral⟩ := integral
      have spelled := SpellsElements.next .nil .nil
        (compactChars_spells value valueDistinct valueIntegral)
        (compactElements_spell others othersDistinct othersIntegral)
      simpa [compactElements] using spelled

theorem compactMembers_spell (members : List (String × Json))
    (distinct : DistinctKeysMembers members) (integral : IntegralMembers members) :
    SpellsMembers (compactMembers members ++ ['\x7d']) members := by
  cases members with
  | nil => exact .close .nil
  | cons member others =>
      obtain ⟨key, value⟩ := member
      obtain ⟨valueDistinct, othersDistinct⟩ := distinct
      obtain ⟨valueIntegral, othersIntegral⟩ := integral
      have spelled := SpellsMembers.next .nil .nil (spellsKey_compact key)
        (compactChars_spells value valueDistinct valueIntegral)
        (compactMembers_spell others othersDistinct othersIntegral)
      simpa [compactMembers] using spelled

end

mutual

theorem indentedChars_spells (level : Nat) (value : Json) (distinct : DistinctKeys value)
    (integral : Integral value) : Spells (indentedChars level value) value := by
  cases value with
  | array elements =>
      cases elements with
      | nil => exact .emptyArray .nil
      | cons first others =>
          obtain ⟨firstDistinct, othersDistinct⟩ := distinct
          obtain ⟨firstIntegral, othersIntegral⟩ := integral
          have spelled := Spells.array (allSpace_newline (level + 1))
            (indentedChars_spells (level + 1) first firstDistinct firstIntegral)
            (indentedElements_spell (level + 1) others (allSpace_newline level) othersDistinct
              othersIntegral)
          simpa [indentedChars] using spelled
  | object members =>
      cases members with
      | nil => exact .emptyObject .nil
      | cons member others =>
          obtain ⟨key, value⟩ := member
          obtain ⟨keysDistinct, valueDistinct, othersDistinct⟩ := distinct
          obtain ⟨valueIntegral, othersIntegral⟩ := integral
          have spelled := Spells.object (allSpace_newline (level + 1)) (spellsKey_indented key)
            (indentedChars_spells (level + 1) value valueDistinct valueIntegral)
            (indentedMembers_spell (level + 1) others (allSpace_newline level) othersDistinct
              othersIntegral) keysDistinct
          simpa [indentedChars] using spelled
  | _ =>
      -- What holds nothing is written alike in both layouts.
      exact compactChars_spells _ distinct integral

theorem indentedElements_spell (level : Nat) (elements : List Json) {gap : List Char}
    (space : AllSpace gap) (distinct : DistinctKeysAll elements)
    (integral : IntegralAll elements) :
    SpellsElements (indentedElements level elements ++ gap ++ [']']) elements := by
  cases elements with
  | nil => exact .close space
  | cons value others =>
      obtain ⟨valueDistinct, othersDistinct⟩ := distinct
      obtain ⟨valueIntegral, othersIntegral⟩ := integral
      have spelled := SpellsElements.next .nil (allSpace_newline level)
        (indentedChars_spells level value valueDistinct valueIntegral)
        (indentedElements_spell level others space othersDistinct othersIntegral)
      simpa [indentedElements] using spelled

theorem indentedMembers_spell (level : Nat) (members : List (String × Json))
    {gap : List Char} (space : AllSpace gap) (distinct : DistinctKeysMembers members)
    (integral : IntegralMembers members) :
    SpellsMembers (indentedMembers level members ++ gap ++ ['\x7d']) members := by
  cases members with
  | nil => exact .close space
  | cons member others =>
      obtain ⟨key, value⟩ := member
      obtain ⟨valueDistinct, othersDistinct⟩ := distinct
      obtain ⟨valueIntegral, othersIntegral⟩ := integral
      have spelled := SpellsMembers.next .nil (allSpace_newline level) (spellsKey_indented key)
        (indentedChars_spells level value valueDistinct valueIntegral)
        (indentedMembers_spell level others space othersDistinct othersIntegral)
      simpa [indentedMembers] using spelled

end

end TypeSchema.Json
