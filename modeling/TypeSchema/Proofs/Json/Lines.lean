import TypeSchema.Proofs.Json.Reading

/-!
# Compact texts as lines

The compact text of a value has no line feed in it, so a line feed behind the text ends the
only line.  In strings line feeds are escaped, and integers consist of digits and a sign.
-/

namespace TypeSchema.Json

theorem hexDigit_ne_lineFeed : ∀ digit < 16, hexDigit digit ≠ '\n' := by
  decide

theorem lineFeed_notMem_of_escapes {c : Char} {text : List Char}
    (escapes : Reader.Escapes c text) : '\n' ∉ text := by
  cases escapes with
  | @letter letter _ unescaped =>
      have different : letter ≠ '\n' := by
        rintro rfl
        cases unescaped
      simp [different.symm]
  | number low =>
      have upper := hexDigit_ne_lineFeed (c.toNat / 16) (by omega)
      have lower := hexDigit_ne_lineFeed (c.toNat % 16) (by omega)
      simp [upper.symm, lower.symm]
  | plain _ _ notLow =>
      have different : c ≠ '\n' := by
        rintro rfl
        exact notLow (by decide)
      simp [different.symm]

theorem lineFeed_notMem_quoted (text : String) : '\n' ∉ quoted text := by
  simp [quoted, fun c => lineFeed_notMem_of_escapes (Reader.escapes_escapeChar c)]

theorem lineFeed_notMem_integerText (value : Int) : '\n' ∉ integerText value := by
  have digits : '\n' ∉ Decimal.digitChars value.natAbs := by
    intro member
    cases Nat.isDigit_of_mem_toDigits (by decide) (by decide) member
  unfold integerText
  split_ifs <;> simp [digits]

mutual

theorem lineFeed_notMem_compactChars (value : Json) (integral : Integral value) :
    '\n' ∉ compactChars value := by
  cases value with
  | null => decide
  | boolean truth => cases truth <;> decide
  | number number =>
      cases number with
      | integer value fits => exact lineFeed_notMem_integerText value
      | double value => exact integral.elim
  | string text => exact lineFeed_notMem_quoted text
  | array elements =>
      cases elements with
      | nil => decide
      | cons first others =>
          have inFirst := lineFeed_notMem_compactChars first integral.1
          have inOthers := lineFeed_notMem_compactElements others integral.2
          simp [compactChars, inFirst, inOthers]
  | object members =>
      cases members with
      | nil => decide
      | cons member others =>
          obtain ⟨key, value⟩ := member
          have inKey := lineFeed_notMem_quoted key
          have inValue := lineFeed_notMem_compactChars value integral.1
          have inOthers := lineFeed_notMem_compactMembers others integral.2
          simp [compactChars, inKey, inValue, inOthers]

theorem lineFeed_notMem_compactElements (elements : List Json)
    (integral : IntegralAll elements) : '\n' ∉ compactElements elements := by
  cases elements with
  | nil => exact List.not_mem_nil
  | cons value others =>
      have inValue := lineFeed_notMem_compactChars value integral.1
      have inOthers := lineFeed_notMem_compactElements others integral.2
      simp [compactElements, inValue, inOthers]

theorem lineFeed_notMem_compactMembers (members : List (String × Json))
    (integral : IntegralMembers members) : '\n' ∉ compactMembers members := by
  cases members with
  | nil => exact List.not_mem_nil
  | cons member others =>
      obtain ⟨key, value⟩ := member
      have inKey := lineFeed_notMem_quoted key
      have inValue := lineFeed_notMem_compactChars value integral.1
      have inOthers := lineFeed_notMem_compactMembers others integral.2
      simp [compactMembers, inKey, inValue, inOthers]

end

end TypeSchema.Json
