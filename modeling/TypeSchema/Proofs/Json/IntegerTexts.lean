import TypeSchema.Proofs.Json.Reading

/-!
# Texts of integers

A text is read as an integer exactly if it is the decimal text of this integer with spaces
around it.  The machine that reads keeps to an invariant: what it has read so far begins such
a text, or no integer can come of it any more, as behind a point, the mark of an exponent or
a digit that does not fit.
-/

namespace TypeSchema.Json

/-- The text is the decimal text of the integer with spaces around it. -/
def WritesInteger (value : Int) (text : List Char) : Prop :=
  ∃ before after, AllSpace before ∧ AllSpace after ∧
    text = before ++ integerText value ++ after

theorem AllSpace.append {left right : List Char} (leftSpace : AllSpace left)
    (rightSpace : AllSpace right) : AllSpace (left ++ right) := by
  intro c member
  cases List.mem_append.mp member with
  | inl inLeft => exact leftSpace c inLeft
  | inr inRight => exact rightSpace c inRight

theorem AllSpace.singleton {c : Char} (space : isSpace c = true) : AllSpace [c] := by
  simpa [AllSpace] using space

theorem WritesInteger.append_space {value : Int} {text : List Char} {c : Char}
    (writes : WritesInteger value text) (space : isSpace c = true) :
    WritesInteger value (text ++ [c]) := by
  obtain ⟨before, after, beforeSpace, afterSpace, rfl⟩ := writes
  exact ⟨before, after ++ [c], beforeSpace, afterSpace.append (.singleton space), by simp⟩

theorem mem_integerText {value : Int} {c : Char} (member : c ∈ integerText value) :
    c = '-' ∨ c.isDigit = true := by
  rw [integerText, List.mem_append] at member
  cases member with
  | inl inSign =>
      split_ifs at inSign
      · exact .inl (List.mem_singleton.mp inSign)
      · cases inSign
  | inr inDigits => exact .inr (Nat.isDigit_of_mem_toDigits (by decide) (by decide) inDigits)

theorem WritesInteger.mem {value : Int} {text : List Char} {c : Char}
    (writes : WritesInteger value text) (member : c ∈ text) :
    isSpace c = true ∨ c = '-' ∨ c.isDigit = true := by
  obtain ⟨before, after, beforeSpace, afterSpace, rfl⟩ := writes
  simp only [List.mem_append] at member
  obtain (inBefore | inNumeral) | inAfter := member
  · exact .inl (beforeSpace c inBefore)
  · exact .inr (mem_integerText inNumeral)
  · exact .inl (afterSpace c inAfter)

theorem isSpace_of_mem_integerText {value : Int} {c : Char} (member : c ∈ integerText value) :
    isSpace c = false := by
  obtain rfl | isDigit := mem_integerText member
  · rfl
  · by_contra space
    have noDigit := (Reader.endsNumeral_of_isSpace (eq_true_of_ne_false space)).noDigit
    rw [digit?, if_pos isDigit] at noDigit
    cases noDigit

/-- Without its spaces the text is the decimal text. -/
theorem WritesInteger.filter_eq {value : Int} {text : List Char}
    (writes : WritesInteger value text) :
    (text.filter fun c => !isSpace c) = integerText value := by
  obtain ⟨before, after, beforeSpace, afterSpace, rfl⟩ := writes
  have dropped : ∀ {gap : List Char}, AllSpace gap → (gap.filter fun c => !isSpace c) = [] := by
    intro gap space
    rw [List.filter_eq_nil_iff]
    intro c member
    simp [space c member]
  have kept : ((integerText value).filter fun c => !isSpace c) = integerText value := by
    rw [List.filter_eq_self]
    intro c member
    simp [isSpace_of_mem_integerText member]
  rw [List.filter_append, List.filter_append, dropped beforeSpace, dropped afterSpace, kept,
    List.nil_append, List.append_nil]

theorem integerText_injective {value other : Int}
    (same : integerText value = integerText other) : value = other := by
  have noSign : ∀ number : Nat, '-' ∉ Decimal.digitChars number := by
    intro number member
    cases Nat.isDigit_of_mem_toDigits (by decide) (by decide) member
  have digits : ∀ {number another : Nat},
      Decimal.digitChars number = Decimal.digitChars another → number = another := by
    intro number another same
    have counted := congrArg (fun digits => Nat.ofDigitChars 10 digits 0) same
    simpa [Decimal.digitChars, Nat.ofDigitChars_ten_toDigits] using counted
  unfold integerText at same
  split_ifs at same with valueBelow otherBelow otherBelow
  · have sameDigits := digits (List.append_cancel_left same)
    omega
  · rw [List.nil_append] at same
    exact (noSign other.natAbs (by simp [← same])).elim
  · rw [List.nil_append] at same
    exact (noSign value.natAbs (by simp [same])).elim
  · have sameDigits := digits same
    omega

theorem WritesInteger.unique {value other : Int} {text : List Char}
    (writes : WritesInteger value text) (writesOther : WritesInteger other text) :
    value = other :=
  integerText_injective (writes.filter_eq.symm.trans writesOther.filter_eq)

theorem eq_digitChar_of_digit? {c : Char} {digit : Nat} (found : digit? c = some digit) :
    digit < 10 ∧ c = Nat.digitChar digit := by
  unfold digit? at found
  split at found
  · rename_i isDigit
    have bounds : 48 ≤ c.toNat ∧ c.toNat ≤ 57 := by
      simpa [Char.isDigit, UInt32.le_iff_toNat_le] using isDigit
    have difference : c.toNat - 48 = digit := by simpa using found
    have code : c = Char.ofNat (digit + 48) := by
      rw [← difference, Nat.sub_add_cancel bounds.1, Char.ofNat_toNat]
    have small : digit < 10 := by omega
    refine ⟨small, code.trans ?_⟩
    interval_cases digit <;> rfl
  · cases found

namespace Numeral

/-- The text ends in the token, which has only spaces before it. -/
def EndsIn (text token : List Char) : Prop :=
  ∃ gap, AllSpace gap ∧ text = gap ++ token

theorem EndsIn.append {text token : List Char} (ends : EndsIn text token)
    (further : List Char) : EndsIn (text ++ further) (token ++ further) := by
  obtain ⟨gap, space, rfl⟩ := ends
  exact ⟨gap, space, List.append_assoc _ _ _⟩

/-- A numeral that may still be an integer has been written as the decimal text of what has
been read of it. -/
def Traces (seen : List Char) : Numeral → Prop
  | .minus => EndsIn seen ['-']
  | .zero false => EndsIn seen ['0']
  | .whole negative significand =>
      0 < significand ∧
        EndsIn seen ((if negative then ['-'] else []) ++ Decimal.digitChars significand)
  | _ => True

theorem traces_digit {seen : List Char} {c : Char} {digit : Nat} (negative : Bool)
    (found : digit? c = some digit) (positive : 0 < digit)
    (ends : EndsIn seen ((if negative then ['-'] else []) ++ [c])) :
    Traces seen (.whole negative digit) := by
  obtain ⟨small, rfl⟩ := eq_digitChar_of_digit? found
  refine ⟨positive, ?_⟩
  rwa [Decimal.digitChars, Nat.toDigits_of_lt_base small]

/-- One more digit of a whole part that fits. -/
theorem traces_longer {seen : List Char} {c : Char} {negative : Bool}
    {significand digit longer : Nat} (positive : 0 < significand)
    (found : digit? c = some digit) (appended : appendDigit? significand digit = some longer)
    (ends : EndsIn seen ((if negative then ['-'] else []) ++ Decimal.digitChars significand)) :
    Traces (seen ++ [c]) (.whole negative longer) := by
  obtain ⟨small, rfl⟩ := eq_digitChar_of_digit? found
  obtain ⟨-, isLonger⟩ := Option.ite_none_right_eq_some.mp appended
  obtain rfl := Option.some.inj isLonger
  have digits : Decimal.digitChars (significand * 10 + digit) =
      Decimal.digitChars significand ++ [Nat.digitChar digit] := by
    rw [Nat.mul_comm, Decimal.digitChars, ← Nat.toDigits_append_toDigits (by decide) positive small,
      Nat.toDigits_of_lt_base small, Decimal.digitChars]
  refine ⟨by omega, ?_⟩
  rw [digits, ← List.append_assoc]
  exact ends.append _

theorem traces_first {seen : List Char} {c : Char} {reading : Numeral} (space : AllSpace seen)
    (first : first? c = some reading) : reading.Traces (seen ++ [c]) := by
  have ends : EndsIn (seen ++ [c]) [c] := ⟨seen, space, rfl⟩
  unfold first? at first
  split at first
  · rename_i isMinus
    cases first
    rwa [isMinus] at ends ⊢
  · split at first
    · rename_i found
      cases first
      obtain ⟨_, rfl⟩ := eq_digitChar_of_digit? found
      exact ends
    · rename_i digit notZero found
      cases first
      exact traces_digit false found (Nat.pos_of_ne_zero notZero) ends
    · cases first

theorem traces_afterWhole {text : List Char} {read : Scaled} {c : Char} {later : Numeral}
    (goesOn : afterWhole read c = .goOn later) : later.Traces text := by
  unfold afterWhole at goesOn
  split_ifs at goesOn <;> cases goesOn <;> trivial

theorem traces_afterFraction {text : List Char} {read : Scaled} {c : Char} {later : Numeral}
    (goesOn : afterFraction read c = .goOn later) : later.Traces text := by
  unfold afterFraction at goesOn
  split_ifs at goesOn
  cases goesOn
  trivial

theorem traces_addFractionDigit {text : List Char} (read : Scaled) (digit : Nat) :
    (addFractionDigit read digit).Traces text := by
  unfold addFractionDigit
  split <;> trivial

/-- One more character of a numeral keeps to what has been written of an integer. -/
theorem traces_step {seen : List Char} {c : Char} {reading later : Numeral}
    (traces : reading.Traces seen) (goesOn : reading.step c = .goOn later) :
    later.Traces (seen ++ [c]) := by
  cases reading with
  | minus =>
      have ends : EndsIn (seen ++ [c]) ['-', c] := traces.append [c]
      simp only [step] at goesOn
      split at goesOn
      · cases goesOn
        trivial
      · rename_i digit notZero found
        cases goesOn
        exact traces_digit true found (Nat.pos_of_ne_zero notZero) ends
      · cases goesOn
  | zero negative =>
      simp only [step] at goesOn
      split at goesOn
      · cases goesOn
      · exact traces_afterWhole goesOn
  | whole negative significand =>
      obtain ⟨positive, ends⟩ := traces
      simp only [step] at goesOn
      split at goesOn
      · rename_i digit found
        split at goesOn
        · rename_i longer appended
          cases goesOn
          exact traces_longer positive found appended ends
        · cases goesOn
          trivial
      · exact traces_afterWhole goesOn
  -- From here on no integer can come of the numeral, whatever follows.
  | long read =>
      simp only [step] at goesOn
      split at goesOn
      · cases goesOn
        trivial
      · exact traces_afterWhole goesOn
  | point read =>
      simp only [step] at goesOn
      split at goesOn
      · cases goesOn
        exact traces_addFractionDigit read _
      · cases goesOn
  | fraction read =>
      simp only [step] at goesOn
      split at goesOn
      · cases goesOn
        exact traces_addFractionDigit read _
      · exact traces_afterFraction goesOn
  | fullFraction read =>
      simp only [step] at goesOn
      split at goesOn
      · cases goesOn
        trivial
      · exact traces_afterFraction goesOn
  | mark read =>
      simp only [step] at goesOn
      split_ifs at goesOn
      · cases goesOn
        trivial
      · cases goesOn
        trivial
      · split at goesOn <;> cases goesOn
        trivial
  | sign read down =>
      simp only [step] at goesOn
      split at goesOn <;> cases goesOn
      trivial
  | exponent read down power =>
      simp only [step] at goesOn
      split at goesOn
      · split_ifs at goesOn <;> cases goesOn <;> trivial
      · cases goesOn
  | vanished negative =>
      simp only [step] at goesOn
      split at goesOn <;> cases goesOn
      trivial

theorem EndsIn.writesInteger {text : List Char} {value : Int}
    (ends : EndsIn text (integerText value)) : WritesInteger value text := by
  obtain ⟨gap, space, rfl⟩ := ends
  exact ⟨gap, [], space, .nil, by simp⟩

theorem scaledValue_ne_integer (read : Scaled) (value : Int) (fits : FitsWord value) :
    scaledValue read ≠ .ok (.integer value fits) := by
  -- Opened where it is applied, the definition would make the kernel compute the double.
  obtain ⟨function, same⟩ : ∃ function, function = scaledValue := ⟨scaledValue, rfl⟩
  rw [← same]
  delta scaledValue at same
  rw [same]
  beta_reduce
  generalize Double.ofDecimal? read.negative read.significand read.scale = nearest
  cases nearest <;> simp

theorem eq_of_ofInt? {given value : Int} {fits : FitsWord value}
    (found : Number.ofInt? given = some (.integer value fits)) : given = value := by
  unfold Number.ofInt? at found
  split_ifs at found
  · cases found
    rfl
  · obtain ⟨double, _, isDouble⟩ := Option.map_eq_some_iff.mp found
    cases isDouble

theorem traces_value {seen : List Char} {reading : Numeral} {value : Int}
    {fits : FitsWord value} (traces : reading.Traces seen)
    (denotes : reading.value = .ok (.integer value fits)) : WritesInteger value seen := by
  cases reading with
  | zero negative =>
      cases negative with
      | true => cases denotes
      | false =>
          cases denotes
          exact EndsIn.writesInteger traces
  | whole negative significand =>
      obtain ⟨positive, ends⟩ := traces
      simp only [Numeral.value] at denotes
      split at denotes
      · rename_i number found
        cases denotes
        obtain rfl := eq_of_ofInt? found
        apply EndsIn.writesInteger
        have notBelow : ¬ (significand : Int) < 0 := by omega
        cases negative <;> simpa [integerText, positive, notBelow] using ends
      · cases denotes
  | long read | fraction read | fullFraction read | exponent read down power =>
      simp only [Numeral.value] at denotes
      exact (scaledValue_ne_integer _ _ _ denotes).elim
  | minus | point read | mark read | sign read down | vanished negative =>
      simp only [Numeral.value] at denotes
      cases denotes

end Numeral

namespace Reader

/-- The value is anything but an integer. -/
def IsNoInteger (result : Json) : Prop :=
  ∀ value fits, result ≠ .number (.integer value fits)

/-- What has been read of a text that may still turn out to be an integer.  Within an array or
object it cannot. -/
def Traces (seen : List Char) (reader : Reader) : Prop :=
  reader.outer = [] →
    match reader.phase with
    | .value _ => AllSpace seen
    | .numeral reading => reading.Traces seen
    | .word _ _ result => IsNoInteger result
    | .done result =>
        ∀ value fits, result = .number (.integer value fits) → WritesInteger value seen
    | _ => True

variable {seen : List Char} {c : Char} {outer : List Frame} {later : Reader}

theorem traces_within (nonempty : outer ≠ []) (phase : Phase) : Traces seen ⟨phase, outer⟩ :=
  fun empty => (nonempty empty).elim

theorem traces_done {result : Json} (noInteger : IsNoInteger result) :
    Traces seen ⟨.done result, outer⟩ := by
  intro _ value fits isInteger
  exact (noInteger value fits isInteger).elim

theorem traces_stepDone {result : Json}
    (traces : Traces seen ⟨.done result, outer⟩) (taken : stepDone result outer c = .ok later) :
    Traces (seen ++ [c]) later := by
  unfold stepDone at taken
  split at taken
  · rename_i space
    cases taken
    intro empty value fits isInteger
    exact (traces empty value fits isInteger).append_space space
  · split at taken
    · cases taken
    · split_ifs at taken <;> cases taken
      · exact traces_within (by simp) _
      · exact traces_done (by simp [IsNoInteger])
    · split_ifs at taken <;> cases taken
      · exact fun _ => trivial
      · exact traces_done (by simp [IsNoInteger])

theorem traces_stepNoValue {place : ValuePlace}
    (taken : stepNoValue place outer c = .ok later) : Traces seen later := by
  unfold stepNoValue at taken
  split at taken
  · split_ifs at taken
    cases taken
    exact traces_done (by simp [IsNoInteger])
  · split_ifs at taken
  · cases taken

theorem traces_stepValue {place : ValuePlace} (traces : Traces seen ⟨.value place, outer⟩)
    (taken : stepValue place outer c = .ok later) : Traces (seen ++ [c]) later := by
  unfold stepValue descend at taken
  split_ifs at taken with space
  · cases taken
    exact fun empty => (traces empty).append (.singleton space)
  -- None of the three words is an integer.
  · cases taken
    exact fun _ => by simp [IsNoInteger]
  · cases taken
    exact fun _ => by simp [IsNoInteger]
  · cases taken
    exact fun _ => by simp [IsNoInteger]
  · cases taken
    exact fun _ => trivial
  · cases taken
    exact traces_within (by simp) _
  · cases taken
    exact fun _ => trivial
  · split at taken
    · rename_i numeral first
      cases taken
      exact fun empty => Numeral.traces_first (traces empty) first
    · exact traces_stepNoValue taken

theorem traces_stepWord {expected : Char} {pending : List Char} {result : Json}
    (traces : Traces seen ⟨.word expected pending result, outer⟩)
    (taken : stepWord expected pending result outer c = .ok later) :
    Traces (seen ++ [c]) later := by
  unfold stepWord at taken
  split_ifs at taken
  split at taken <;> cases taken
  · intro empty value fits isInteger
    exact (traces empty value fits isInteger).elim
  · exact traces

theorem traces_stepKeyStart {members : List (String × Json)} {isFirst : Bool}
    (taken : stepKeyStart members isFirst outer c = .ok later) : Traces seen later := by
  unfold stepKeyStart at taken
  split_ifs at taken <;> cases taken
  · exact fun _ => trivial
  · exact fun _ => trivial
  · exact traces_done (by simp [IsNoInteger])

/-- One more character of a text keeps to the invariant. -/
theorem traces_step {reader : Reader} (traces : Traces seen reader)
    (taken : reader.step c = .ok later) : Traces (seen ++ [c]) later := by
  obtain ⟨phase, outer⟩ := reader
  cases phase with
  | value place => exact traces_stepValue traces taken
  | word expected pending result => exact traces_stepWord traces taken
  | numeral reading =>
      simp only [step] at taken
      split at taken
      · rename_i goesOn
        cases taken
        exact fun empty => Numeral.traces_step (traces empty) goesOn
      · cases taken
      · split at taken
        · rename_i number denotes
          refine traces_stepDone ?_ taken
          rintro empty value fits ⟨⟩
          exact Numeral.traces_value (traces empty) denotes
        · cases taken
  | string reading =>
      simp only [step] at taken
      split at taken <;> cases taken
      · exact fun _ => trivial
      · exact traces_done (by simp [IsNoInteger])
  | keyStart members isFirst => exact traces_stepKeyStart taken
  | key members reading =>
      simp only [step] at taken
      split at taken <;> cases taken <;> exact fun _ => trivial
  | colon members key =>
      simp only [step] at taken
      split_ifs at taken <;> cases taken
      · exact fun _ => trivial
      · exact traces_within (by simp) _
  | done result => exact traces_stepDone traces taken

/-- What the machine has read when it ends has kept to the invariant throughout. -/
theorem traces_run {reader : Reader} {position : Position} {rest : List Char} {result : Json}
    (traces : Traces seen reader) (read : reader.run position rest = .ok result) :
    ∃ last, Traces (seen ++ rest) last ∧ last.finish = .ok result := by
  induction rest generalizing seen reader position with
  | nil =>
      rw [run] at read
      split at read
      · rename_i finished
        cases read
        rw [List.append_nil]
        exact ⟨reader, traces, finished⟩
      · cases read
  | cons c rest ih =>
      rw [run] at read
      split at read
      · rename_i later taken
        have found := ih (traces_step traces taken) read
        rwa [List.append_assoc, List.singleton_append] at found
      · cases read

theorem closed_eq_ok_iff {result value : Json} :
    closed result outer = .ok value ↔ outer = [] ∧ result = value := by
  unfold closed
  split <;> simp

theorem traces_finish {reader : Reader} {value : Int} {fits : FitsWord value}
    (traces : Traces seen reader)
    (finished : reader.finish = .ok (.number (.integer value fits))) :
    WritesInteger value seen := by
  obtain ⟨phase, outer⟩ := reader
  cases phase with
  | numeral reading =>
      simp only [finish] at finished
      split at finished
      · rename_i number denotes
        obtain ⟨empty, isNumber⟩ := closed_eq_ok_iff.mp finished
        cases isNumber
        exact Numeral.traces_value (traces empty) denotes
      · cases finished
  | done result =>
      obtain ⟨empty, isInteger⟩ := closed_eq_ok_iff.mp finished
      exact traces empty value fits isInteger
  | value place => cases place <;> cases finished
  | keyStart members isFirst => cases isFirst <;> cases finished
  | _ => cases finished

end Reader

/-- A text is read as an integer exactly where it is its decimal text between spaces. -/
theorem read_eq_integer_iff {text : String} {value : Int} {fits : FitsWord value} :
    read text = .ok (.number (.integer value fits)) ↔ WritesInteger value text.toList := by
  constructor
  · intro isRead
    have started : Reader.Traces [] Reader.start := fun _ => AllSpace.nil
    obtain ⟨last, traces, finished⟩ := Reader.traces_run started isRead
    exact Reader.traces_finish traces finished
  · rintro ⟨before, after, beforeSpace, afterSpace, written⟩
    have inFront := Reader.passes_valueSpaces .required [] beforeSpace
    have digits := Reader.reads_integer value fits .required []
    obtain ⟨middle, passes, holds⟩ := inFront.reads digits
    obtain ⟨last, passesAfter, held⟩ := holds.spaces afterSpace
    have ended := (passes.append passesAfter).run_eq .start []
    rw [List.append_nil, Reader.run, held.finish] at ended
    rw [read, written]
    exact ended

end TypeSchema.Json
