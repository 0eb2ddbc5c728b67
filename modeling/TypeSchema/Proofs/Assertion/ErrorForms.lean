import TypeSchema.Assertion.ErrorInfo
import TypeSchema.Proofs.Json.Entries
import TypeSchema.Proofs.Json.IntegerTexts
import TypeSchema.Proofs.Outcome

/-!
# Forms of an error description

The description of how a failure is to be reported decodes from exactly two forms: an object,
and a list of its four parts.  Each part may be missing, null or of its own kind, and what is
decoded depends on the parts alone.
-/

namespace TypeSchema

open Json (Entries)

theorem Json.decodeString_eq_ok_iff {value : Json} {text : String} :
    Json.decodeString value = .ok text ↔ value = .string text := by
  cases value <;> simp [Json.decodeString]

theorem Json.decodeFields_eq_ok_iff {value : Json} {fields : Json.Fields} :
    Json.decodeFields value = .ok fields ↔
      ∃ members, value = .object members ∧ .ofEntries members = fields := by
  cases value <;> simp [Json.decodeFields]

theorem ErrorCode.ofJson_eq_ok_iff {value : Json} {code : ErrorCode} :
    ErrorCode.ofJson value = .ok code ↔ value = code.toJson := by
  constructor
  · intro decoded
    unfold ErrorCode.ofJson at decoded
    split at decoded
    · split at decoded
      · cases decoded
        rfl
      · cases decoded
    · cases decoded
      rfl
    · cases decoded
  · rintro rfl
    cases code with
    | number value fits => exact dif_pos fits.2
    | text value => rfl

theorem Json.decodeOptional_eq_ok_iff {α : Type} {decode : Json → Json.Decoded α} {value : Json}
    {part : Option α} :
    Json.decodeOptional decode value = .ok part ↔
      (value = .null ∧ part = none) ∨
        (value ≠ .null ∧ ∃ known, decode value = .ok known ∧ some known = part) := by
  cases value with
  | null => simp [Json.decodeOptional, eq_comm]
  | _ => simp [Json.decodeOptional, Except.map_eq_ok_iff]

namespace ErrorInfo

/-- What a part becomes: what is decoded under its key, or what it was. -/
def Settles {α : Type} (decode : Json → Json.Decoded α) (found : Option Json)
    (before after : Option α) : Prop :=
  match found with
  | some value => Json.decodeOptional decode value = .ok after
  | none => before = after

theorem settles_cons_iff {α : Type} {decode : Json → Json.Decoded α} {before after : Option α}
    {key name : String} {value : Json} {rest : List (String × Json)}
    (new : Entries.get? name rest = none) :
    Settles decode (Entries.get? key ((name, value) :: rest)) before after ↔
      ∃ middle, Settles decode (Entries.get? key [(name, value)]) before middle ∧
        Settles decode (Entries.get? key rest) middle after := by
  by_cases found : name = key
  · subst found
    simp [Settles, Entries.get?, new]
  · simp [Settles, Entries.get?, found]

/-- Every part is settled by itself. -/
@[mk_iff]
structure SettlesAll (members : List (String × Json)) (before after : ErrorInfo) : Prop where
  name : Settles Json.decodeString (Entries.get? "name" members) before.name after.name
  message :
    Settles Json.decodeString (Entries.get? "message" members) before.message after.message
  code : Settles ErrorCode.ofJson (Entries.get? "code" members) before.code after.code
  otherInfo :
    Settles Json.decodeFields (Entries.get? "otherInfo" members) before.otherInfo after.otherInfo

theorem readMember_eq_ok_iff {member : String × Json} {before after : ErrorInfo} :
    before.readMember member = .ok after ↔ SettlesAll [member] before after := by
  obtain ⟨key, value⟩ := member
  cases before
  cases after
  -- The key decides which part is decoded; the others stay as they are.
  unfold readMember
  split_ifs with isName isMessage isCode isOtherInfo <;>
    simp_all [Except.bind_eq_ok_iff, settlesAll_iff, Settles, Entries.get?, pure, Except.pure,
      and_left_comm]

theorem settlesAll_cons_iff {key : String} {value : Json} {rest : List (String × Json)}
    {before after : ErrorInfo} (new : Entries.get? key rest = none) :
    SettlesAll ((key, value) :: rest) before after ↔
      ∃ middle, SettlesAll [(key, value)] before middle ∧ SettlesAll rest middle after := by
  constructor
  · rintro ⟨name, message, code, otherInfo⟩
    obtain ⟨middleName, nameRead, nameKept⟩ := (settles_cons_iff new).mp name
    obtain ⟨middleMessage, messageRead, messageKept⟩ := (settles_cons_iff new).mp message
    obtain ⟨middleCode, codeRead, codeKept⟩ := (settles_cons_iff new).mp code
    obtain ⟨middleInfo, infoRead, infoKept⟩ := (settles_cons_iff new).mp otherInfo
    exact ⟨⟨middleName, middleMessage, middleCode, middleInfo⟩,
      ⟨nameRead, messageRead, codeRead, infoRead⟩, ⟨nameKept, messageKept, codeKept, infoKept⟩⟩
  · rintro ⟨middle, read, kept⟩
    exact ⟨(settles_cons_iff new).mpr ⟨_, read.name, kept.name⟩,
      (settles_cons_iff new).mpr ⟨_, read.message, kept.message⟩,
      (settles_cons_iff new).mpr ⟨_, read.code, kept.code⟩,
      (settles_cons_iff new).mpr ⟨_, read.otherInfo, kept.otherInfo⟩⟩

theorem foldlM_readMember_eq_ok_iff {members : List (String × Json)} {before after : ErrorInfo}
    (distinct : Entries.Distinct members) :
    members.foldlM readMember before = .ok after ↔ SettlesAll members before after := by
  induction members generalizing before with
  | nil =>
      constructor
      · intro same
        cases same
        exact ⟨rfl, rfl, rfl, rfl⟩
      · intro settled
        have same : before = after := by
          cases before
          cases after
          simpa using ⟨settled.name, settled.message, settled.code, settled.otherInfo⟩
        rw [same]
        rfl
  | cons member rest ih =>
      obtain ⟨new, restDistinct⟩ := List.nodup_cons.mp distinct
      have absent : Entries.get? member.1 rest = none := Entries.get?_eq_none_iff.mpr new
      rw [List.foldlM_cons, Except.bind_eq_ok_iff, settlesAll_cons_iff absent]
      simp only [ih restDistinct, readMember_eq_ok_iff]

/-- The value under a key, or null where there is none. -/
def partOf (members : List (String × Json)) (key : String) : Json :=
  (Entries.get? key members).getD .null

/-- Every part of the description is what is given for it. -/
@[mk_iff]
structure DecodesParts (part : String → Json) (info : ErrorInfo) : Prop where
  name : Json.decodeOptional Json.decodeString (part "name") = .ok info.name
  message : Json.decodeOptional Json.decodeString (part "message") = .ok info.message
  code : Json.decodeOptional ErrorCode.ofJson (part "code") = .ok info.code
  otherInfo : Json.decodeOptional Json.decodeFields (part "otherInfo") = .ok info.otherInfo

theorem settles_none_iff {α : Type} {decode : Json → Json.Decoded α} {found : Option Json}
    {part : Option α} :
    Settles decode found none part ↔
      Json.decodeOptional decode (found.getD .null) = .ok part := by
  cases found with
  | some value => rfl
  | none => simp [Settles, Json.decodeOptional]

theorem ofJson_object_eq_ok_iff {members : List (String × Json)} {info : ErrorInfo} :
    ofJson (.object members) = .ok info ↔ DecodesParts (partOf members) info := by
  rw [ofJson, foldlM_readMember_eq_ok_iff (Entries.firsts_distinct members), settlesAll_iff,
    decodesParts_iff]
  simp only [Entries.get?_firsts, settles_none_iff, partOf]

theorem readList_eq_ok_iff {length : Nat} {names : List String} {elements : List Json}
    {before after : ErrorInfo} :
    readList length before names elements = .ok after ↔
      names.length = elements.length ∧
        (names.zip elements).foldlM readMember before = .ok after := by
  induction names generalizing before elements with
  | nil => cases elements <;> simp [readList, pure, Except.pure]
  | cons name rest ih =>
      cases elements with
      | nil => simp [readList]
      | cons element others =>
          rw [readList, Except.bind_eq_ok_iff, List.zip_cons_cons, List.foldlM_cons,
            Except.bind_eq_ok_iff]
          simp only [ih, List.length_cons, Nat.add_right_cancel_iff, and_left_comm,
            exists_and_left]

/-- A list is read as the object that has its elements under the keys. -/
theorem ofJson_array_eq_ok_iff {elements : List Json} {info : ErrorInfo} :
    ofJson (.array elements) = .ok info ↔
      keys.length = elements.length ∧ ofJson (.object (keys.zip elements)) = .ok info := by
  have list : ofJson (.array elements) = readList elements.length {} keys elements := rfl
  rw [list, readList_eq_ok_iff]
  refine and_congr_right fun sameLength => ?_
  have distinct : Entries.Distinct (keys.zip elements) := by
    rw [Entries.Distinct, Entries.keys, List.map_fst_zip (Nat.le_of_eq sameLength)]
    decide
  rw [ofJson, Entries.firsts_eq_of_distinct distinct]

theorem ofJson_parts_eq_ok_iff {part : String → Json} {info : ErrorInfo} :
    ofJson (.array (keys.map part)) = .ok info ↔ DecodesParts part info := by
  rw [ofJson_array_eq_ok_iff, List.length_map, ofJson_object_eq_ok_iff, decodesParts_iff,
    decodesParts_iff]
  simp [keys, partOf, Entries.get?]

theorem decodeOptional_optionalJson {α : Type} {decode : Json → Json.Decoded α}
    {encode : α → Json} (part : Option α) (some_ne_null : ∀ known, encode known ≠ .null)
    (inverse : ∀ known, decode (encode known) = .ok known) :
    Json.decodeOptional decode (optionalJson encode part) = .ok part := by
  rw [Json.decodeOptional_eq_ok_iff]
  cases part with
  | none => exact .inl ⟨rfl, rfl⟩
  | some known => exact .inr ⟨some_ne_null known, known, inverse known, rfl⟩

theorem ofJson_toJson (info : ErrorInfo) : ofJson info.toJson = .ok info := by
  rw [toJson, ofJson_object_eq_ok_iff]
  constructor
  · exact decodeOptional_optionalJson info.name (by simp) fun _ => rfl
  · exact decodeOptional_optionalJson info.message (by simp) fun _ => rfl
  · refine decodeOptional_optionalJson info.code ?_ fun code => ?_
    · intro code
      cases code <;> simp [ErrorCode.toJson]
    · exact ErrorCode.ofJson_eq_ok_iff.mpr rfl
  · refine decodeOptional_optionalJson info.otherInfo (by simp) fun fields => ?_
    rw [Json.decodeFields, Json.Fields.ofEntries_entries]

/-- A text, or null for none. -/
def MayBeText (value : Json) : Prop :=
  value = .null ∨ ∃ text, value = .string text

/-- A text or an integer that fits 64 bits with its sign, or null for none. -/
def MayBeCode (value : Json) : Prop :=
  value = .null ∨ (∃ text, value = .string text) ∨
    ∃ number fits, value = .number (.integer number fits) ∧ -2 ^ 63 ≤ number ∧ number < 2 ^ 63

/-- An object, or null for none. -/
def MayBeFields (value : Json) : Prop :=
  value = .null ∨ ∃ members, value = .object members

/-- Each part is of its own kind, or null. -/
structure AllowsParts (part : String → Json) : Prop where
  name : MayBeText (part "name")
  message : MayBeText (part "message")
  code : MayBeCode (part "code")
  otherInfo : MayBeFields (part "otherInfo")

/-- The forms of an error description: an object, in which each part may be missing, or a
list of the four parts in their order. -/
inductive IsForm : Json → Prop where
  | object {members : List (String × Json)} :
      AllowsParts (partOf members) → IsForm (.object members)
  | list {name message code otherInfo : Json} :
      MayBeText name → MayBeText message → MayBeCode code → MayBeFields otherInfo →
      IsForm (.array [name, message, code, otherInfo])

theorem exists_decodeOptional_eq_ok_iff {α : Type} {decode : Json → Json.Decoded α}
    {value : Json} :
    (∃ part, Json.decodeOptional decode value = .ok part) ↔
      value = .null ∨ ∃ known, decode value = .ok known := by
  cases value <;> simp [Json.decodeOptional, Except.map_eq_ok_iff]

theorem exists_text_iff {value : Json} :
    (∃ part, Json.decodeOptional Json.decodeString value = .ok part) ↔ MayBeText value := by
  simp only [exists_decodeOptional_eq_ok_iff, Json.decodeString_eq_ok_iff, MayBeText]

theorem exists_code_iff {value : Json} :
    (∃ part, Json.decodeOptional ErrorCode.ofJson value = .ok part) ↔ MayBeCode value := by
  rw [exists_decodeOptional_eq_ok_iff, MayBeCode]
  simp only [ErrorCode.ofJson_eq_ok_iff]
  refine or_congr_right ⟨?_, ?_⟩
  · rintro ⟨code, rfl⟩
    cases code with
    | number number fits => exact .inr ⟨number, ErrorCode.fitsWord fits, rfl, fits⟩
    | text text => exact .inl ⟨text, rfl⟩
  · rintro (⟨text, rfl⟩ | ⟨number, fits, rfl, bounds⟩)
    · exact ⟨.text text, rfl⟩
    · exact ⟨.number number bounds, rfl⟩

theorem exists_fields_iff {value : Json} :
    (∃ part, Json.decodeOptional Json.decodeFields value = .ok part) ↔ MayBeFields value := by
  simp only [exists_decodeOptional_eq_ok_iff, Json.decodeFields_eq_ok_iff, MayBeFields]
  simp

theorem exists_decodesParts_iff {part : String → Json} :
    (∃ info, DecodesParts part info) ↔ AllowsParts part := by
  constructor
  · rintro ⟨info, decoded⟩
    exact ⟨exists_text_iff.mp ⟨_, decoded.name⟩, exists_text_iff.mp ⟨_, decoded.message⟩,
      exists_code_iff.mp ⟨_, decoded.code⟩, exists_fields_iff.mp ⟨_, decoded.otherInfo⟩⟩
  · intro allowed
    obtain ⟨name, nameDecoded⟩ := exists_text_iff.mpr allowed.name
    obtain ⟨message, messageDecoded⟩ := exists_text_iff.mpr allowed.message
    obtain ⟨code, codeDecoded⟩ := exists_code_iff.mpr allowed.code
    obtain ⟨otherInfo, infoDecoded⟩ := exists_fields_iff.mpr allowed.otherInfo
    exact ⟨⟨name, message, code, otherInfo⟩, nameDecoded, messageDecoded, codeDecoded,
      infoDecoded⟩

theorem exists_ofJson_eq_ok_iff (value : Json) :
    (∃ info, ofJson value = .ok info) ↔ IsForm value := by
  constructor
  · rintro ⟨info, decoded⟩
    cases value with
    | object members =>
        exact .object (exists_decodesParts_iff.mp ⟨info, ofJson_object_eq_ok_iff.mp decoded⟩)
    | array elements =>
        obtain ⟨length, asObject⟩ := ofJson_array_eq_ok_iff.mp decoded
        obtain ⟨name, message, code, otherInfo, rfl⟩ := List.length_eq_four.mp length.symm
        have allowed :=
          exists_decodesParts_iff.mp ⟨info, ofJson_object_eq_ok_iff.mp asObject⟩
        exact .list allowed.name allowed.message allowed.code allowed.otherInfo
    | _ => cases decoded
  · intro form
    cases form with
    | object allowed =>
        obtain ⟨info, decoded⟩ := exists_decodesParts_iff.mpr allowed
        exact ⟨info, ofJson_object_eq_ok_iff.mpr decoded⟩
    | @list name message code otherInfo nameAllowed messageAllowed codeAllowed infoAllowed =>
        have allowed : AllowsParts (partOf (keys.zip [name, message, code, otherInfo])) :=
          ⟨nameAllowed, messageAllowed, codeAllowed, infoAllowed⟩
        obtain ⟨info, decoded⟩ := exists_decodesParts_iff.mpr allowed
        exact ⟨info, ofJson_array_eq_ok_iff.mpr ⟨rfl, ofJson_object_eq_ok_iff.mpr decoded⟩⟩

section

variable {text : String} {number : Json.Number} (read : Json.read text = .ok (.number number))
include read

/-- A number in a text may be a code where the text is that of an integer that fits. -/
theorem mayBeCode_of_read_iff :
    MayBeCode (.number number) ↔
      ∃ value, -2 ^ 63 ≤ value ∧ value < 2 ^ 63 ∧ Json.WritesInteger value text.toList := by
  constructor
  · rintro (isNull | ⟨_, isText⟩ | ⟨value, fits, isInteger, atLeast, below⟩)
    · cases isNull
    · cases isText
    · rw [isInteger] at read
      exact ⟨value, atLeast, below, Json.read_eq_integer_iff.mp read⟩
  · rintro ⟨value, atLeast, below, writes⟩
    have fits := ErrorCode.fitsWord ⟨atLeast, below⟩
    have asInteger : Json.read text = .ok (.number (.integer value fits)) :=
      Json.read_eq_integer_iff.mpr writes
    obtain rfl : number = .integer value fits := by simpa [read] using asInteger
    exact .inr (.inr ⟨value, fits, rfl, atLeast, below⟩)

theorem not_mayBeCode_of_mark {c : Char} (member : c ∈ text.toList)
    (mark : c = '.' ∨ c = 'e' ∨ c = 'E') : ¬ MayBeCode (.number number) := by
  intro allowed
  obtain ⟨value, -, -, writes⟩ := (mayBeCode_of_read_iff read).mp allowed
  have plain := writes.mem member
  rcases mark with rfl | rfl | rfl <;> exact absurd plain (by decide)

theorem mayBeCode_of_writes_iff {value : Int} (writes : Json.WritesInteger value text.toList) :
    MayBeCode (.number number) ↔ -2 ^ 63 ≤ value ∧ value < 2 ^ 63 := by
  rw [mayBeCode_of_read_iff read]
  constructor
  · rintro ⟨other, atLeast, below, writesOther⟩
    rw [writes.unique writesOther]
    exact ⟨atLeast, below⟩
  · rintro ⟨atLeast, below⟩
    exact ⟨value, atLeast, below, writes⟩

end

/-- What is written is decoded again, nothing but the two forms is decoded, and the forms agree.
A number in a text is a code only where it is written as an integer that fits 64 bits with its
sign, without a point or an exponent. -/
theorem decodes_exactly_its_forms :
    (∀ info, ofJson info.toJson = .ok info) ∧
      (∀ value, (∃ info, ofJson value = .ok info) ↔ IsForm value) ∧
      (∀ text number, Json.read text = .ok (.number number) →
        (MayBeCode (.number number) ↔
          ∃ value, -2 ^ 63 ≤ value ∧ value < 2 ^ 63 ∧ Json.WritesInteger value text.toList) ∧
        (∀ c ∈ text.toList, c = '.' ∨ c = 'e' ∨ c = 'E' → ¬ MayBeCode (.number number)) ∧
        ∀ value, Json.WritesInteger value text.toList →
          (MayBeCode (.number number) ↔ -2 ^ 63 ≤ value ∧ value < 2 ^ 63)) ∧
      ∀ members info, ofJson (.object members) = .ok info ↔
        ofJson (.array (keys.map (partOf members))) = .ok info := by
  refine ⟨ofJson_toJson, exists_ofJson_eq_ok_iff, ?_, ?_⟩
  · intro text number read
    exact ⟨mayBeCode_of_read_iff read, fun _ => not_mayBeCode_of_mark read,
      fun _ => mayBeCode_of_writes_iff read⟩
  · intro members info
    rw [ofJson_object_eq_ok_iff, ofJson_parts_eq_ok_iff]

end ErrorInfo

end TypeSchema
