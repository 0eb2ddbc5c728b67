import TypeSchema.Assertion
import TypeSchema.Proofs.Json.Entries
import TypeSchema.Proofs.Json.Sameness

/-!
# What a failure keeps of the caller's fields

A failure keeps exactly those fields of the caller whose keys it does not use itself, and
moves no more of them than it drops.  So its own members and the caller's stand side by side
without a key in common, and the JSON form determines the failure.
-/

namespace TypeSchema

/-- The caller's further fields. -/
def ErrorInfo.fields (info : ErrorInfo) : List (String × Json) :=
  (info.otherInfo.getD .empty).entries

theorem ErrorInfo.fields_distinct (info : ErrorInfo) : Json.Entries.Distinct info.fields :=
  (info.otherInfo.getD .empty).distinct

namespace ErrorCode

theorem toJson_same_iff {left right : ErrorCode} :
    left.toJson.Same right.toJson ↔ left = right := by
  constructor
  · intro same
    cases left with
    | number value fits =>
        cases right with
        | number other fits' =>
            cases same with
            | number sameNumber =>
                cases sameNumber
                rfl
        | text other => cases same
    | text value =>
        cases right with
        | number other fits => cases same
        | text other => exact congrArg ErrorCode.text (Json.same_string_iff.mp same)
  · intro same
    exact same ▸ Json.Same.refl left.toJson

theorem toJson_injective : Function.Injective toJson := by
  intro left right same
  apply toJson_same_iff.mp
  rw [same]
  exact Json.Same.refl right.toJson

/-- Two failures have one code, or both have none, exactly if their JSON forms do. -/
theorem option_toJson_same_iff {left right : Option ErrorCode} :
    Option.Rel Json.Same (left.map toJson) (right.map toJson) ↔ left = right := by
  cases left <;> cases right <;> simp [toJson_same_iff]

end ErrorCode

namespace Failure

/-- Failures that compare as equal: the order of the further fields does not count. -/
structure Same (left right : Failure) : Prop where
  message : left.message = right.message
  code : left.code = right.code
  schemaName : left.schemaName = right.schemaName
  extra : ∀ key, Option.Rel Json.Same (left.get? key) (right.get? key)

/-- No further field has a key that the failure uses itself. -/
def Unreserved (failure : Failure) : Prop :=
  ∀ field ∈ failure.extra, field.1 ∉ reserved

variable {failure left right : Failure} {schemaName : String} {info : ErrorInfo}

theorem extra_of_perm :
    (Failure.of schemaName info).extra.Perm
      (info.fields.filter fun field => field.1 ∉ reserved) :=
  Json.Entries.swapRemoveAll_perm info.fields_distinct

theorem extra_of_distinct : Json.Entries.Distinct (Failure.of schemaName info).extra := by
  apply (extra_of_perm.map Prod.fst).nodup_iff.mpr
  exact info.fields_distinct.sublist (List.filter_sublist.map Prod.fst)

theorem unreserved_of : (Failure.of schemaName info).Unreserved := by
  intro field member
  have kept := extra_of_perm.mem_iff.mp member
  simpa using (List.mem_filter.mp kept).2

theorem Unreserved.get?_eq_none (unreserved : failure.Unreserved) {key : String}
    (used : key ∈ reserved) : failure.get? key = none := by
  apply Json.Entries.get?_eq_none_iff.mpr
  intro member
  obtain ⟨field, inExtra, same⟩ := List.mem_map.mp member
  exact unreserved field inExtra (same ▸ used)

theorem members_eq (failure : Failure) :
    failure.members =
      ("message", .string failure.message) ::
        (failure.code.toList.map fun code => ("code", code.toJson)) ++
          ("schemaName", .string failure.schemaName) :: failure.extra := by
  rw [members]
  cases failure.code <;> rfl

theorem get?_members (failure : Failure) (key : String) :
    Json.Entries.get? key failure.members =
      if key = "message" then some (.string failure.message)
      else if key = "code" then (failure.code.map ErrorCode.toJson).or (failure.get? "code")
      else if key = "schemaName" then some (.string failure.schemaName)
      else failure.get? key := by
  rw [members_eq, List.cons_append, Json.Entries.get?, Json.Entries.get?_append,
    Json.Entries.get?, get?]
  by_cases isMessage : key = "message"
  · simp [isMessage]
  · rw [if_neg (Ne.symm isMessage), if_neg isMessage]
    by_cases isCode : key = "code"
    · subst isCode
      cases failure.code <;> simp [Json.Entries.get?]
    · have noCode : Json.Entries.get? key
          (failure.code.toList.map fun code => ("code", code.toJson)) = none := by
        cases failure.code <;> simp [Json.Entries.get?, Ne.symm isCode]
      rw [noCode, if_neg isCode, Option.none_or]
      by_cases isName : key = "schemaName"
      · simp [isName]
      · rw [if_neg (Ne.symm isName), if_neg isName]
        rfl

theorem members_distinct (unreserved : failure.Unreserved)
    (distinct : Json.Entries.Distinct failure.extra) :
    Json.Entries.Distinct failure.members := by
  have notUsed : ∀ key ∈ reserved, key ∉ failure.extra.map Prod.fst := by
    intro key used member
    obtain ⟨field, inExtra, same⟩ := List.mem_map.mp member
    exact unreserved field inExtra (same ▸ used)
  have noMessage := notUsed "message" (by decide)
  have noCode := notUsed "code" (by decide)
  have noName := notUsed "schemaName" (by decide)
  rw [Json.Entries.Distinct, Json.Entries.keys] at distinct ⊢
  rw [members_eq]
  cases failure.code <;> simp_all

/-- The JSON forms of failures are equal exactly if the failures are. -/
theorem toJson_same_iff (leftUnreserved : left.Unreserved)
    (rightUnreserved : right.Unreserved) :
    left.toJson.Same right.toJson ↔ left.Same right := by
  have codeUsed : "code" ∈ reserved := by decide
  have noLeftCode := leftUnreserved.get?_eq_none codeUsed
  have noRightCode := rightUnreserved.get?_eq_none codeUsed
  rw [toJson, toJson, Json.same_object_iff]
  simp only [get?_members, noLeftCode, noRightCode, Option.or_none]
  constructor
  · intro same
    constructor
    · simpa [Json.same_string_iff] using same "message"
    · simpa [ErrorCode.option_toJson_same_iff] using same "code"
    · simpa [Json.same_string_iff] using same "schemaName"
    · intro key
      by_cases used : key ∈ reserved
      · rw [leftUnreserved.get?_eq_none used, rightUnreserved.get?_eq_none used]
        exact .none
      · have atKey := same key
        simp only [reserved, List.mem_cons, List.not_mem_nil, or_false, not_or] at used
        obtain ⟨notMessage, notCode, notName⟩ := used
        simpa only [if_neg notMessage, if_neg notCode, if_neg notName] using atKey
  · intro same key
    rw [same.message, same.code, same.schemaName]
    split_ifs
    · exact Json.Same.refl_option _
    · exact Json.Same.refl_option _
    · exact Json.Same.refl_option _
    · exact same.extra key

theorem toJson_injective : Function.Injective toJson := by
  intro left right same
  obtain ⟨message, code, schemaName, extra⟩ := left
  obtain ⟨message', code', schemaName', extra'⟩ := right
  rw [toJson, toJson, Json.object.injEq, members_eq, members_eq] at same
  cases code <;> cases code' <;> simp_all [ErrorCode.toJson_injective.eq_iff]

/-- A failure keeps exactly the caller's fields whose keys it does not use, each once.  No
more of them leave their places than fields are dropped, and none does if none is dropped.
The message, the code and the name of the schema do not depend on the caller's fields.  The
JSON form lists message, code if there is one, name of the schema and the fields, repeats no
key, and determines the failure, also where the order of members does not count. -/
theorem caller_fields_are_kept_apart (schemaName : String) (info : ErrorInfo) :
    (Failure.of schemaName info).extra.Perm
      (info.fields.filter fun field => field.1 ∉ ["message", "code", "schemaName"]) ∧
    (∃ moved : List (String × Json),
      moved.length ≤
        info.fields.countP (fun field => field.1 ∈ ["message", "code", "schemaName"]) ∧
      ∀ (index : Nat) (field : String × Json), info.fields[index]? = some field →
        field.1 ∉ ["message", "code", "schemaName"] →
        (Failure.of schemaName info).extra[index]? = some field ∨ field ∈ moved) ∧
    ((∀ field ∈ info.fields, field.1 ∉ ["message", "code", "schemaName"]) →
      (Failure.of schemaName info).extra = info.fields) ∧
    (∀ otherInfo,
      (Failure.of schemaName { info with otherInfo }).message =
        (Failure.of schemaName info).message ∧
      (Failure.of schemaName { info with otherInfo }).code = (Failure.of schemaName info).code ∧
      (Failure.of schemaName { info with otherInfo }).schemaName =
        (Failure.of schemaName info).schemaName) ∧
    (Failure.of schemaName info).toJson =
      .object (("message", .string (Failure.of schemaName info).message) ::
        ((Failure.of schemaName info).code.toList.map fun code => ("code", code.toJson)) ++
          ("schemaName", .string (Failure.of schemaName info).schemaName) ::
            (Failure.of schemaName info).extra) ∧
    Json.Entries.Distinct (Failure.of schemaName info).members ∧
    (∀ otherName otherInfo,
      ((Failure.of schemaName info).toJson.Same (Failure.of otherName otherInfo).toJson ↔
        (Failure.of schemaName info).Same (Failure.of otherName otherInfo)) ∧
      ((Failure.of schemaName info).toJson = (Failure.of otherName otherInfo).toJson →
        Failure.of schemaName info = Failure.of otherName otherInfo)) := by
  refine ⟨extra_of_perm, ?_, ?_, ?_, ?_, members_distinct unreserved_of extra_of_distinct, ?_⟩
  · exact Json.Entries.swapRemoveAll_keepsPlaces info.fields_distinct
  · intro absent
    exact Json.Entries.swapRemoveAll_of_absent absent
  · intro otherInfo
    exact ⟨rfl, rfl, rfl⟩
  · rw [toJson, members_eq]
  · intro otherName otherInfo
    exact ⟨toJson_same_iff unreserved_of unreserved_of, fun same => toJson_injective same⟩

end Failure

end TypeSchema
