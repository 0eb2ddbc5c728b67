import TypeSchema.Proofs.Assertion.Verdicts
import TypeSchema.Proofs.Cache.Transparency

/-!
# What a cache remembers

A cache remembers the texts that were looked up, could be read, and have not been dropped
since.  Looking up, whether it succeeds, fails or ends in a mismatch, changes nothing else,
and so the order of look-ups cannot be told from what a cache remembers.
-/

namespace TypeSchema

namespace SchemaCache

namespace Operation

/-- The text whose schema an operation looks up. -/
def sought? : Operation → Option String
  | .fetch text => some text
  | .conforms text _ => some text
  | .require text _ _ => some text
  | _ => none

/-- The operation makes a cache forget the text. -/
def Drops (text : String) : Operation → Prop
  | .erase other => other = text
  | .clear => True
  | _ => False

end Operation

/-- An operation looks the text up, which can be read, and no later one drops it. -/
def Held (registry : Registry) (operations : List Operation) (text : String) : Prop :=
  ∃ before lookUp after, operations = before ++ lookUp :: after ∧
    lookUp.sought? = some text ∧ (∃ schema, Schema.parse registry text = .ok schema) ∧
    ∀ later ∈ after, ¬ later.Drops text

variable {cache : SchemaCache} {operation : Operation} {operations : List Operation}
  {registry : Registry} {text other : String}

theorem contains_empty : (empty registry).contains text = false :=
  rfl

theorem contains_eq_true_iff :
    cache.contains text = true ↔ text ∈ Json.Entries.keys cache.schemas :=
  Json.Entries.isSome_get?_iff

/-- All look-ups of a text leave the same cache. -/
theorem perform_of_sought (sought : operation.sought? = some text) :
    (cache.perform operation).2 = (cache.fetch text).2 := by
  cases operation with
  | fetch known | conforms known value =>
      obtain rfl : known = text := Option.some.inj sought
      rfl
  | require known value info =>
      obtain rfl : known = text := Option.some.inj sought
      rw [perform, require]
      cases cache.fetch known with
      | mk result later => cases result <;> rfl
  | _ => cases sought

theorem fetch_of_contains (known : cache.contains text = true) :
    (cache.fetch text).2 = cache := by
  obtain ⟨schema, hit⟩ := Option.isSome_iff_exists.mp known
  rw [fetch, hit]

theorem fetch_of_unread {error : SchemaError}
    (failed : Schema.parse cache.registry text = .error error) :
    (cache.fetch text).2 = cache := by
  rw [fetch, failed]
  cases cache.get? text <;> rfl

theorem fetch_of_read {schema : Schema} (missing : cache.get? text = none)
    (read : Schema.parse cache.registry text = .ok schema) :
    (cache.fetch text).2 = { cache with schemas := (text, schema) :: cache.schemas } := by
  rw [fetch, missing, read]

theorem contains_fetch :
    (cache.fetch text).2.contains other = true ↔
      (text = other ∧ ∃ schema, Schema.parse cache.registry other = .ok schema) ∨
        cache.contains other = true := by
  cases read : Schema.parse cache.registry text with
  | error error =>
      rw [fetch_of_unread read]
      constructor
      · exact .inr
      · intro held
        cases held with
        | inl found =>
            obtain ⟨rfl, schema, readToo⟩ := found
            rw [read] at readToo
            cases readToo
        | inr known => exact known
  | ok schema =>
      by_cases known : cache.contains text = true
      · rw [fetch_of_contains known]
        constructor
        · exact .inr
        · intro held
          cases held with
          | inl found => exact found.1 ▸ known
          | inr known => exact known
      · have missing : cache.get? text = none := by
          simpa [contains] using known
        rw [fetch_of_read missing read, contains_eq_true_iff, contains_eq_true_iff]
        simp only [Json.Entries.keys, List.map_cons, List.mem_cons]
        constructor
        · intro member
          cases member with
          | inl same => exact .inl ⟨same.symm, schema, same ▸ read⟩
          | inr old => exact .inr old
        · intro held
          cases held with
          | inl found => exact .inl found.1.symm
          | inr old => exact .inr old

theorem contains_erase :
    (cache.erase text).contains other = true ↔
      text ≠ other ∧ cache.contains other = true := by
  rw [contains_eq_true_iff, contains_eq_true_iff, erase]
  simp only [Json.Entries.keys, List.mem_map, List.mem_filter, decide_eq_true_eq]
  constructor
  · intro member
    obtain ⟨entry, ⟨old, different⟩, rfl⟩ := member
    exact ⟨Ne.symm different, entry, old, rfl⟩
  · intro held
    obtain ⟨different, entry, old, rfl⟩ := held
    exact ⟨entry, ⟨old, Ne.symm different⟩, rfl⟩

theorem not_drops_of_sought (sought : operation.sought? = some text) :
    ¬ operation.Drops other := by
  cases operation with
  | fetch known | conforms known value | require known value info => exact id
  | _ => cases sought

/-- What is remembered after an operation: the text that it looks up, if that can be read,
and what was remembered before and is not dropped. -/
theorem contains_perform :
    (cache.perform operation).2.contains text = true ↔
      (operation.sought? = some text ∧
        ∃ schema, Schema.parse cache.registry text = .ok schema) ∨
      (cache.contains text = true ∧ ¬ operation.Drops text) := by
  cases sought : operation.sought? with
  | some known =>
      rw [perform_of_sought sought, contains_fetch, Option.some.injEq]
      simp only [not_drops_of_sought sought, not_false_eq_true, and_true]
  | none =>
      cases operation with
      | erase known =>
          simp only [perform, contains_erase, Operation.Drops]
          simp [and_comm]
      | clear => simp [perform, clear, contains, get?, Json.Entries.get?, Operation.Drops]
      | contains known => simp [perform, Operation.Drops]
      | size => simp [perform, Operation.Drops]
      | isEmpty => simp [perform, Operation.Drops]
      | _ => cases sought

theorem registry_fetch : (cache.fetch text).2.registry = cache.registry := by
  rw [fetch]
  cases cache.get? text with
  | some schema => rfl
  | none => cases Schema.parse cache.registry text <;> rfl

theorem registry_perform : (cache.perform operation).2.registry = cache.registry := by
  cases operation with
  | fetch text | conforms text value | require text value info =>
      rw [perform_of_sought rfl, registry_fetch]
  | _ => rfl

/-- No text is remembered twice. -/
theorem distinct_perform (distinct : Json.Entries.Distinct cache.schemas) :
    Json.Entries.Distinct (cache.perform operation).2.schemas := by
  cases sought : operation.sought? with
  | some known =>
      rw [perform_of_sought sought, fetch]
      cases hit : cache.get? known with
      | some schema => exact distinct
      | none =>
          cases read : Schema.parse cache.registry known with
          | error error => exact distinct
          | ok schema =>
              have absent : known ∉ Json.Entries.keys cache.schemas := by
                rw [← contains_eq_true_iff, contains, hit]
                simp
              exact List.nodup_cons.mpr ⟨absent, distinct⟩
  | none =>
      cases operation with
      | erase known => exact distinct.sublist (List.filter_sublist.map _)
      | clear => exact List.nodup_nil
      | contains known => exact distinct
      | size => exact distinct
      | isEmpty => exact distinct
      | _ => cases sought

theorem distinct_performAll (distinct : Json.Entries.Distinct cache.schemas) :
    Json.Entries.Distinct (cache.performAll operations).schemas := by
  induction operations generalizing cache with
  | nil => exact distinct
  | cons operation rest ih => exact ih (distinct_perform distinct)

theorem held_cons_iff :
    Held registry (operation :: operations) text ↔
      Held registry operations text ∨
        ((operation.sought? = some text ∧
          ∃ schema, Schema.parse registry text = .ok schema) ∧
          ∀ later ∈ operations, ¬ later.Drops text) := by
  constructor
  · intro held
    obtain ⟨before, lookUp, after, split, sought, read, kept⟩ := held
    cases before with
    | nil =>
        cases split
        exact .inr ⟨⟨sought, read⟩, kept⟩
    | cons first others =>
        cases split
        exact .inl ⟨others, lookUp, after, rfl, sought, read, kept⟩
  · intro held
    cases held with
    | inl later =>
        obtain ⟨before, lookUp, after, rfl, sought, read, kept⟩ := later
        exact ⟨operation :: before, lookUp, after, rfl, sought, read, kept⟩
    | inr first => exact ⟨[], operation, operations, rfl, first.1.1, first.1.2, first.2⟩

/-- After a history, a text is remembered if the history holds it, or if it was remembered
before and nothing in the history drops it. -/
theorem contains_performAll :
    (cache.performAll operations).contains text = true ↔
      Held cache.registry operations text ∨
        (cache.contains text = true ∧ ∀ operation ∈ operations, ¬ operation.Drops text) := by
  induction operations generalizing cache with
  | nil => simp [performAll, Held]
  | cons operation rest ih =>
      have step : (cache.performAll (operation :: rest)).contains text = true ↔
          ((cache.perform operation).2.performAll rest).contains text = true := Iff.rfl
      rw [step, ih, registry_perform, contains_perform, held_cons_iff, List.forall_mem_cons]
      simp only [or_and_right, and_assoc, or_assoc]

/-- Look-ups add the texts among theirs that can be read, and drop nothing. -/
theorem contains_lookUps {lookUps : List Operation}
    (sought : ∀ lookUp ∈ lookUps, ∃ text, lookUp.sought? = some text) :
    (cache.performAll lookUps).contains text = true ↔
      (∃ lookUp ∈ lookUps, lookUp.sought? = some text ∧
        ∃ schema, Schema.parse cache.registry text = .ok schema) ∨
      cache.contains text = true := by
  have kept : ∀ lookUp ∈ lookUps, ¬ lookUp.Drops text := by
    intro lookUp member
    obtain ⟨known, found⟩ := sought lookUp member
    exact not_drops_of_sought found
  rw [contains_performAll]
  constructor
  · intro held
    cases held with
    | inl found =>
        obtain ⟨before, lookUp, after, rfl, known, read, -⟩ := found
        exact .inl ⟨lookUp, by simp, known, read⟩
    | inr old => exact .inr old.1
  · intro held
    cases held with
    | inl found =>
        obtain ⟨lookUp, member, known, read⟩ := found
        obtain ⟨before, after, rfl⟩ := List.append_of_mem member
        refine .inl ⟨before, lookUp, after, rfl, known, read, ?_⟩
        intro later inAfter
        apply kept
        simp [inAfter]
    | inr old => exact .inr ⟨old, kept⟩

theorem get?_eq_of_faithful {left right : SchemaCache} (leftFaithful : Faithful registry left)
    (rightFaithful : Faithful registry right)
    (same : left.contains text = true ↔ right.contains text = true) :
    left.get? text = right.get? text := by
  simp only [contains, Option.isSome_iff_exists] at same
  cases inLeft : left.get? text with
  | none =>
      cases inRight : right.get? text with
      | none => rfl
      | some schema => simp [inLeft, inRight] at same
  | some schema =>
      obtain ⟨found, inRight⟩ := same.mp ⟨schema, inLeft⟩
      have leftRead := leftFaithful.remembered _ (Json.Entries.mem_of_get? inLeft)
      have rightRead := rightFaithful.remembered _ (Json.Entries.mem_of_get? inRight)
      have sameSchema : schema = found := Except.ok.inj (leftRead.symm.trans rightRead)
      rw [inRight, sameSchema]

theorem size_eq_of_distinct {left right : SchemaCache}
    (leftDistinct : Json.Entries.Distinct left.schemas)
    (rightDistinct : Json.Entries.Distinct right.schemas)
    (same : ∀ text, left.contains text = true ↔ right.contains text = true) :
    left.size = right.size := by
  simp only [contains_eq_true_iff] at same
  have permutation := (List.perm_ext_iff_of_nodup leftDistinct rightDistinct).mpr same
  simpa [Json.Entries.keys, size] using permutation.length_eq

/-- In whatever order look-ups are made, the same schemas are remembered under the same
texts. -/
theorem performAll_perm (faithful : Faithful registry cache)
    (distinct : Json.Entries.Distinct cache.schemas) {lookUps reordered : List Operation}
    (sought : ∀ lookUp ∈ lookUps, ∃ text, lookUp.sought? = some text)
    (permutation : lookUps.Perm reordered) :
    (∀ text, (cache.performAll lookUps).get? text = (cache.performAll reordered).get? text) ∧
      (cache.performAll lookUps).size = (cache.performAll reordered).size := by
  have soughtToo : ∀ lookUp ∈ reordered, ∃ text, lookUp.sought? = some text := by
    intro lookUp member
    exact sought lookUp (permutation.mem_iff.mpr member)
  have same : ∀ text, (cache.performAll lookUps).contains text = true ↔
      (cache.performAll reordered).contains text = true := by
    intro text
    rw [contains_lookUps sought, contains_lookUps soughtToo]
    simp only [permutation.mem_iff]
  constructor
  · intro text
    exact get?_eq_of_faithful (faithful.performAll lookUps) (faithful.performAll reordered)
      (same text)
  · exact size_eq_of_distinct (distinct_performAll distinct) (distinct_performAll distinct) same

theorem contains_of_refusal {value : Json} (faithful : Faithful registry cache)
    (mismatch : (cache.perform (.conforms text value)).1 = .verdict (.ok false)) :
    (cache.perform (.conforms text value)).2.contains text = true := by
  have answered : (cache.conforms text value).1 = .ok false := Answer.verdict.inj mismatch
  rw [(faithful.conforms text value).1] at answered
  obtain ⟨schema, read, -⟩ := Except.bind_eq_ok_iff.mp answered
  exact contains_perform.mpr (.inl ⟨rfl, schema, faithful.sameRegistry ▸ read⟩)

theorem contains_of_failure {value : Json} {info : ErrorInfo} {failure : Failure}
    (faithful : Faithful registry cache)
    (mismatch : (cache.perform (.require text value info)).1 =
      .assertion (.error (.value failure))) :
    (cache.perform (.require text value info)).2.contains text = true := by
  have answered : (cache.require text value info).1 = .error (.value failure) :=
    Answer.assertion.inj mismatch
  rw [(faithful.require text value info).1] at answered
  obtain ⟨-, schema, read, -⟩ := require_eq_value_iff.mp answered
  exact contains_perform.mpr (.inl ⟨rfl, schema, faithful.sameRegistry ▸ read⟩)

/-- A look-up adds nothing where the text is remembered or cannot be read. -/
theorem perform_of_known (sought : operation.sought? = some text)
    (idle : cache.contains text = true ∨
      ∃ error, Schema.parse cache.registry text = .error error) :
    (cache.perform operation).2 = cache := by
  rw [perform_of_sought sought]
  cases idle with
  | inl known => exact fetch_of_contains known
  | inr unread =>
      obtain ⟨error, failed⟩ := unread
      exact fetch_of_unread failed

theorem perform_twice :
    ((cache.perform operation).2.perform operation).2 = (cache.perform operation).2 := by
  cases sought : operation.sought? with
  | some text =>
      apply perform_of_known sought
      rw [registry_perform]
      cases read : Schema.parse cache.registry text with
      | error error => exact .inr ⟨error, rfl⟩
      | ok schema => exact .inl (contains_perform.mpr (.inl ⟨sought, schema, read⟩))
  | none =>
      cases operation with
      | erase text => simp [perform, erase]
      | clear | contains text | size | isEmpty => rfl
      | _ => cases sought

/-- After any history, a cache over a registry remembers the texts that the history holds,
each once, and an operation changes nothing else about what it remembers. -/
theorem performAll_remembers (registry : Registry) (operations : List Operation) :
    let cache := (empty registry).performAll operations
    (∀ text, cache.contains text = true ↔ Held registry operations text) ∧
    (∃ texts : List String, texts.Nodup ∧
      (∀ text, text ∈ texts ↔ Held registry operations text) ∧
      cache.size = texts.length) ∧
    (cache.isEmpty = true ↔ cache.size = 0) ∧
    (∀ text, (cache.perform (.erase text)).1 = .truth (cache.contains text) ∧
      (cache.perform (.erase text)).2.contains text = false ∧
      ∀ other, other ≠ text →
        (cache.perform (.erase text)).2.contains other = cache.contains other) ∧
    (∀ lookUp text, lookUp.sought? = some text →
      (cache.contains text = true ∨ ∃ error, Schema.parse registry text = .error error) →
      (cache.perform lookUp).2 = cache) ∧
    (∀ text value, (cache.perform (.conforms text value)).1 = .verdict (.ok false) →
      (cache.perform (.conforms text value)).2.contains text = true) ∧
    (∀ text value info failure,
      (cache.perform (.require text value info)).1 = .assertion (.error (.value failure)) →
      (cache.perform (.require text value info)).2.contains text = true) ∧
    (∀ operation,
      ((cache.perform operation).2.perform operation).2 = (cache.perform operation).2) ∧
    (∀ lookUps reordered : List Operation,
      (∀ lookUp ∈ lookUps, ∃ text, lookUp.sought? = some text) → lookUps.Perm reordered →
      (∀ text, (cache.performAll lookUps).get? text = (cache.performAll reordered).get? text) ∧
      (cache.performAll lookUps).size = (cache.performAll reordered).size) := by
  intro cache
  have faithful : Faithful registry cache := (faithful_empty registry).performAll operations
  have distinct : Json.Entries.Distinct cache.schemas := distinct_performAll List.nodup_nil
  have remembered : ∀ text, cache.contains text = true ↔ Held registry operations text := by
    intro text
    rw [contains_performAll, contains_empty]
    simp [empty]
  refine ⟨remembered, ?_, ?_, ?_, ?_, ?_, ?_, fun operation => perform_twice, ?_⟩
  · refine ⟨Json.Entries.keys cache.schemas, distinct, ?_, ?_⟩
    · intro text
      rw [← contains_eq_true_iff, remembered]
    · rw [Json.Entries.keys, List.length_map]
      rfl
  · exact List.isEmpty_iff_length_eq_zero
  · intro text
    refine ⟨rfl, ?_, ?_⟩
    · rw [Bool.eq_false_iff, ne_eq, contains_perform]
      simp [Operation.sought?, Operation.Drops]
    · intro other different
      rw [Bool.eq_iff_iff, contains_perform]
      simp [Operation.sought?, Operation.Drops, Ne.symm different]
  · intro lookUp text sought idle
    rw [← faithful.sameRegistry] at idle
    exact perform_of_known sought idle
  · exact fun text value mismatch => contains_of_refusal faithful mismatch
  · exact fun text value info failure mismatch => contains_of_failure faithful mismatch
  · exact fun lookUps reordered sought permutation =>
      performAll_perm faithful distinct sought permutation

end SchemaCache

end TypeSchema
