import TypeSchema.Cache
import TypeSchema.Proofs.Json.Entries

/-!
# Caches answer as if they remembered nothing

A cache is faithful to a registry when every schema that it remembers is the one that its
text denotes there.  No operation breaks this, whether it succeeds or fails, and so after any
history a cache gives the answers that reading the text anew would give.
-/

namespace TypeSchema

namespace SchemaCache

/-- The cache remembers nothing but what texts denote in the registry. -/
structure Faithful (registry : Registry) (cache : SchemaCache) : Prop where
  sameRegistry : cache.registry = registry
  remembered : ∀ entry ∈ cache.schemas, Schema.parse registry entry.1 = .ok entry.2

theorem faithful_empty (registry : Registry) : Faithful registry (empty registry) := by
  constructor
  · rfl
  · intro entry member
    cases member

namespace Faithful

variable {registry : Registry} {cache : SchemaCache}

/-- To fetch from a faithful cache is to read the text, and leaves the cache faithful. -/
theorem fetch (faithful : Faithful registry cache) (text : String) :
    (cache.fetch text).1 = Schema.parse registry text ∧
      Faithful registry (cache.fetch text).2 := by
  unfold SchemaCache.fetch
  cases hit : cache.get? text with
  | some schema =>
      have known := faithful.remembered _ (Json.Entries.mem_of_get? hit)
      exact ⟨known.symm, faithful⟩
  | none =>
      rw [faithful.sameRegistry]
      cases read : Schema.parse registry text with
      | error error => exact ⟨rfl, faithful⟩
      | ok schema =>
          refine ⟨rfl, rfl, ?_⟩
          intro entry member
          rcases List.mem_cons.mp member with rfl | old
          · exact read
          · exact faithful.remembered entry old

theorem conforms (faithful : Faithful registry cache) (text : String) (value : Json) :
    (cache.conforms text value).1 = TypeSchema.conforms registry text value ∧
      Faithful registry (cache.conforms text value).2 := by
  obtain ⟨fetched, stillFaithful⟩ := faithful.fetch text
  refine ⟨?_, stillFaithful⟩
  rw [SchemaCache.conforms, TypeSchema.conforms, ← fetched, faithful.sameRegistry]
  rfl

theorem require (faithful : Faithful registry cache) (text : String) (value : Json)
    (info : ErrorInfo) :
    (cache.require text value info).1 = TypeSchema.require registry text value info ∧
      Faithful registry (cache.require text value info).2 := by
  obtain ⟨fetched, stillFaithful⟩ := faithful.fetch text
  rw [SchemaCache.require, TypeSchema.require, ← fetched, faithful.sameRegistry]
  cases answered : cache.fetch text with
  | mk schema later =>
      rw [answered] at stillFaithful
      cases schema with
      | error error => exact ⟨rfl, stillFaithful⟩
      | ok schema => exact ⟨rfl, stillFaithful⟩

theorem erase (faithful : Faithful registry cache) (text : String) :
    Faithful registry (cache.erase text) := by
  refine ⟨faithful.sameRegistry, ?_⟩
  intro entry member
  exact faithful.remembered entry (List.mem_filter.mp member).1

theorem clear (faithful : Faithful registry cache) : Faithful registry cache.clear := by
  refine ⟨faithful.sameRegistry, ?_⟩
  intro entry member
  cases member

/-- No operation makes a cache remember what is not so. -/
theorem perform (faithful : Faithful registry cache) (operation : Operation) :
    Faithful registry (cache.perform operation).2 := by
  cases operation with
  | fetch text => exact (faithful.fetch text).2
  | conforms text value => exact (faithful.conforms text value).2
  | require text value info => exact (faithful.require text value info).2
  | contains text => exact faithful
  | erase text => exact faithful.erase text
  | clear => exact faithful.clear
  | size => exact faithful
  | isEmpty => exact faithful

theorem performAll (faithful : Faithful registry cache) (operations : List Operation) :
    Faithful registry (cache.performAll operations) := by
  induction operations generalizing cache with
  | nil => exact faithful
  | cons operation rest ih => exact ih (faithful.perform operation)

end Faithful

/-- After any history, a cache over a registry fetches, asks and asserts as if it had
remembered nothing, and every schema that it remembers is the one that its text denotes. -/
theorem performAll_transparent (registry : Registry) (operations : List Operation)
    (text : String) (value : Json) (info : ErrorInfo) :
    let cache := (empty registry).performAll operations
    (cache.fetch text).1 = Schema.parse registry text ∧
      (cache.conforms text value).1 = TypeSchema.conforms registry text value ∧
      (cache.require text value info).1 = TypeSchema.require registry text value info ∧
      ∀ entry ∈ cache.schemas, Schema.parse registry entry.1 = .ok entry.2 := by
  intro cache
  have faithful : Faithful registry cache := (faithful_empty registry).performAll operations
  exact ⟨(faithful.fetch text).1, (faithful.conforms text value).1,
    (faithful.require text value info).1, faithful.remembered⟩

end SchemaCache

end TypeSchema
