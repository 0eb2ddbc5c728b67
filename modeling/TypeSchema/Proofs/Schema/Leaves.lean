import TypeSchema.Proofs.Schema.Alternatives

/-!
# The first decisive leaf

The leaves of a schema are its basic and array schemas from left to right, at whatever depth
they stand in unions.  Holding a value against the schema is going through its leaves up to
the first one that is decisive: one that accepts the value, or whose type is not registered.
What stands behind that leaf cannot be observed, and neither can the nesting.
-/

namespace TypeSchema.Schema

/-- A basic or array schema without the name that reports use. -/
inductive Leaf where
  | basic (type : String)
  | array (elementType : String)
deriving DecidableEq

namespace Leaf

def type : Leaf → String
  | .basic type => type
  | .array elementType => elementType

def schema (displayName : String) : Leaf → Schema
  | .basic type => .basic type displayName
  | .array elementType => .array elementType displayName

/-- The leaf accepts the value, given the type that its name is registered for. -/
def Accepts (type : LeafType) (value : Json) : Leaf → Prop
  | .basic _ => type.accepts value = true
  | .array _ => ∃ elements, value = .array elements ∧
      ∀ element ∈ elements, type.accepts element = true

/-- The leaf settles what is asked about the value, with an answer or with an error. -/
def Decisive (registry : Registry) (value : Json) (leaf : Leaf) : Prop :=
  registry.get? leaf.type = none ∨
    ∃ type, registry.get? leaf.type = some type ∧ leaf.Accepts type value

end Leaf

mutual

/-- The leaves of a schema, from left to right. -/
def leaves : Schema → List Leaf
  | .basic type _ => [.basic type]
  | .array elementType _ => [.array elementType]
  | .union members _ => leavesAll members

/-- The leaves of schemas in turn. -/
def leavesAll : List Schema → List Leaf
  | [] => []
  | schema :: rest => leaves schema ++ leavesAll rest

end

variable {registry : Registry} {value : Json} {leaf : Leaf} {name : String}

theorem admits_leaf_of_registered (value : Json) (name : String) {type : LeafType}
    (registered : registry.get? leaf.type = some type) :
    ∃ answer, (leaf.schema name).admits registry value = .ok answer ∧
      (answer = true ↔ leaf.Accepts type value) := by
  cases leaf with
  | basic typeName => exact ⟨_, admits_basic registered, Iff.rfl⟩
  | array elementType => exact ⟨_, admits_array registered, allAccepted_eq_true_iff⟩

theorem admits_leaf_of_unregistered (unregistered : registry.get? leaf.type = none) :
    (leaf.schema name).admits registry value = .error (.unregistered leaf.type) := by
  cases leaf with
  | basic typeName =>
      change registry.get? typeName = none at unregistered
      rw [Leaf.schema, admits, leafType, unregistered]
      rfl
  | array elementType =>
      change registry.get? elementType = none at unregistered
      rw [Leaf.schema, admits, leafType, unregistered]
      rfl

theorem admits_leaf_of_decisive {type : LeafType} (decisive : leaf.Decisive registry value)
    (registered : registry.get? leaf.type = some type) :
    (leaf.schema name).admits registry value = .ok true := by
  obtain ⟨answer, answered, meaning⟩ :=
    admits_leaf_of_registered value name registered
  cases decisive with
  | inl unregistered =>
      rw [registered] at unregistered
      cases unregistered
  | inr accepted =>
      obtain ⟨other, found, accepts⟩ := accepted
      obtain rfl : other = type := Option.some.inj (found.symm.trans registered)
      rw [answered, meaning.mpr accepts]

theorem admits_leaf_of_not_decisive (indecisive : ¬ leaf.Decisive registry value) :
    (leaf.schema name).admits registry value = .ok false := by
  cases found : registry.get? leaf.type with
  | none => exact (indecisive (.inl found)).elim
  | some type =>
      obtain ⟨answer, answered, meaning⟩ :=
        admits_leaf_of_registered value name found
      have refused : ¬ answer = true := by
        intro accepts
        exact indecisive (.inr ⟨type, found, meaning.mp accepts⟩)
      rw [answered, Bool.eq_false_iff.mpr refused]

theorem anyAdmits_singleton (schema : Schema) :
    anyAdmits registry value [schema] = schema.admits registry value := by
  rw [anyAdmits]
  cases schema.admits registry value with
  | error error => rfl
  | ok answer => cases answer <;> rfl

/-- Going through two lists in turn is going through the first, and through the second if
nothing in the first one ends it. -/
theorem anyAdmits_append (left right : List Schema) :
    anyAdmits registry value (left ++ right) =
      (do
        if ← anyAdmits registry value left then
          return true
        else
          anyAdmits registry value right) := by
  induction left with
  | nil => rfl
  | cons schema rest ih =>
      rw [List.cons_append, anyAdmits, anyAdmits, ih]
      cases schema.admits registry value with
      | error error => rfl
      | ok answer => cases answer <;> rfl

/-- The leaves of a schema as schemas, each under a name of its own. -/
def flat (naming : Leaf → String) (leaves : List Leaf) : List Schema :=
  leaves.map fun leaf => leaf.schema (naming leaf)

mutual

/-- A schema judges as its leaves in turn do, whatever they are called. -/
theorem admits_eq_flat (naming : Leaf → String) (schema : Schema) :
    schema.admits registry value = anyAdmits registry value (flat naming (leaves schema)) := by
  cases schema with
  | basic type displayName =>
      rw [leaves, flat, List.map_singleton, anyAdmits_singleton, Leaf.schema, admits, admits]
  | array elementType displayName =>
      rw [leaves, flat, List.map_singleton, anyAdmits_singleton, Leaf.schema, admits, admits]
  | union members displayName =>
      rw [leaves, admits]
      exact anyAdmits_eq_flat naming members

/-- List counterpart of `admits_eq_flat`. -/
theorem anyAdmits_eq_flat (naming : Leaf → String) (schemas : List Schema) :
    anyAdmits registry value schemas =
      anyAdmits registry value (flat naming (leavesAll schemas)) := by
  cases schemas with
  | nil => rfl
  | cons schema rest =>
      rw [leavesAll, flat, List.map_append, anyAdmits_append, anyAdmits]
      have first := admits_eq_flat naming schema
      have others := anyAdmits_eq_flat naming rest
      rw [flat] at first others
      rw [first, others]

end

/-- Leaves that are not decisive are passed over. -/
theorem anyAdmits_flat_skip (naming : Leaf → String) {before : List Leaf}
    (indecisive : ∀ earlier ∈ before, ¬ earlier.Decisive registry value)
    (rest : List Leaf) :
    anyAdmits registry value (flat naming (before ++ rest)) =
      anyAdmits registry value (flat naming rest) := by
  induction before with
  | nil => rfl
  | cons leaf others ih =>
      have first : (leaf.schema (naming leaf)).admits registry value = .ok false :=
        admits_leaf_of_not_decisive (indecisive leaf List.mem_cons_self)
      have skipped := ih fun earlier member =>
        indecisive earlier (List.mem_cons_of_mem leaf member)
      calc
        anyAdmits registry value (flat naming (leaf :: others ++ rest))
            = anyAdmits registry value (flat naming (others ++ rest)) := by
              rw [List.cons_append, flat, List.map_cons, anyAdmits, first]
              rfl
        _ = anyAdmits registry value (flat naming rest) := skipped

theorem admits_of_no_decisive {schema : Schema}
    (indecisive : ∀ leaf ∈ leaves schema, ¬ leaf.Decisive registry value) :
    schema.admits registry value = .ok false := by
  have skipped := anyAdmits_flat_skip (fun _ => "") indecisive []
  rw [List.append_nil] at skipped
  rw [admits_eq_flat fun _ => "", skipped]
  rfl

/-- The first decisive leaf is the last one that is looked at. -/
theorem admits_of_first_decisive {schema : Schema} {before after : List Leaf}
    (split : leaves schema = before ++ leaf :: after)
    (indecisive : ∀ earlier ∈ before, ¬ earlier.Decisive registry value)
    (decisive : leaf.Decisive registry value) :
    schema.admits registry value = (leaf.schema "").admits registry value := by
  rw [admits_eq_flat fun _ => "", split, anyAdmits_flat_skip _ indecisive, flat, List.map_cons,
    anyAdmits]
  cases found : registry.get? leaf.type with
  | none =>
      rw [admits_leaf_of_unregistered found]
      rfl
  | some type =>
      rw [admits_leaf_of_decisive decisive found]
      rfl

/-- Without a decisive leaf the answer is negative.  Otherwise the first decisive leaf
decides: the answer is positive if its type is registered, and else the error that names the
type.  So a schema judges as the flat union of its leaves, and as every schema with the same
leaves, whatever the names are that reports use. -/
theorem first_decisive_leaf_decides (registry : Registry) (schema : Schema) (value : Json) :
    ((∀ leaf ∈ leaves schema, ¬ leaf.Decisive registry value) →
      schema.admits registry value = .ok false) ∧
    (∀ before leaf after, leaves schema = before ++ leaf :: after →
      (∀ earlier ∈ before, ¬ earlier.Decisive registry value) →
      leaf.Decisive registry value →
      (registry.contains leaf.type = true → schema.admits registry value = .ok true) ∧
      (registry.contains leaf.type = false → ∃ error,
        schema.admits registry value = .error error ∧
        error.code = "INTERNAL_ERROR_INVALID_SCHEMA" ∧
        error.message =
          "invalid schema type: type \"" ++ leaf.type ++ "\" is not registered")) ∧
    (∀ naming name,
      (union (flat naming (leaves schema)) name).admits registry value =
        schema.admits registry value) ∧
    (∀ other, leaves other = leaves schema →
      other.admits registry value = schema.admits registry value) := by
  refine ⟨admits_of_no_decisive, ?_, ?_, ?_⟩
  · intro before leaf after split indecisive decisive
    have decided := admits_of_first_decisive split indecisive decisive
    constructor
    · intro registered
      obtain ⟨type, found⟩ := Option.isSome_iff_exists.mp registered
      rw [decided, admits_leaf_of_decisive decisive found]
    · intro missing
      have unregistered : registry.get? leaf.type = none := by
        simpa [Registry.contains] using missing
      rw [decided, admits_leaf_of_unregistered unregistered]
      exact ⟨_, rfl, rfl, rfl⟩
  · intro naming name
    rw [admits, ← admits_eq_flat]
  · intro other same
    rw [admits_eq_flat (fun _ => "") other, same, ← admits_eq_flat]

end TypeSchema.Schema
