import TypeSchema.Json.Decoding
import TypeSchema.Text

/-!
# Leaf types and registries

A leaf type is a name that schemas may use, the name that reports use for it, one of seven
categories, which order the listing of types, and the values that belong to it.

A registry holds at most one leaf type for each name, in the order of the names' bytes.
Registering a type under a name that is taken replaces the earlier one.
-/

namespace TypeSchema

/-- A category of leaf types. -/
inductive Category where
  | number | integer | string | object | array | boolean | other
deriving DecidableEq, Repr

namespace Category

/-- All categories, in the order of the listing. -/
def all : List Category :=
  [.number, .integer, .string, .object, .array, .boolean, .other]

def name : Category → String
  | .number => "number"
  | .integer => "integer"
  | .string => "string"
  | .object => "object"
  | .array => "array"
  | .boolean => "boolean"
  | .other => "other"

/-- The category's name as a diagnostic shows it. -/
def capitalized : Category → String
  | .number => "Number"
  | .integer => "Integer"
  | .string => "String"
  | .object => "Object"
  | .array => "Array"
  | .boolean => "Boolean"
  | .other => "Other"

def ofName? (name : String) : Option Category :=
  all.find? fun category => category.name = name

def toJson (category : Category) : Json :=
  .string category.name

/-- The category with a name, or the complaint that there is none. -/
def decodeName (name : String) : Json.Decoded Category :=
  match ofName? name with
  | some category => .ok category
  | none => .error (.unknownName name (all.map Category.name))

/-- Reads the JSON form of a category: its name, or an object whose one member has the name
as its key and null as its value. -/
def ofJson : Json → Json.Decoded Category
  | .string name => decodeName name
  | .object [(name, payload)] => do
      let category ← decodeName name
      match payload with
      | .null => return category
      | value => throw (.wrongKind value .unit)
  | .object _ => .error .notSingle
  | value => .error (.wrongKind value .stringOrMap)

end Category

/-- A type that a schema can name. -/
structure LeafType where
  name : String
  displayName : String
  category : Category
  /-- The values that belong to the type. -/
  accepts : Json → Bool

namespace LeafType

/-- The name, the display name and the category, in one line. -/
def summary (type : LeafType) : String :=
  "TypeEntry \x7b name: " ++ Text.quote type.name ++
    ", display_name: " ++ Text.quote type.displayName ++
    ", category: " ++ type.category.capitalized ++ ", .. \x7d"

end LeafType

/-- Leaf types in strictly ascending order of their names. -/
structure Registry where
  types : List LeafType
  ascending : types.Pairwise fun earlier later => Text.Precedes earlier.name later.name

namespace Registry

/-- Puts a type into its place in a list in ascending order, over one of the same name. -/
def place (type : LeafType) : List LeafType → List LeafType
  | [] => [type]
  | head :: rest =>
      if Text.Precedes type.name head.name then type :: head :: rest
      else if type.name = head.name then type :: rest
      else head :: place type rest

theorem mem_place {type other : LeafType} {types : List LeafType}
    (member : other ∈ place type types) : other = type ∨ other ∈ types := by
  induction types with
  | nil => simpa [place] using member
  | cons head rest ih =>
      unfold place at member
      split at member
      · simpa using member
      · split at member
        · rcases List.mem_cons.mp member with same | later
          · exact .inl same
          · exact .inr (List.mem_cons_of_mem _ later)
        · rcases List.mem_cons.mp member with same | later
          · exact .inr (same ▸ List.mem_cons_self)
          · rcases ih later with same | inRest
            · exact .inl same
            · exact .inr (List.mem_cons_of_mem _ inRest)

theorem place_ascending {type : LeafType} {types : List LeafType}
    (ascending :
      types.Pairwise fun earlier later => Text.Precedes earlier.name later.name) :
    (place type types).Pairwise
      fun earlier later => Text.Precedes earlier.name later.name := by
  induction types with
  | nil => simp [place]
  | cons head rest ih =>
      obtain ⟨headFirst, restAscending⟩ := List.pairwise_cons.mp ascending
      unfold place
      split
      · rename_i before
        refine List.pairwise_cons.mpr ⟨?_, ascending⟩
        intro later member
        rcases List.mem_cons.mp member with same | inRest
        · exact same ▸ before
        · exact Text.Precedes.trans before (headFirst later inRest)
      · split
        · rename_i _ same
          refine List.pairwise_cons.mpr ⟨?_, restAscending⟩
          intro later member
          exact same ▸ headFirst later member
        · rename_i notBefore different
          refine List.pairwise_cons.mpr ⟨?_, ih restAscending⟩
          intro later member
          rcases mem_place member with same | inRest
          · subst same
            exact (Text.Precedes.trichotomy later.name head.name).resolve_left notBefore
              |>.resolve_left different
          · exact headFirst later inRest

def empty : Registry := ⟨[], .nil⟩

/-- Registers a type, over one of the same name. -/
def register (registry : Registry) (type : LeafType) : Registry where
  types := place type registry.types
  ascending := place_ascending registry.ascending

def ofList (types : List LeafType) : Registry :=
  types.foldl register empty

def get? (registry : Registry) (name : String) : Option LeafType :=
  registry.types.find? fun type => type.name = name

def contains (registry : Registry) (name : String) : Bool :=
  (registry.get? name).isSome

def displayName? (registry : Registry) (name : String) : Option String :=
  (registry.get? name).map LeafType.displayName

def names (registry : Registry) : List String :=
  registry.types.map LeafType.name

/-- The names with their display names, in order. -/
def displayNames (registry : Registry) : List (String × String) :=
  registry.types.map fun type => (type.name, type.displayName)

def size (registry : Registry) : Nat :=
  registry.types.length

def isEmpty (registry : Registry) : Bool :=
  registry.types.isEmpty

end Registry

end TypeSchema
