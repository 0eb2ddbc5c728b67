import Mathlib.Data.List.Induction
import Mathlib.Data.List.Nodup
import TypeSchema.Catalogue

/-!
# What a registry finds

Of several types registered under one name the last one counts.  A registry is extended by
every other that holds its types under their names, as one does to which types of new names
have been added.  The names in the catalogue are distinct, so the registry of the built-in
types holds all of it, each type under its own name, and nothing else.
-/

namespace TypeSchema

namespace Registry

theorem find?_place (type : LeafType) (types : List LeafType) (name : String) :
    (place type types).find? (fun known => known.name = name) =
      if type.name = name then some type
      else types.find? fun known => known.name = name := by
  induction types with
  | nil =>
      rw [place, List.find?_cons]
      by_cases sought : type.name = name <;> simp [sought]
  | cons head rest ih =>
      unfold place
      by_cases before : Text.Precedes type.name head.name
      · rw [if_pos before, List.find?_cons]
        by_cases sought : type.name = name <;> simp [sought]
      · rw [if_neg before]
        by_cases same : type.name = head.name
        · rw [if_pos same, List.find?_cons]
          by_cases sought : type.name = name <;> simp [sought, ← same]
        · rw [if_neg same, List.find?_cons, List.find?_cons, ih]
          by_cases found : head.name = name
          · have notSought : ¬ type.name = name := fun sought => same (sought.trans found.symm)
            simp [found, notSought]
          · simp [found]

theorem get?_register (registry : Registry) (type : LeafType) (name : String) :
    (registry.register type).get? name =
      if type.name = name then some type else registry.get? name :=
  find?_place type registry.types name

theorem ofList_concat (types : List LeafType) (type : LeafType) :
    ofList (types ++ [type]) = (ofList types).register type := by
  rw [ofList, List.foldl_append]
  rfl

/-- The last type of a name is the one that is registered under it. -/
theorem get?_ofList (types : List LeafType) (name : String) :
    (ofList types).get? name = types.reverse.find? fun type => type.name = name := by
  induction types using List.reverseRecOn with
  | nil => rfl
  | append_singleton types type ih =>
      rw [ofList_concat, get?_register, ih, List.reverse_append]
      by_cases sought : type.name = name <;> simp [sought]

theorem mem_of_find?_eq_some {types : List LeafType} {name : String} {type : LeafType}
    (found : types.find? (fun known => known.name = name) = some type) :
    type ∈ types ∧ type.name = name :=
  ⟨List.mem_of_find?_eq_some found, by simpa using List.find?_some found⟩

/-- Where names are distinct, exactly the types listed are found under their names. -/
theorem find?_eq_some_iff_of_distinct {types : List LeafType} {name : String} {type : LeafType}
    (distinct : (types.map LeafType.name).Nodup) :
    types.find? (fun known => known.name = name) = some type ↔
      type ∈ types ∧ type.name = name := by
  constructor
  · exact mem_of_find?_eq_some
  · rintro ⟨listed, rfl⟩
    cases found : types.find? fun known => known.name = type.name with
    | none =>
        have missing := List.find?_eq_none.mp found type listed
        simp at missing
    | some other =>
        obtain ⟨otherListed, sameName⟩ := mem_of_find?_eq_some found
        rw [List.inj_on_of_nodup_map distinct otherListed listed sameName]

theorem mem_of_get?_ofList {types : List LeafType} {name : String} {type : LeafType}
    (found : (ofList types).get? name = some type) : type ∈ types ∧ type.name = name := by
  rw [get?_ofList] at found
  exact (mem_of_find?_eq_some found).imp_left List.mem_reverse.mp

theorem get?_ofList_eq_some_iff {types : List LeafType} {name : String} {type : LeafType}
    (distinct : (types.map LeafType.name).Nodup) :
    (ofList types).get? name = some type ↔ type ∈ types ∧ type.name = name := by
  have distinctToo : (types.reverse.map LeafType.name).Nodup := by
    rwa [List.map_reverse, List.nodup_reverse]
  rw [get?_ofList, find?_eq_some_iff_of_distinct distinctToo, List.mem_reverse]

/-- The other registry holds every type of the registry under its name. -/
def ExtendedBy (registry other : Registry) : Prop :=
  ∀ name type, registry.get? name = some type → other.get? name = some type

theorem extendedBy_append {types added : List LeafType}
    (new : ∀ type ∈ added, ∀ known ∈ types, type.name ≠ known.name) :
    (ofList types).ExtendedBy (ofList (types ++ added)) := by
  intro name type found
  obtain ⟨member, named⟩ := mem_of_get?_ofList found
  rw [get?_ofList] at found
  have notAdded : added.reverse.find? (fun later => later.name = name) = none := by
    apply List.find?_eq_none.mpr
    intro later inAdded
    have different := new later (List.mem_reverse.mp inAdded) type member
    simpa [← named] using different
  rw [get?_ofList, List.reverse_append, List.find?_append, notAdded, found]
  rfl

end Registry

namespace Catalogue

variable {type : LeafType} {name : String}

theorem names_distinct : (types.map LeafType.name).Nodup := by
  decide

/-- Exactly the built-in types are found, each by its own name. -/
theorem get?_builtIn_eq_some_iff :
    Registry.builtIn.get? name = some type ↔ type ∈ types ∧ type.name = name :=
  Registry.get?_ofList_eq_some_iff names_distinct

theorem get?_builtIn (listed : type ∈ types) : Registry.builtIn.get? type.name = some type :=
  get?_builtIn_eq_some_iff.mpr ⟨listed, rfl⟩

theorem displayName?_builtIn_eq_some_iff {displayName : String} :
    Registry.builtIn.displayName? name = some displayName ↔
      ∃ type ∈ types, type.name = name ∧ type.displayName = displayName := by
  simp only [Registry.displayName?, Option.map_eq_some_iff, get?_builtIn_eq_some_iff, and_assoc]

end Catalogue

end TypeSchema
