import Mathlib.Data.Finset.Card
import TypeSchema.Proofs.Registry.LookUp

/-!
# Registries as maps

A registry is a map from names to types, determined by what it holds under each name.  The
registry of a list holds the last type of each name, and lists the names once each, in the
order of their bytes.  So every registry is that of its own types, and a list may be reordered
as long as types of one name keep their order.
-/

namespace TypeSchema.Registry

variable {registry left right : Registry} {types other : List LeafType} {type : LeafType}
  {name : String}

/-- A registry answers as a list of types in which the last type of a name counts. -/
structure LastWins (registry : Registry) (types : List LeafType) : Prop where
  get?_eq : ∀ name,
    registry.get? name = (types.filter fun type => type.name = name).getLast?
  contains_eq : ∀ name, registry.contains name = (registry.get? name).isSome
  displayName?_eq : ∀ name,
    registry.displayName? name = (registry.get? name).map LeafType.displayName
  ascending : registry.names.Pairwise Text.Precedes
  mem_names : ∀ name, name ∈ registry.names ↔ name ∈ types.map LeafType.name
  /-- The types are listed in the order of the names, each as what its name finds. -/
  typesFollow : List.Forall₂
    (fun name type => type.name = name ∧ registry.get? name = some type)
    registry.names registry.types
  /-- The display names are listed in the order of the names, each beside its name. -/
  displayNamesFollow : List.Forall₂
    (fun name pair => pair.1 = name ∧ registry.displayName? name = some pair.2)
    registry.names registry.displayNames
  size_eq : registry.size = (types.map LeafType.name).toFinset.card
  isEmpty_eq : registry.isEmpty = types.isEmpty

/-- The other list holds the same types, and those of each name in the same order. -/
structure Reorders (types other : List LeafType) : Prop where
  perm : other.Perm types
  namesakes : ∀ name,
    (other.filter fun type => type.name = name) = types.filter fun type => type.name = name

theorem names_ascending (registry : Registry) : registry.names.Pairwise Text.Precedes :=
  List.pairwise_map.mpr registry.ascending

theorem names_nodup (registry : Registry) : registry.names.Nodup := by
  apply registry.names_ascending.imp
  intro earlier later before same
  exact Text.Precedes.irrefl later (same ▸ before)

theorem get?_eq_some_iff :
    registry.get? name = some type ↔ type ∈ registry.types ∧ type.name = name :=
  find?_eq_some_iff_of_distinct registry.names_nodup

theorem mem_types_iff : type ∈ registry.types ↔ registry.get? type.name = some type := by
  rw [get?_eq_some_iff, and_iff_left rfl]

theorem mem_names_iff : name ∈ registry.names ↔ ∃ type, registry.get? name = some type := by
  simp only [names, List.mem_map, get?_eq_some_iff]

theorem forall₂_names_types (registry : Registry) :
    List.Forall₂ (fun name type => type.name = name ∧ registry.get? name = some type)
      registry.names registry.types := by
  rw [names, List.forall₂_map_left_iff, List.forall₂_same]
  exact fun type listed => ⟨rfl, mem_types_iff.mp listed⟩

theorem forall₂_names_displayNames (registry : Registry) :
    List.Forall₂ (fun name pair => pair.1 = name ∧ registry.displayName? name = some pair.2)
      registry.names registry.displayNames := by
  rw [names, displayNames, List.forall₂_map_left_iff, List.forall₂_map_right_iff,
    List.forall₂_same]
  intro type listed
  rw [displayName?, mem_types_iff.mp listed]
  exact ⟨rfl, rfl⟩

/-- What a registry holds under each name determines the registry. -/
theorem eq_of_get?_eq (same : ∀ name, left.get? name = right.get? name) : left = right := by
  have sameMembers : ∀ type, type ∈ left.types ↔ type ∈ right.types := by
    intro type
    rw [mem_types_iff, mem_types_iff, same]
  have permutation : left.types.Perm right.types :=
    (List.perm_ext_iff_of_nodup left.names_nodup.of_map right.names_nodup.of_map).mpr sameMembers
  -- Both lists ascend strictly, so that no two types can stand in different orders in them.
  have sameTypes : left.types = right.types := by
    apply permutation.eq_of_pairwise _ left.ascending right.ascending
    intro first second _ _ before after
    exact absurd (before.trans after) (Text.Precedes.irrefl _)
  cases left
  cases right
  congr

theorem get?_ofList_eq_getLast? :
    (ofList types).get? name = (types.filter fun type => type.name = name).getLast? := by
  rw [get?_ofList, List.getLast?_filter]

theorem mem_names_ofList : name ∈ (ofList types).names ↔ name ∈ types.map LeafType.name := by
  rw [mem_names_iff, ← Option.isSome_iff_exists, get?_ofList, List.find?_isSome]
  simp only [List.mem_reverse, decide_eq_true_eq, List.mem_map]

theorem size_ofList : (ofList types).size = (types.map LeafType.name).toFinset.card := by
  have sameNames : (ofList types).names.toFinset = (types.map LeafType.name).toFinset := by
    ext name
    rw [List.mem_toFinset, List.mem_toFinset, mem_names_ofList]
  calc
    (ofList types).size = (ofList types).names.length := (List.length_map _).symm
    _ = (ofList types).names.toFinset.card :=
      (List.toFinset_card_of_nodup (ofList types).names_nodup).symm
    _ = (types.map LeafType.name).toFinset.card := by rw [sameNames]

theorem isEmpty_ofList : (ofList types).isEmpty = types.isEmpty := by
  have sameNames : (ofList types).names = [] ↔ types.map LeafType.name = [] := by
    simp only [List.eq_nil_iff_forall_not_mem, mem_names_ofList]
  rw [isEmpty, Bool.eq_iff_iff, List.isEmpty_iff, List.isEmpty_iff]
  rwa [names, List.map_eq_nil_iff, List.map_eq_nil_iff] at sameNames

theorem lastWins_ofList (types : List LeafType) : (ofList types).LastWins types where
  get?_eq _ := get?_ofList_eq_getLast?
  contains_eq _ := rfl
  displayName?_eq _ := rfl
  ascending := names_ascending _
  mem_names _ := mem_names_ofList
  typesFollow := forall₂_names_types _
  displayNamesFollow := forall₂_names_displayNames _
  size_eq := size_ofList
  isEmpty_eq := isEmpty_ofList

/-- Every registry is the registry of its own types. -/
theorem ofList_types (registry : Registry) : ofList registry.types = registry := by
  apply eq_of_get?_eq
  intro name
  ext type
  rw [get?_ofList_eq_some_iff registry.names_nodup, get?_eq_some_iff]

theorem ofList_of_reorders (reorders : Reorders types other) : ofList other = ofList types := by
  apply eq_of_get?_eq
  intro name
  rw [get?_ofList_eq_getLast?, get?_ofList_eq_getLast?, reorders.namesakes]

/-- The registry of a list holds the last type of each name, and lists what it holds in the
order of the names.  The types that it lists make the same registry again, and so does every
reordering of the list that keeps the types of each name in order. -/
theorem ofList_is_last_wins_map (types : List LeafType) :
    (ofList types).LastWins types ∧
    ofList (ofList types).types = ofList types ∧
    ∀ other, Reorders types other → ofList other = ofList types := by
  refine ⟨lastWins_ofList types, ofList_types (ofList types), ?_⟩
  intro other reorders
  exact ofList_of_reorders reorders

/-- A type of another name moves past one of two namesakes, of which the later one counts. -/
theorem ofList_is_last_wins_map_namesakes :
    let flag : LeafType := ⟨"flag", "Flag", .boolean, fun value => value.kind = .boolean⟩
    let text : LeafType := ⟨"text", "Text", .string, fun value => value.kind = .string⟩
    let switch : LeafType := ⟨"flag", "Switch", .boolean, fun value => value.kind = .boolean⟩
    Reorders [flag, text, switch] [text, flag, switch] ∧
      ofList [text, flag, switch] = ofList [flag, text, switch] ∧
      (ofList [text, flag, switch]).displayNames = [("flag", "Switch"), ("text", "Text")] := by
  intro flag text switch
  have reorders : Reorders [flag, text, switch] [text, flag, switch] := by
    refine ⟨.swap _ _ _, ?_⟩
    intro name
    by_cases flagged : "flag" = name
    · subst flagged
      rfl
    · simp [flag, text, switch, List.filter_cons, flagged]
  obtain ⟨-, -, kept⟩ := ofList_is_last_wins_map [flag, text, switch]
  exact ⟨reorders, kept _ reorders, by decide⟩

end TypeSchema.Registry
