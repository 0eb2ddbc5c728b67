import TypeSchema.Proofs.Outcome
import TypeSchema.Schema

/-!
# The nodes of a compiled form

The nodes of a document are the document itself and, below every union, the elements of its
`subSchemas`.  `Describes` says which schema a node mirrors.  A document describes a schema
if and only if every node has a known tag and the members that the tag calls for.
-/

namespace TypeSchema.Schema

/-- The text that a node has under a key. -/
def textAt? (key : String) (node : Json) : Option String :=
  (node.member? key).bind Json.text?

/-- The elements of the list that a node has under a key. -/
def listAt? (key : String) (node : Json) : Option (List Json) :=
  (node.member? key).bind Json.elements?

theorem textAt?_cons {key name : String} {value : Json} {rest : List (String × Json)} :
    textAt? key (.object ((name, value) :: rest)) =
      if name = key then value.text? else textAt? key (.object rest) := by
  by_cases same : name = key <;> simp [textAt?, Json.member?, Json.Entries.get?, same]

theorem listAt?_cons {key name : String} {value : Json} {rest : List (String × Json)} :
    listAt? key (.object ((name, value) :: rest)) =
      if name = key then value.elements? else listAt? key (.object rest) := by
  by_cases same : name = key <;> simp [listAt?, Json.member?, Json.Entries.get?, same]

/-- The nodes right below a node, which only a union has. -/
def subNodes (node : Json) : List Json :=
  if textAt? "schemaType" node = some "union" then
    (listAt? "subSchemas" node).getD []
  else
    []

theorem sizeOf_lt_of_get? {key : String} {value : Json} {members : List (String × Json)}
    (found : Json.Entries.get? key members = some value) :
    sizeOf value < sizeOf members := by
  induction members with
  | nil => cases found
  | cons member rest ih =>
      obtain ⟨name, content⟩ := member
      rw [Json.Entries.get?] at found
      split at found
      · cases found
        simp
        omega
      · have smaller := ih found
        simp
        omega

theorem sizeOf_lt_of_mem_subNodes {node inner : Json} (member : inner ∈ subNodes node) :
    sizeOf inner < sizeOf node := by
  unfold subNodes listAt? at member
  split at member
  · cases node with
    | object members =>
        cases found : Json.Entries.get? "subSchemas" members with
        | none => simp [Json.member?, found] at member
        | some value =>
            cases value with
            | array elements =>
                have inElements : inner ∈ elements := by
                  simpa [Json.member?, found, Json.elements?] using member
                have inside := List.sizeOf_lt_of_mem inElements
                have smaller := sizeOf_lt_of_get? found
                simp only [Json.array.sizeOf_spec] at smaller
                simp only [Json.object.sizeOf_spec]
                omega
            | _ => simp [Json.member?, found, Json.elements?] at member
    | _ => simp [Json.member?] at member
  · cases member

/-- All nodes of a document, every node before those below it. -/
def nodes (node : Json) : List Json :=
  node :: (subNodes node).attach.flatMap fun inner => nodes inner.1
termination_by node
decreasing_by exact sizeOf_lt_of_mem_subNodes inner.2

theorem nodes_eq (node : Json) : nodes node = node :: (subNodes node).flatMap nodes := by
  rw [nodes]
  simp [List.flatMap_def]

/-- What holds of a node whenever it holds of the nodes right below it holds of every node. -/
@[elab_as_elim]
theorem node_induction {motive : Json → Prop}
    (step : ∀ node, (∀ inner ∈ subNodes node, motive inner) → motive node) (node : Json) :
    motive node := by
  induction node using nodes.induct with
  | case1 node ih =>
      apply step
      intro inner member
      exact ih ⟨inner, member⟩

theorem forall_mem_nodes_iff {property : Json → Prop} {node : Json} :
    (∀ inner ∈ nodes node, property inner) ↔
      property node ∧ ∀ sub ∈ subNodes node, ∀ inner ∈ nodes sub, property inner := by
  rw [nodes_eq, List.forall_mem_cons]
  simp only [List.mem_flatMap]
  refine and_congr_right fun _ => ⟨?_, ?_⟩
  · intro all sub inSubs inner inNodes
    exact all inner ⟨sub, inSubs, inNodes⟩
  · rintro all inner ⟨sub, inSubs, inNodes⟩
    exact all sub inSubs inner inNodes

/-- The tags that a node may have. -/
def knownTags : List String := ["basic", "array", "union"]

/-- The node is an object that says under `schemaType` which known form it has. -/
def HasTag (node : Json) : Prop :=
  ∃ tag ∈ knownTags, textAt? "schemaType" node = some tag

theorem HasTag.cases {node : Json} (tagged : HasTag node) :
    textAt? "schemaType" node = some "basic" ∨ textAt? "schemaType" node = some "array" ∨
      textAt? "schemaType" node = some "union" := by
  obtain ⟨tag, known, found⟩ := tagged
  simp only [knownTags, List.mem_cons, List.not_mem_nil, or_false] at known
  rcases known with rfl | rfl | rfl
  · exact .inl found
  · exact .inr (.inl found)
  · exact .inr (.inr found)

/-- The node lacks a member that its form calls for. -/
inductive Incomplete (node : Json) : Prop where
  | noName : textAt? "schemaName" node = none → Incomplete node
  | noType : textAt? "schemaType" node = some "basic" →
      textAt? "type" node = none → Incomplete node
  | noElementType : textAt? "schemaType" node = some "array" →
      textAt? "elementType" node = none → Incomplete node
  | noMembers : textAt? "schemaType" node = some "union" →
      listAt? "subSchemas" node = none → Incomplete node

/-- The node mirrors the schema, member by member. -/
inductive Describes : Json → Schema → Prop where
  | basic {node : Json} {type name : String} :
      textAt? "schemaType" node = some "basic" → textAt? "type" node = some type →
      textAt? "schemaName" node = some name →
      Describes node (.basic type name)
  | array {node : Json} {type name : String} :
      textAt? "schemaType" node = some "array" → textAt? "elementType" node = some type →
      textAt? "schemaName" node = some name →
      Describes node (.array type name)
  | union {node : Json} {inner : List Json} {members : List Schema} {name : String} :
      textAt? "schemaType" node = some "union" → listAt? "subSchemas" node = some inner →
      List.Forall₂ Describes inner members → textAt? "schemaName" node = some name →
      Describes node (.union members name)

theorem describes_basic_iff {node : Json} {schema : Schema}
    (tag : textAt? "schemaType" node = some "basic") :
    Describes node schema ↔
      ∃ type name, textAt? "type" node = some type ∧
        textAt? "schemaName" node = some name ∧ .basic type name = schema := by
  constructor
  · intro describes
    cases describes with
    | basic _ hasType hasName => exact ⟨_, _, hasType, hasName, rfl⟩
    | array tag' => simp [tag] at tag'
    | union tag' => simp [tag] at tag'
  · rintro ⟨type, name, hasType, hasName, rfl⟩
    exact .basic tag hasType hasName

theorem describes_array_iff {node : Json} {schema : Schema}
    (tag : textAt? "schemaType" node = some "array") :
    Describes node schema ↔
      ∃ type name, textAt? "elementType" node = some type ∧
        textAt? "schemaName" node = some name ∧ .array type name = schema := by
  constructor
  · intro describes
    cases describes with
    | basic tag' => simp [tag] at tag'
    | array _ hasType hasName => exact ⟨_, _, hasType, hasName, rfl⟩
    | union tag' => simp [tag] at tag'
  · rintro ⟨type, name, hasType, hasName, rfl⟩
    exact .array tag hasType hasName

theorem describes_union_iff {node : Json} {schema : Schema}
    (tag : textAt? "schemaType" node = some "union") :
    Describes node schema ↔
      ∃ inner members name, listAt? "subSchemas" node = some inner ∧
        List.Forall₂ Describes inner members ∧
        textAt? "schemaName" node = some name ∧ .union members name = schema := by
  constructor
  · intro describes
    cases describes with
    | basic tag' => simp [tag] at tag'
    | array tag' => simp [tag] at tag'
    | union _ listed all hasName => exact ⟨_, _, _, listed, all, hasName, rfl⟩
  · rintro ⟨inner, members, name, listed, all, hasName, rfl⟩
    exact .union tag listed all hasName

theorem subNodes_of_union {node : Json} {inner : List Json}
    (tag : textAt? "schemaType" node = some "union")
    (listed : listAt? "subSchemas" node = some inner) : subNodes node = inner := by
  rw [subNodes, if_pos tag, listed]
  rfl

theorem subNodes_of_not_union {node : Json}
    (tag : textAt? "schemaType" node ≠ some "union") : subNodes node = [] := by
  rw [subNodes, if_neg tag]

theorem Describes.hasTag {node : Json} {schema : Schema} (describes : Describes node schema) :
    HasTag node := by
  cases describes with
  | basic tag => exact ⟨"basic", by simp [knownTags], tag⟩
  | array tag => exact ⟨"array", by simp [knownTags], tag⟩
  | union tag => exact ⟨"union", by simp [knownTags], tag⟩

theorem Describes.not_incomplete {node : Json} {schema : Schema}
    (describes : Describes node schema) : ¬ Incomplete node := by
  intro incomplete
  cases describes with
  | basic tag hasType hasName => cases incomplete <;> simp_all
  | array tag hasType hasName => cases incomplete <;> simp_all
  | union tag listed all hasName => cases incomplete <;> simp_all

/-- A node mirrors a schema if and only if it and those below it have their tags and
members. -/
theorem exists_describes_iff {node : Json} :
    (∃ schema, Describes node schema) ↔
      ∀ inner ∈ nodes node, HasTag inner ∧ ¬ Incomplete inner := by
  induction node using node_induction with
  | step node ih =>
      rw [forall_mem_nodes_iff]
      constructor
      · rintro ⟨schema, describes⟩
        refine ⟨⟨describes.hasTag, describes.not_incomplete⟩, ?_⟩
        cases describes with
        | basic tag => simp [subNodes_of_not_union, tag]
        | array tag => simp [subNodes_of_not_union, tag]
        | @union _ inner members name tag listed all hasName =>
            rw [subNodes_of_union tag listed] at ih ⊢
            intro sub member
            exact (ih sub member).mp (List.exists_forall₂_iff.mp ⟨members, all⟩ sub member)
      · rintro ⟨⟨tagged, complete⟩, below⟩
        obtain ⟨name, hasName⟩ := Option.ne_none_iff_exists'.mp
          fun missing => complete (.noName missing)
        rcases tagged.cases with tag | tag | tag
        · obtain ⟨type, hasType⟩ := Option.ne_none_iff_exists'.mp
            fun missing => complete (.noType tag missing)
          exact ⟨_, .basic tag hasType hasName⟩
        · obtain ⟨type, hasType⟩ := Option.ne_none_iff_exists'.mp
            fun missing => complete (.noElementType tag missing)
          exact ⟨_, .array tag hasType hasName⟩
        · obtain ⟨inner, listed⟩ := Option.ne_none_iff_exists'.mp
            fun missing => complete (.noMembers tag missing)
          rw [subNodes_of_union tag listed] at ih below
          obtain ⟨members, all⟩ := List.exists_forall₂_iff.mpr
            fun sub member => (ih sub member).mpr (below sub member)
          exact ⟨_, .union tag listed all hasName⟩

end TypeSchema.Schema
