import TypeSchema.Proofs.Schema.Acceptance

/-!
# Compiled forms written and read again

Every schema describes the compiled form that it is written as, so reading undoes writing.
The other way round, a document that is read may hold more than is needed: writing leaves
what `pruned` keeps of it, at every node the tag, what the form calls for and the name.
-/

namespace TypeSchema.Schema

mutual

/-- The compiled form of a schema describes it, however deep its unions are nested. -/
theorem describes_toJson (schema : Schema) : Describes schema.toJson schema := by
  cases schema with
  | basic type name =>
      rw [toJson]
      exact .basic rfl rfl rfl
  | array type name =>
      rw [toJson]
      exact .array rfl rfl rfl
  | union members name =>
      rw [toJson]
      exact .union rfl rfl (describesAll_toJsonAll members) rfl

/-- List counterpart of `describes_toJson`. -/
theorem describesAll_toJsonAll (schemas : List Schema) :
    List.Forall₂ Describes (toJsonAll schemas) schemas := by
  cases schemas with
  | nil => exact .nil
  | cons schema rest =>
      rw [toJsonAll]
      exact .cons (describes_toJson schema) (describesAll_toJsonAll rest)

end

/-- A document is read as the schema that it describes, and as no other. -/
theorem ofJson_eq_ok_iff {node : Json} {schema : Schema} :
    ofJson node = .ok schema ↔ Describes node schema := by
  constructor
  · intro read
    obtain ⟨_, _, decoded⟩ := Except.bind_eq_ok_iff.mp read
    exact decodeNode_eq_ok_iff.mp (Except.mapError_eq_ok_iff.mp decoded)
  · intro describes
    have complete := exists_describes_iff.mp ⟨schema, describes⟩
    have tagged : ∀ inner ∈ nodes node, HasTag inner := fun inner member =>
      (complete inner member).1
    rw [ofJson_of_tagged tagged, Except.mapError_eq_ok_iff]
    exact decodeNode_eq_ok_iff.mpr describes

theorem ofJson_toJson (schema : Schema) : ofJson schema.toJson = .ok schema :=
  ofJson_eq_ok_iff.mpr (describes_toJson schema)

/-- The members that an object has under some keys, in the order of the keys. -/
def membersUnder (keys : List String) (members : List (String × Json)) :
    List (String × Json) :=
  keys.filterMap fun key => (Json.Entries.get? key members).map fun value => (key, value)

mutual

/-- The document without the members that its nodes are not read by.  What is left of a node
stands in the order in which it is written. -/
def pruned : Json → Json
  | .object members =>
      match tagOf (.object members) with
      | .ok tag => .object (membersUnder ("schemaType" :: tag.keys) (prunedMembers members))
      | .error _ => .object members
  | value => value

/-- The members of a node, with the nodes right below it pruned. -/
def prunedMembers : List (String × Json) → List (String × Json)
  | [] => []
  | (key, value) :: rest => (key, prunedBelow key value) :: prunedMembers rest

/-- The value under a key of a node, pruned if it is a list of nodes. -/
def prunedBelow (key : String) : Json → Json
  | .array inner => .array (if key = "subSchemas" then prunedAll inner else inner)
  | value => value

def prunedAll : List Json → List Json
  | [] => []
  | node :: rest => pruned node :: prunedAll rest

end

theorem membersUnder_cons {key : String} {value : Json} {keys : List String}
    {members : List (String × Json)} (found : Json.Entries.get? key members = some value) :
    membersUnder (key :: keys) members = (key, value) :: membersUnder keys members := by
  simp [membersUnder, found]

theorem pruned_of_tagOf {members : List (String × Json)} {tag : Tag}
    (tagged : tagOf (.object members) = .ok tag) :
    pruned (.object members) =
      .object (membersUnder ("schemaType" :: tag.keys) (prunedMembers members)) := by
  rw [pruned, tagged]

theorem get?_prunedMembers (key : String) (members : List (String × Json)) :
    Json.Entries.get? key (prunedMembers members) =
      (Json.Entries.get? key members).map (prunedBelow key) := by
  induction members with
  | nil => rfl
  | cons member rest ih =>
      obtain ⟨name, value⟩ := member
      rw [prunedMembers, Json.Entries.get?, Json.Entries.get?, ih]
      by_cases same : name = key
      · subst same
        simp
      · simp [same]

theorem get?_prunedMembers_of_textAt? {key text : String} {members : List (String × Json)}
    (found : textAt? key (.object members) = some text) :
    Json.Entries.get? key (prunedMembers members) = some (.string text) := by
  obtain ⟨value, present, isText⟩ := Option.bind_eq_some_iff.mp found
  have underKey : Json.Entries.get? key members = some value := present
  cases value with
  | string content =>
      obtain rfl : content = text := Option.some.inj isText
      rw [get?_prunedMembers, underKey, Option.map_some]
      simp [prunedBelow]
  | _ => cases isText

theorem get?_prunedMembers_of_listAt? {inner : List Json} {members : List (String × Json)}
    (listed : listAt? "subSchemas" (.object members) = some inner) :
    Json.Entries.get? "subSchemas" (prunedMembers members) =
      some (.array (prunedAll inner)) := by
  obtain ⟨value, present, isList⟩ := Option.bind_eq_some_iff.mp listed
  have underKey : Json.Entries.get? "subSchemas" members = some value := present
  cases value with
  | array elements =>
      obtain rfl : elements = inner := Option.some.inj isList
      rw [get?_prunedMembers, underKey, Option.map_some, prunedBelow, if_pos rfl]
  | _ => cases isList

theorem exists_members_of_textAt? {key text : String} {node : Json}
    (found : textAt? key node = some text) : ∃ members, node = .object members := by
  cases node with
  | object members => exact ⟨members, rfl⟩
  | _ => cases found

theorem pruned_leaf (tag : Tag) {members : List (String × Json)}
    {typeKey type name : String} (keys : tag.keys = [typeKey, "schemaName"])
    (tagged : textAt? "schemaType" (.object members) = some tag.text)
    (hasType : textAt? typeKey (.object members) = some type)
    (hasName : textAt? "schemaName" (.object members) = some name) :
    pruned (.object members) =
      .object [("schemaType", .string tag.text), (typeKey, .string type),
        ("schemaName", .string name)] := by
  rw [pruned_of_tagOf (tagOf_eq_ok_iff.mpr tagged), keys,
    membersUnder_cons (get?_prunedMembers_of_textAt? tagged),
    membersUnder_cons (get?_prunedMembers_of_textAt? hasType),
    membersUnder_cons (get?_prunedMembers_of_textAt? hasName)]
  rfl

theorem pruned_union {members : List (String × Json)} {inner : List Json} {name : String}
    (tagged : textAt? "schemaType" (.object members) = some "union")
    (listed : listAt? "subSchemas" (.object members) = some inner)
    (hasName : textAt? "schemaName" (.object members) = some name) :
    pruned (.object members) =
      .object [("schemaType", .string "union"), ("subSchemas", .array (prunedAll inner)),
        ("schemaName", .string name)] := by
  have tag : tagOf (.object members) = .ok .union := tagOf_eq_ok_iff.mpr tagged
  rw [pruned_of_tagOf tag, Tag.keys,
    membersUnder_cons (get?_prunedMembers_of_textAt? tagged),
    membersUnder_cons (get?_prunedMembers_of_listAt? listed),
    membersUnder_cons (get?_prunedMembers_of_textAt? hasName)]
  rfl

mutual

/-- A schema is written as what is kept of a document that describes it. -/
theorem toJson_of_describes (schema : Schema) {node : Json}
    (describes : Describes node schema) : schema.toJson = pruned node := by
  cases describes with
  | basic tagged hasType hasName =>
      obtain ⟨members, rfl⟩ := exists_members_of_textAt? tagged
      have kept := pruned_leaf .basic rfl tagged hasType hasName
      rw [toJson, kept, Tag.text]
  | array tagged hasType hasName =>
      obtain ⟨members, rfl⟩ := exists_members_of_textAt? tagged
      have kept := pruned_leaf .array rfl tagged hasType hasName
      rw [toJson, kept, Tag.text]
  | @union _ inner schemas name tagged listed all hasName =>
      obtain ⟨members, rfl⟩ := exists_members_of_textAt? tagged
      have below := toJsonAll_of_describes schemas all
      rw [toJson, pruned_union tagged listed hasName, below]

/-- List counterpart of `toJson_of_describes`. -/
theorem toJsonAll_of_describes (schemas : List Schema) {inner : List Json}
    (all : List.Forall₂ Describes inner schemas) : toJsonAll schemas = prunedAll inner := by
  cases all with
  | nil => rfl
  | @cons node schema rest others describes describeRest =>
      rw [toJsonAll, prunedAll, toJson_of_describes schema describes,
        toJsonAll_of_describes others describeRest]

end

/-- Reading what a schema is written as yields the schema.  Writing what was read of a
document yields what is kept of the document, which reads as the same schema again. -/
theorem ofJson_toJson_inverse (schema : Schema) (node : Json) :
    ofJson schema.toJson = .ok schema ∧
      (ofJson node = .ok schema →
        schema.toJson = pruned node ∧ ofJson (pruned node) = .ok schema) := by
  refine ⟨ofJson_toJson schema, ?_⟩
  intro read
  have kept : schema.toJson = pruned node :=
    toJson_of_describes schema (ofJson_eq_ok_iff.mp read)
  exact ⟨kept, kept ▸ ofJson_toJson schema⟩

/-- A union in a union, with members that are not needed and in another order. -/
theorem ofJson_toJson_inverse_nested :
    let node := Json.object [("note", .null), ("schemaName", .string "Any of"),
      ("subSchemas", .array [
        .object [("schemaType", .string "union"), ("type", .string "x"),
          ("subSchemas", .array []), ("schemaName", .string "")],
        .object [("schemaName", .string "Duck"), ("subSchemas", .array [.null]),
          ("type", .string "duck"), ("schemaType", .string "basic")]]),
      ("schemaType", .string "union")]
    let schema := Schema.union [.union [] "", .basic "duck" "Duck"] "Any of"
    ofJson node = .ok schema ∧ schema.toJson = pruned node ∧
      ofJson (pruned node) = .ok schema := by
  intro node schema
  have read : ofJson node = .ok schema := by rfl
  exact ⟨read, (ofJson_toJson_inverse schema node).2 read⟩

end TypeSchema.Schema
