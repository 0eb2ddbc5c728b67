import TypeSchema.Schema

/-!
# Compiled forms

The compiled form of a schema is a JSON object: its form under `schemaType`, what the form
needs, and the display name under `schemaName`.  Reading one looks at the tags of all nodes
first, so that a wrong tag anywhere is reported before any other mistake.  Keys that a node
does not need are ignored, and of several members with one key the first one counts.
-/

namespace TypeSchema

namespace Schema

mutual

def toJson : Schema → Json
  | .basic type name =>
      .object [("schemaType", .string "basic"), ("type", .string type),
        ("schemaName", .string name)]
  | .array type name =>
      .object [("schemaType", .string "array"), ("elementType", .string type),
        ("schemaName", .string name)]
  | .union members name =>
      .object [("schemaType", .string "union"), ("subSchemas", .array (toJsonAll members)),
        ("schemaName", .string name)]

def toJsonAll : List Schema → List Json
  | [] => []
  | schema :: rest => schema.toJson :: toJsonAll rest

end

/-- The form that a node of a compiled form says it has. -/
inductive Tag where
  | basic | array | union
deriving DecidableEq, Repr

def Tag.ofName? (name : String) : Option Tag :=
  if name = "basic" then some .basic
  else if name = "array" then some .array
  else if name = "union" then some .union
  else none

def tagOf (node : Json) : Except SchemaError Tag :=
  match (node.member? "schemaType").bind Json.text? with
  | none => .error .noTag
  | some name =>
      match Tag.ofName? name with
      | some tag => .ok tag
      | none => .error (.unknownTag name)

mutual

/-- Looks at the tag of a node, and then at those of the members of a union. -/
def checkTags (node : Json) : Except SchemaError Unit := do
  match ← tagOf node with
  | .union =>
      match node with
      | .object members => checkMemberTags members
      | _ => return
  | _ => return

/-- Looks at the tags of the nodes that a union's members lists. -/
def checkMemberTags : List (String × Json) → Except SchemaError Unit
  | [] => .ok ()
  | (key, .array nodes) :: rest =>
      if key = "subSchemas" then checkAllTags nodes else checkMemberTags rest
  | (key, _) :: rest => if key = "subSchemas" then .ok () else checkMemberTags rest

/-- Looks at the tags of nodes in turn. -/
def checkAllTags : List Json → Except SchemaError Unit
  | [] => .ok ()
  | node :: rest => do
      checkTags node
      checkAllTags rest

end

/-- A member that is needed. -/
def required {α : Type} (key : String) : Option α → Json.Decoded α
  | some value => .ok value
  | none => .error (.missing key)

/-- What has been read of a leaf node. -/
structure LeafDraft where
  type : Option String
  name : Option String

/-- Reads one member of a leaf node, whose type stands under the given key. -/
def LeafDraft.read (typeKey : String) (draft : LeafDraft) (member : String × Json) :
    Json.Decoded LeafDraft :=
  if member.1 = typeKey ∧ draft.type.isNone then do
    return { draft with type := some (← Json.decodeString member.2) }
  else if member.1 = "schemaName" ∧ draft.name.isNone then do
    return { draft with name := some (← Json.decodeString member.2) }
  else
    return draft

/-- Reads a leaf node: the first member in the written order that is of the wrong kind is
reported, and then the first one that is missing. -/
def decodeLeaf (typeKey : String) (build : String → String → Schema)
    (members : List (String × Json)) : Json.Decoded Schema := do
  let draft ← members.foldlM (LeafDraft.read typeKey) ⟨none, none⟩
  return build (← required typeKey draft.type) (← required "schemaName" draft.name)

mutual

/-- Reads a node whose tags have been looked at. -/
def decodeNode : Json → Json.Decoded Schema
  | .object members =>
      match tagOf (.object members) with
      | .ok .basic => decodeLeaf "type" .basic members
      | .ok .array => decodeLeaf "elementType" .array members
      | .ok .union => decodeUnion members none none
      | .error _ => .error (.missing "schemaType")
  | _ => .error (.missing "schemaType")

/-- Reads the members of a union node in the written order. -/
def decodeUnion : List (String × Json) → Option (List Schema) → Option String →
    Json.Decoded Schema
  | [], schemas, name => do
      return .union (← required "subSchemas" schemas) (← required "schemaName" name)
  | (key, value) :: rest, schemas, name =>
      if key = "subSchemas" ∧ schemas.isNone then
        match value with
        | .array nodes => do
            let decoded ← decodeNodes nodes
            decodeUnion rest (some decoded) name
        | other => .error (.wrongKind other .sequence)
      else if key = "schemaName" ∧ name.isNone then do
        let decoded ← Json.decodeString value
        decodeUnion rest schemas (some decoded)
      else
        decodeUnion rest schemas name

def decodeNodes : List Json → Json.Decoded (List Schema)
  | [] => .ok []
  | node :: rest => do
      let schema ← decodeNode node
      return schema :: (← decodeNodes rest)

end

/-- Reads a compiled form. -/
def ofJson (node : Json) : Except SchemaError Schema := do
  checkTags node
  (decodeNode node).mapError .malformed

end Schema

end TypeSchema
