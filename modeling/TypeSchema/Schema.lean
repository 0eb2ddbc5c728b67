import TypeSchema.Registry

/-!
# Schemas

A schema is a leaf type, an array of a leaf type, or a union of schemas.  Every schema
carries the name that reports use for it.  Those that are read from a text nest a union only
at the top; a compiled form may nest them to any depth.

A schema fails for what it says, never for the value it is held against.  The causes are
kept apart from the code and the wording that they are reported with.

A value conforms to a leaf type if the registered type accepts it, to an array schema if it
is an array whose elements are all accepted, and to a union if it conforms to a member.
Members are tried in order, and the first to which the value conforms settles the matter.
-/

namespace TypeSchema

/-- A schema. -/
inductive Schema where
  /-- The values of a leaf type. -/
  | basic (type : String) (displayName : String)
  /-- The arrays whose elements all belong to a leaf type. -/
  | array (elementType : String) (displayName : String)
  /-- The values of any of the members. -/
  | union (members : List Schema) (displayName : String)
deriving Repr, Inhabited

namespace Schema

/-- The name that reports use. -/
def displayName : Schema → String
  | .basic _ name => name
  | .array _ name => name
  | .union _ name => name

def kindName : Schema → String
  | .basic _ _ => "basic"
  | .array _ _ => "array"
  | .union _ _ => "union"

mutual

def decideEq : (left right : Schema) → Decidable (left = right)
  | .basic type name, .basic type' name' =>
      decidable_of_iff (type = type' ∧ name = name') (by simp)
  | .array type name, .array type' name' =>
      decidable_of_iff (type = type' ∧ name = name') (by simp)
  | .union members name, .union members' name' =>
      have := decideEqAll members members'
      decidable_of_iff (members = members' ∧ name = name') (by simp)
  | .basic _ _, .array _ _ => isFalse (by simp)
  | .basic _ _, .union _ _ => isFalse (by simp)
  | .array _ _, .basic _ _ => isFalse (by simp)
  | .array _ _, .union _ _ => isFalse (by simp)
  | .union _ _, .basic _ _ => isFalse (by simp)
  | .union _ _, .array _ _ => isFalse (by simp)

def decideEqAll : (left right : List Schema) → Decidable (left = right)
  | [], [] => isTrue rfl
  | head :: rest, head' :: rest' =>
      have := decideEq head head'
      have := decideEqAll rest rest'
      decidable_of_iff (head = head' ∧ rest = rest') (by simp)
  | [], _ :: _ => isFalse (by simp)
  | _ :: _, [] => isFalse (by simp)

end

instance : DecidableEq Schema := decideEq

end Schema

/-- What is wrong with a single term of a schema text. -/
inductive TermError where
  /-- No type is named. -/
  | noName
  /-- The name is not registered. -/
  | unknownType (name : String)
deriving DecidableEq, Repr

/-- What is wrong with a schema. -/
inductive SchemaError where
  /-- The text holds nothing but blanks. -/
  | blank
  /-- The text is a single term, which is wrong. -/
  | term (cause : TermError)
  /-- The text is a union of which a member is wrong: its place counted from one, its text,
  and the text of the union. -/
  | member (position : Nat) (part : String) (whole : String) (cause : TermError)
  /-- A node of a compiled form does not say which form it has. -/
  | noTag
  /-- A node of a compiled form says that it has an unknown form. -/
  | unknownTag (tag : String)
  /-- A compiled form does not decode. -/
  | malformed (cause : Json.DecodeError)
  /-- A type that the schema names is not registered. -/
  | unregistered (name : String)

namespace TermError

def message : TermError → String
  | .noName => "invalid schema: empty type name"
  | .unknownType name => "invalid handy type: \"" ++ name ++ "\""

def code : TermError → String
  | .noName => "INVALID_SCHEMA"
  | .unknownType _ => "INVALID_HANDY_TYPE"

end TermError

namespace SchemaError

def code : SchemaError → String
  | .blank => "INVALID_SCHEMA"
  | .term cause => cause.code
  | .member _ _ _ _ => "INVALID_UNION_SCHEMA"
  | .noTag => "INTERNAL_ERROR_INVALID_SCHEMA"
  | .unknownTag _ => "INTERNAL_ERROR_INVALID_SCHEMA"
  | .malformed _ => "INVALID_SCHEMA"
  | .unregistered _ => "INTERNAL_ERROR_INVALID_SCHEMA"

def message : SchemaError → String
  | .blank => "invalid schema: schema must be a non-empty string"
  | .term cause => cause.message
  | .member position part whole cause =>
      "invalid sub schema (\"" ++ part ++ "\") at position " ++ toString position ++
        " in union schema \"" ++ whole ++ "\": " ++ cause.message
  | .noTag => "invalid schema type: missing schemaType"
  | .unknownTag tag => "invalid schema type: unknown schema type \"" ++ tag ++ "\""
  | .malformed cause => "invalid schema: malformed compiled schema: " ++ cause.message
  | .unregistered name => "invalid schema type: type \"" ++ name ++ "\" is not registered"

/-- What is wrong in the end: with a member of a union, what is wrong with its term. -/
def innermost : SchemaError → SchemaError
  | .member _ _ _ cause => .term cause
  | error => error

def exitStatus (_ : SchemaError) : Nat := 2

end SchemaError

namespace Schema

/-- The registered type that a schema names. -/
def leafType (registry : Registry) (name : String) : Except SchemaError LeafType :=
  match registry.get? name with
  | some type => .ok type
  | none => .error (.unregistered name)

/-- Whether a value is an array of which a type accepts every element. -/
def allAccepted (type : LeafType) : Json → Bool
  | .array elements => elements.all type.accepts
  | _ => false

mutual

/-- Whether a value conforms to a schema. -/
def admits (registry : Registry) (value : Json) : Schema → Except SchemaError Bool
  | .basic type _ => do
      return (← leafType registry type).accepts value
  | .array elementType _ => do
      return allAccepted (← leafType registry elementType) value
  | .union members _ => anyAdmits registry value members

/-- Whether a value conforms to one of the schemas, which are tried in order. -/
def anyAdmits (registry : Registry) (value : Json) : List Schema → Except SchemaError Bool
  | [] => .ok false
  | member :: rest => do
      if ← admits registry value member then
        return true
      else
        anyAdmits registry value rest

end

end Schema

end TypeSchema
