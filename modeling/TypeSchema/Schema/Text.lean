import TypeSchema.Schema

/-!
# Schema texts

A schema is written as one or more terms with bars between them.  A term is the name of a
registered type, or such a name followed by a pair of brackets for the arrays of that type.
Blanks may stand around every term and before the brackets; blanks inside a name are part of
it.  Of several wrong members of a union the first one is reported.
-/

namespace TypeSchema

namespace Schema

/-- The character between the members of a union. -/
def bar : Char := '|'

def displayNameOf (registry : Registry) (name : List Char) : Except TermError String :=
  if name.isEmpty then .error .noName
  else match registry.displayName? (.ofList name) with
    | some displayName => .ok displayName
    | none => .error (.unknownType (.ofList name))

/-- Reads a term without blanks at its ends. -/
def readTerm (registry : Registry) (term : List Char) : Except TermError Schema :=
  match Text.beforeBrackets? term with
  | some front => do
      let element := Text.trim front
      let displayName ← displayNameOf registry element
      return .array (.ofList element) ("Array of " ++ displayName)
  | none => do
      let displayName ← displayNameOf registry term
      return .basic (.ofList term) displayName

/-- Reads the members of a union in turn, up to the first one that is wrong; `position` is
the place of the first of them. -/
def readMembers (registry : Registry) (whole : String) (position : Nat) :
    List (List Char) → Except SchemaError (List Schema)
  | [] => .ok []
  | part :: rest =>
      match readTerm registry part with
      | .error cause => .error (.member position (.ofList part) whole cause)
      | .ok schema => (readMembers registry whole (position + 1) rest).map (schema :: ·)

/-- A union of schemas under the name that joins their names. -/
def ofMembers (members : List Schema) : Schema :=
  .union members (" or ".intercalate (members.map displayName))

/-- Reads a schema text without blanks at its ends. -/
def readTrimmed (registry : Registry) (text : List Char) : Except SchemaError Schema :=
  if text.isEmpty then .error .blank
  else if bar ∈ text then
    (readMembers registry (.ofList text) 1
      ((Text.segments bar text).map Text.trim)).map ofMembers
  else
    (readTerm registry text).mapError .term

def parse (registry : Registry) (text : String) : Except SchemaError Schema :=
  readTrimmed registry (Text.trim text.toList)

end Schema

end TypeSchema
