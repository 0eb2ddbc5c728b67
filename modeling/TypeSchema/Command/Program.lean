import TypeSchema.Command.Check

/-!
# The program

The program checks a value, prints the compiled form of a schema, or lists the built-in
types.  It needs the content of a source for a check only.
-/

namespace TypeSchema.Command

def versionLine : String := "handy-types 1.0.0"

def usage : String :=
  "Check JSON values against handy-type schemas\n\n" ++
  "Usage:\n" ++
  "  handy-types check [--each] [--name NAME] [--message TEXT] [--code CODE] [--json]" ++
    " SCHEMA [VALUE]\n" ++
  "  handy-types parse [--pretty] SCHEMA\n" ++
  "  handy-types types [--json]\n"

/-- Prints the compiled form of a schema. -/
def compile (schema : String) (pretty : Bool) : Report :=
  match Schema.parse .builtIn schema with
  | .error error =>
      ⟨error.exitStatus, "", "Error [" ++ error.code ++ "]: " ++ error.message ++ "\n"⟩
  | .ok parsed =>
      .success (if pretty then parsed.toJson.indented else parsed.toJson.compact)

def listingEntry (type : LeafType) : Json :=
  .object [
    ("name", .string type.name),
    ("displayName", .string type.displayName),
    ("category", type.category.toJson)]

/-- A text filled up with spaces on the right. -/
def padded (width : Nat) (text : String) : String :=
  text ++ .ofList (List.replicate (width - text.length) ' ')

/-- The lines about the types of a category, if it has any. -/
def categoryListing (registry : Registry) (category : Category) : String :=
  match registry.types.filter fun type => type.category = category with
  | [] => ""
  | types =>
      category.name ++ ":\n" ++
        String.join (types.map fun type =>
          "  " ++ padded 24 type.name ++ " " ++ type.displayName ++ "\n")

/-- Lists the types of a registry. -/
def listing (registry : Registry) (json : Bool) : Report :=
  if json then
    .success (Json.array (registry.types.map listingEntry)).compact
  else
    ⟨0, String.join (Category.all.map (categoryListing registry)), ""⟩

/-- The source whose content a request needs. -/
def Request.source? : Request → Option Source
  | .check request => some request.source
  | _ => none

/-- Carries out a request, given the content of the source that it needs. -/
def Request.run (content : Content) : Request → Report
  | .check request => request.report content
  | .parse schema pretty => compile schema pretty
  | .types json => listing .builtIn json
  | .version => .success versionLine
  | .help => ⟨0, usage, ""⟩

end TypeSchema.Command
