import TypeSchema.Assertion

/-!
# Remembered schemas

A cache remembers the schemas that were read, under the exact texts they were read from, so
that texts which differ in blanks only are remembered apart.  What cannot be read is not
remembered.  `perform` runs one operation, and `Operation` lists them all, so that a history
of a cache is a list.
-/

namespace TypeSchema

/-- Schemas remembered under their texts. -/
structure SchemaCache where
  /-- The types that schemas may name. -/
  registry : Registry
  schemas : List (String × Schema)

namespace SchemaCache

/-- A cache that remembers nothing. -/
def empty (registry : Registry) : SchemaCache := ⟨registry, []⟩

def get? (cache : SchemaCache) (text : String) : Option Schema :=
  Json.Entries.get? text cache.schemas

def contains (cache : SchemaCache) (text : String) : Bool :=
  (cache.get? text).isSome

def size (cache : SchemaCache) : Nat :=
  cache.schemas.length

def isEmpty (cache : SchemaCache) : Bool :=
  cache.schemas.isEmpty

def erase (cache : SchemaCache) (text : String) : SchemaCache :=
  { cache with schemas := cache.schemas.filter fun entry => entry.1 ≠ text }

def clear (cache : SchemaCache) : SchemaCache :=
  { cache with schemas := [] }

/-- The schema of a text: the remembered one, or else the one that the text denotes, which
is remembered from then on. -/
def fetch (cache : SchemaCache) (text : String) :
    Except SchemaError Schema × SchemaCache :=
  match cache.get? text with
  | some schema => (.ok schema, cache)
  | none =>
      match Schema.parse cache.registry text with
      | .error error => (.error error, cache)
      | .ok schema => (.ok schema, { cache with schemas := (text, schema) :: cache.schemas })

/-- Whether a value conforms to the schema of a text. -/
def conforms (cache : SchemaCache) (text : String) (value : Json) :
    Except SchemaError Bool × SchemaCache :=
  let (schema, later) := cache.fetch text
  (schema.bind fun schema => schema.admits cache.registry value, later)

/-- Asserts that a value conforms to the schema of a text. -/
def require (cache : SchemaCache) (text : String) (value : Json) (info : ErrorInfo) :
    Except Rejection Unit × SchemaCache :=
  let (schema, later) := cache.fetch text
  match schema with
  | .error error => (.error (.schema error), later)
  | .ok schema => (schema.require cache.registry value info, later)

/-- What can be done with a cache. -/
inductive Operation where
  | fetch (text : String)
  | conforms (text : String) (value : Json)
  | require (text : String) (value : Json) (info : ErrorInfo)
  | contains (text : String)
  | erase (text : String)
  | clear
  | size
  | isEmpty

/-- What an operation answers. -/
inductive Answer where
  | schema (result : Except SchemaError Schema)
  | verdict (result : Except SchemaError Bool)
  | assertion (result : Except Rejection Unit)
  | truth (result : Bool)
  | count (result : Nat)
  | nothing

def perform (cache : SchemaCache) : Operation → Answer × SchemaCache
  | .fetch text =>
      let (result, later) := cache.fetch text
      (.schema result, later)
  | .conforms text value =>
      let (result, later) := cache.conforms text value
      (.verdict result, later)
  | .require text value info =>
      let (result, later) := cache.require text value info
      (.assertion result, later)
  | .contains text => (.truth (cache.contains text), cache)
  | .erase text => (.truth (cache.contains text), cache.erase text)
  | .clear => (.nothing, cache.clear)
  | .size => (.count cache.size, cache)
  | .isEmpty => (.truth cache.isEmpty, cache)

def performAll (cache : SchemaCache) (operations : List Operation) : SchemaCache :=
  operations.foldl (fun current operation => (current.perform operation).2) cache

end SchemaCache

end TypeSchema
