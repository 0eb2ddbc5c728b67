import TypeSchema.Text

/-!
# Command-line arguments

There are three commands: to check a value, to compile a schema and to list the types.
Options may stand before, behind and between the other arguments; two dashes end the
options.  An option may be given once.  Its value is the next argument, which must not start
with a dash, or stands behind an equals sign, where it may.  A single dash is no option.
-/

namespace TypeSchema.Command

/-- Where the value to check comes from. -/
inductive Source where
  | standardInput
  | file (path : String)
deriving DecidableEq, Repr

/-- What a check is asked to do. -/
structure CheckRequest where
  schema : String
  source : Source
  /-- Whether each element of an array is checked by itself. -/
  each : Bool
  name : Option String
  message : Option String
  code : Option String
  /-- Whether the result is reported as JSON. -/
  json : Bool
deriving DecidableEq, Repr

/-- What the program is asked to do. -/
inductive Request where
  | check (request : CheckRequest)
  | parse (schema : String) (pretty : Bool)
  | types (json : Bool)
  | version
  | help
deriving DecidableEq, Repr

/-- What an argument that is no option stands for. -/
inductive Slot where
  /-- A text, which may be empty. -/
  | text
  /-- A path, which may not. -/
  | path
deriving DecidableEq, Repr

/-- Whether an argument can stand in a slot. -/
def Slot.takes (slot : Slot) (argument : String) : Bool :=
  match slot with
  | .text => true
  | .path => argument ≠ ""

/-- The arguments that a command takes. -/
structure Shape where
  /-- Options without a value. -/
  flags : List String
  /-- Options with a value. -/
  options : List String
  /-- The other arguments, in order. -/
  slots : List Slot

/-- The arguments of a command, sorted. -/
structure Sorted where
  flags : List String := []
  options : List (String × String) := []
  plain : List String := []
deriving DecidableEq, Repr

/-- What the arguments of a command come to. -/
inductive Sorting where
  | sorted (arguments : Sorted)
  | help
deriving DecidableEq, Repr

namespace Sorted

/-- Adds an argument that is no option, if there is a slot left that takes it. -/
def addPlain? (shape : Shape) (arguments : Sorted) (argument : String) : Option Sorted :=
  match shape.slots[arguments.plain.length]? with
  | some slot =>
      if slot.takes argument then
        some { arguments with plain := arguments.plain ++ [argument] }
      else none
  | none => none

def addFlag? (arguments : Sorted) (flag : String) : Option Sorted :=
  if flag ∈ arguments.flags then none
  else some { arguments with flags := arguments.flags ++ [flag] }

def addOption? (arguments : Sorted) (option value : String) : Option Sorted :=
  if option ∈ arguments.options.map Prod.fst then none
  else some { arguments with options := arguments.options ++ [(option, value)] }

def hasFlag (arguments : Sorted) (flag : String) : Bool :=
  flag ∈ arguments.flags

def option? (arguments : Sorted) (option : String) : Option String :=
  arguments.options.lookup option

end Sorted

/-- What a single argument is, before the options have ended. -/
inductive Token where
  /-- Two dashes. -/
  | endOfOptions
  /-- Two dashes and a name, perhaps with a value behind an equals sign. -/
  | long (name : String) (value : Option String)
  /-- One dash and at least one letter. -/
  | short (letter : Char)
  /-- Any other argument; a single dash is one. -/
  | plain
deriving DecidableEq, Repr

def cutAtEquals (text : List Char) : String × Option String :=
  match text.dropWhile (· ≠ '=') with
  | _ :: value => (.ofList (text.takeWhile (· ≠ '=')), some (.ofList value))
  | [] => (.ofList text, none)

def Token.of (argument : String) : Token :=
  match argument.toList with
  | ['-', '-'] => .endOfOptions
  | '-' :: '-' :: rest =>
      let (name, value) := cutAtEquals rest
      .long name value
  | '-' :: letter :: _ => .short letter
  | _ => .plain

/-- What a long option does: it is a request for help, a flag, an option with its value
attached, or an option whose value has to follow. -/
inductive LongEffect where
  | help
  | add (later : Sorted)
  | await (option : String)

/-- The effect of a long option; none for wrong usage. -/
def longEffect? (shape : Shape) (sorted : Sorted) (name : String) (value : Option String) :
    Option LongEffect :=
  if name ∈ shape.options then
    match value with
    | some attached => (sorted.addOption? name attached).map .add
    | none => some (.await name)
  else if value.isSome then none
  else if name = "help" then some .help
  else if name ∈ shape.flags then (sorted.addFlag? name).map .add
  else none

/-- Sorts the arguments of a command from left to right, the value of an option pending or
not; none for wrong usage. -/
def sort? (shape : Shape) (sorted : Sorted) (pending : Option String) :
    List String → Option Sorting
  | [] => if pending.isNone then some (.sorted sorted) else none
  | argument :: rest =>
      match pending, Token.of argument with
      | some option, .plain =>
          match sorted.addOption? option argument with
          | some later => sort? shape later none rest
          | none => none
      | some _, _ => none
      | none, .endOfOptions => (rest.foldlM (Sorted.addPlain? shape) sorted).map .sorted
      | none, .plain =>
          match sorted.addPlain? shape argument with
          | some later => sort? shape later none rest
          | none => none
      | none, .short letter => if letter = 'h' then some .help else none
      | none, .long name value =>
          match longEffect? shape sorted name value with
          | some .help => some .help
          | some (.add later) => sort? shape later none rest
          | some (.await option) => sort? shape sorted (some option) rest
          | none => none

def checkShape : Shape where
  flags := ["each", "json"]
  options := ["name", "message", "code"]
  slots := [.text, .path]

def parseShape : Shape where
  flags := ["pretty"]
  options := []
  slots := [.text]

def typesShape : Shape where
  flags := ["json"]
  options := []
  slots := []

/-- The source that a path names.  A single dash is the standard input, also with slashes and
dots behind it that lead nowhere. -/
def Source.ofPath (path : String) : Source :=
  match Text.segments '/' path.toList with
  | ['-'] :: others =>
      if others.all fun component => component = [] || component = ['.'] then .standardInput
      else .file path
  | _ => .file path

def checkRequest? (arguments : Sorted) : Option Request := do
  let (schema, source) ← match arguments.plain with
    | [schema] => some (schema, Source.standardInput)
    | [schema, path] => some (schema, Source.ofPath path)
    | _ => none
  return .check {
    schema := schema
    source := source
    each := arguments.hasFlag "each"
    name := arguments.option? "name"
    message := arguments.option? "message"
    code := arguments.option? "code"
    json := arguments.hasFlag "json" }

def parseRequest? (arguments : Sorted) : Option Request :=
  match arguments.plain with
  | [schema] => some (.parse schema (arguments.hasFlag "pretty"))
  | _ => none

def typesRequest? (arguments : Sorted) : Option Request :=
  some (.types (arguments.hasFlag "json"))

/-- The request of a command's arguments; none for wrong usage. -/
def requestOf? (shape : Shape) (build : Sorted → Option Request) (arguments : List String) :
    Option Request := do
  match ← sort? shape {} none arguments with
  | .sorted sorted => build sorted
  | .help => return .help

/-- What help can be asked about. -/
def helpTopics : List String := ["check", "parse", "types", "help"]

/-- The request for help, on one topic at most; none for wrong usage. -/
def helpRequest? : List String → Option Request
  | [] => some .help
  | [topic] => if topic ∈ helpTopics then some .help else none
  | _ => none

/-- The request of the program's arguments; none for wrong usage. -/
def Request.ofArguments? : List String → Option Request
  | [] => none
  | command :: rest =>
      if command = "check" then requestOf? checkShape checkRequest? rest
      else if command = "parse" then requestOf? parseShape parseRequest? rest
      else if command = "types" then requestOf? typesShape typesRequest? rest
      else if command = "help" then helpRequest? rest
      else match Token.of command with
        | .long name none =>
            if name = "version" then some .version
            else if name = "help" then some .help
            else none
        | .short letter =>
            if letter = 'V' then some .version
            else if letter = 'h' then some .help
            else none
        | _ => none

end TypeSchema.Command
