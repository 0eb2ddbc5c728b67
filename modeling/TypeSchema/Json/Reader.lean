import TypeSchema.Json.StringReading
import TypeSchema.Json.Value

/-!
# Reading a value

A text is read one character at a time by a machine that keeps the open arrays and objects
on a stack, so that nesting needs no recursion.  At most 127 of them may be open at once.
In an object a later member with the key of an earlier one takes its place.
-/

namespace TypeSchema.Json

/-- An array or object of which the next value is being read. -/
inductive Frame where
  /-- The elements before, the latest first. -/
  | array (reversed : List Json)
  /-- The members before, and the key of the value. -/
  | object (members : List (String × Json)) (key : String)

/-- Where a value is expected. -/
inductive ValuePlace where
  /-- At the start of the text or behind a colon. -/
  | required
  /-- Behind the bracket of an array, which may close here. -/
  | firstElement
  /-- Behind a comma in an array. -/
  | nextElement

/-- What is being read. -/
inductive Phase where
  /-- A value has to start. -/
  | value (place : ValuePlace)
  /-- One of the three words: the next character, those behind it and the value. -/
  | word (expected : Char) (pending : List Char) (result : Json)
  /-- A numeral. -/
  | numeral (reading : Numeral)
  /-- A string that is a value. -/
  | string (reading : StringReading)
  /-- A key has to start; behind the brace the object may close. -/
  | keyStart (members : List (String × Json)) (isFirst : Bool)
  /-- A string that is a key. -/
  | key (members : List (String × Json)) (reading : StringReading)
  /-- The colon behind a key. -/
  | colon (members : List (String × Json)) (key : String)
  /-- A value is complete. -/
  | done (result : Json)

/-- What is being read, and the open arrays and objects around it, the innermost first. -/
structure Reader where
  phase : Phase
  outer : List Frame

/-- How many arrays and objects may be open at once. -/
def maxDepth : Nat := 127

/-- The space, the tab, the line feed and the carriage return. -/
def isSpace (c : Char) : Bool :=
  c = ' ' || c = '\t' || c = '\n' || c = '\r'

namespace Reader

def start : Reader := ⟨.value .required, []⟩

/-- Opens an array or object, unless too many are open. -/
def descend (outer : List Frame) (inside : Reader) : Except Refusal Reader :=
  if outer.length < maxDepth then .ok inside else .error ⟨.tooDeep, 1⟩

/-- The character behind a complete value. -/
def stepDone (result : Json) (outer : List Frame) (c : Char) : Except Refusal Reader :=
  if isSpace c then .ok ⟨.done result, outer⟩
  else match outer with
    | [] => .error ⟨.trailing, 1⟩
    | .array reversed :: rest =>
        if c = ',' then .ok ⟨.value .nextElement, .array (result :: reversed) :: rest⟩
        else if c = ']' then .ok ⟨.done (.array (result :: reversed).reverse), rest⟩
        else .error ⟨.noElementEnd, 1⟩
    | .object members key :: rest =>
        if c = ',' then .ok ⟨.keyStart (Entries.insert key result members) false, rest⟩
        else if c = '\x7d' then
          .ok ⟨.done (.object (Entries.insert key result members)), rest⟩
        else .error ⟨.noMemberEnd, 1⟩

/-- A character that starts no value: it may close an array that is still empty. -/
def stepNoValue (place : ValuePlace) (outer : List Frame) (c : Char) :
    Except Refusal Reader :=
  match place, outer with
  | .firstElement, .array _ :: rest =>
      if c = ']' then .ok ⟨.done (.array []), rest⟩ else .error ⟨.noValue, 1⟩
  | .nextElement, _ =>
      if c = ']' then .error ⟨.danglingComma, 1⟩ else .error ⟨.noValue, 1⟩
  | _, _ => .error ⟨.noValue, 1⟩

/-- The first character of a value. -/
def stepValue (place : ValuePlace) (outer : List Frame) (c : Char) : Except Refusal Reader :=
  if isSpace c then .ok ⟨.value place, outer⟩
  else if c = 'n' then .ok ⟨.word 'u' ['l', 'l'] .null, outer⟩
  else if c = 't' then .ok ⟨.word 'r' ['u', 'e'] (.boolean true), outer⟩
  else if c = 'f' then .ok ⟨.word 'a' ['l', 's', 'e'] (.boolean false), outer⟩
  else if c = '"' then .ok ⟨.string .start, outer⟩
  else if c = '[' then descend outer ⟨.value .firstElement, .array [] :: outer⟩
  else if c = '\x7b' then descend outer ⟨.keyStart [] true, outer⟩
  else match Numeral.first? c with
    | some numeral => .ok ⟨.numeral numeral, outer⟩
    | none => stepNoValue place outer c

/-- The first character of a key. -/
def stepKeyStart (members : List (String × Json)) (isFirst : Bool) (outer : List Frame)
    (c : Char) : Except Refusal Reader :=
  if isSpace c then .ok ⟨.keyStart members isFirst, outer⟩
  else if c = '"' then .ok ⟨.key members .start, outer⟩
  else if c = '\x7d' then
    if isFirst then .ok ⟨.done (.object members), outer⟩ else .error ⟨.danglingComma, 1⟩
  else .error ⟨.keyNotString, 1⟩

/-- One more character of a word. -/
def stepWord (expected : Char) (pending : List Char) (result : Json) (outer : List Frame)
    (c : Char) : Except Refusal Reader :=
  if c ≠ expected then .error ⟨.wrongWord, 1⟩
  else match pending with
    | [] => .ok ⟨.done result, outer⟩
    | next :: others => .ok ⟨.word next others result, outer⟩

/-- One more character of the text. -/
def step (reader : Reader) (c : Char) : Except Refusal Reader :=
  match reader.phase with
  | .value place => stepValue place reader.outer c
  | .word expected pending result => stepWord expected pending result reader.outer c
  | .numeral reading =>
      match reading.step c with
      | .goOn later => .ok ⟨.numeral later, reader.outer⟩
      | .refuse refusal => .error refusal
      | .complete =>
          match reading.value with
          | .ok result => stepDone (.number result) reader.outer c
          | .error fault => .error ⟨fault, 0⟩
  | .string reading =>
      match reading.step c with
      | .goOn later => .ok ⟨.string later, reader.outer⟩
      | .refuse refusal => .error refusal
      | .complete => .ok ⟨.done (.string reading.text), reader.outer⟩
  | .keyStart members isFirst => stepKeyStart members isFirst reader.outer c
  | .key members reading =>
      match reading.step c with
      | .goOn later => .ok ⟨.key members later, reader.outer⟩
      | .refuse refusal => .error refusal
      | .complete => .ok ⟨.colon members reading.text, reader.outer⟩
  | .colon members key =>
      if isSpace c then .ok reader
      else if c = ':' then .ok ⟨.value .required, .object members key :: reader.outer⟩
      else .error ⟨.noColon, 1⟩
  | .done result => stepDone result reader.outer c

/-- The value of a text that ends behind it, unless arrays or objects are still open. -/
def closed (result : Json) : List Frame → Except Fault Json
  | [] => .ok result
  | .array _ :: _ => .error .endInArray
  | .object _ _ :: _ => .error .endInObject

/-- The value of a text that ends here. -/
def finish (reader : Reader) : Except Fault Json :=
  match reader.phase with
  | .value .firstElement => .error .endInArray
  | .value _ => .error .endInValue
  | .word _ _ _ => .error .endInValue
  | .numeral reading =>
      match reading.value with
      | .ok result => closed (.number result) reader.outer
      | .error fault => .error fault
  | .string _ | .key _ _ => .error .endInString
  | .keyStart _ true => .error .endInObject
  | .keyStart _ false => .error .endInValue
  | .colon _ _ => .error .endInObject
  | .done result => closed result reader.outer

/-- Reads the rest of a text from a position on. -/
def run (reader : Reader) (position : Position) : List Char → Except ReadError Json
  | [] =>
      match reader.finish with
      | .ok result => .ok result
      | .error fault => .error ⟨fault, position⟩
  | c :: rest =>
      match reader.step c with
      | .ok later => later.run (position.advance c) rest
      | .error refusal => .error ⟨refusal.fault, position.advanceBytes c refusal.bytesRead⟩

end Reader

/-- The value that a text holds. -/
def read (text : String) : Except ReadError Json :=
  Reader.start.run .start text.toList

end TypeSchema.Json
