/-!
# Why and where a text is not JSON

A text is refused at a position: the line, counted from one, and the number of bytes read of
that line, the offending one included.  At the end of the text all of it has been read.
-/

namespace TypeSchema.Json

/-- The causes for which a text is refused. -/
inductive Fault where
  /-- The text ends where a value, or the rest of one, has to stand. -/
  | endInValue
  /-- The text ends inside an array, after its bracket or an element. -/
  | endInArray
  /-- The text ends inside an object, before a key or behind a key or a value. -/
  | endInObject
  /-- The text ends inside a string. -/
  | endInString
  /-- A character that starts no value. -/
  | noValue
  /-- A wrong character inside one of the three words. -/
  | wrongWord
  /-- No colon behind a key. -/
  | noColon
  /-- Neither a comma nor a closing bracket behind an element. -/
  | noElementEnd
  /-- Neither a comma nor a closing brace behind a member. -/
  | noMemberEnd
  /-- A closing bracket behind a comma. -/
  | danglingComma
  /-- A key that is no string. -/
  | keyNotString
  /-- Something behind the value. -/
  | trailing
  /-- A numeral with a wrong character. -/
  | wrongNumeral
  /-- A numeral beyond the finite doubles. -/
  | outOfRange
  /-- An escape of an unknown kind, or with a wrong digit. -/
  | wrongEscape
  /-- An escaped half of a surrogate pair in the wrong place. -/
  | loneSurrogate
  /-- No escape behind the first half of a surrogate pair. -/
  | unpairedSurrogate
  /-- A character below U+0020 in a string. -/
  | controlInString
  /-- More open brackets than are allowed. -/
  | tooDeep
deriving DecidableEq, Repr

def Fault.message : Fault → String
  | .endInValue => "EOF while parsing a value"
  | .endInArray => "EOF while parsing a list"
  | .endInObject => "EOF while parsing an object"
  | .endInString => "EOF while parsing a string"
  | .noValue => "expected value"
  | .wrongWord => "expected ident"
  | .noColon => "expected `:`"
  | .noElementEnd => "expected `,` or `]`"
  | .noMemberEnd => "expected `,` or `\x7d`"
  | .danglingComma => "trailing comma"
  | .keyNotString => "key must be a string"
  | .trailing => "trailing characters"
  | .wrongNumeral => "invalid number"
  | .outOfRange => "number out of range"
  | .wrongEscape => "invalid escape"
  | .loneSurrogate => "lone leading surrogate in hex escape"
  | .unpairedSurrogate => "unexpected end of hex escape"
  | .controlInString => "control character (\\u0000-\\u001F) found while parsing a string"
  | .tooDeep => "recursion limit exceeded"

/-- A cause for refusing a character, and how many of its bytes were read for it. -/
structure Refusal where
  fault : Fault
  bytesRead : Nat
deriving DecidableEq, Repr

/-- A place in a text. -/
structure Position where
  line : Nat
  column : Nat
deriving DecidableEq, Repr

namespace Position

def start : Position := ⟨1, 0⟩

def advance (position : Position) (c : Char) : Position :=
  if c = '\n' then ⟨position.line + 1, 0⟩
  else ⟨position.line, position.column + c.utf8Size⟩

/-- The place behind some bytes of a character. -/
def advanceBytes (position : Position) (c : Char) (count : Nat) : Position :=
  if c.utf8Size ≤ count then position.advance c
  else ⟨position.line, position.column + count⟩

end Position

/-- A text is refused for a cause at a place. -/
structure ReadError where
  fault : Fault
  position : Position
deriving DecidableEq, Repr

def ReadError.message (error : ReadError) : String :=
  error.fault.message ++ " at line " ++ toString error.position.line ++ " column " ++
    toString error.position.column

end TypeSchema.Json
