import TypeSchema.Json.NumberText
import TypeSchema.Json.Value

/-!
# The text of a value

A value is written in one of two layouts: compact, without any space, and indented, with one
element a line and two spaces for each level.  In strings only the quote, the backslash and
the characters below U+0020 are escaped.
-/

namespace TypeSchema.Json

/-- The lower-case hexadecimal digit of a number below 16. -/
def hexDigit (value : Nat) : Char :=
  if value < 10 then Char.ofNat ('0'.toNat + value) else Char.ofNat ('a'.toNat + (value - 10))

/-- A character as it stands in a string. -/
def escapeChar (c : Char) : List Char :=
  if c = '"' then ['\\', '"']
  else if c = '\\' then ['\\', '\\']
  else if c = '\x08' then ['\\', 'b']
  else if c = '\x0c' then ['\\', 'f']
  else if c = '\n' then ['\\', 'n']
  else if c = '\r' then ['\\', 'r']
  else if c = '\t' then ['\\', 't']
  else if c.toNat < 0x20 then
    ['\\', 'u', '0', '0', hexDigit (c.toNat / 16), hexDigit (c.toNat % 16)]
  else [c]

def quoted (text : String) : List Char :=
  '"' :: text.toList.flatMap escapeChar ++ ['"']

mutual

/-- The compact text of a value. -/
def compactChars : Json → List Char
  | .null => ['n', 'u', 'l', 'l']
  | .boolean true => ['t', 'r', 'u', 'e']
  | .boolean false => ['f', 'a', 'l', 's', 'e']
  | .number value => value.text
  | .string text => quoted text
  | .array [] => ['[', ']']
  | .array (first :: others) =>
      '[' :: compactChars first ++ compactElements others ++ [']']
  | .object [] => ['\x7b', '\x7d']
  | .object ((key, value) :: others) =>
      '\x7b' :: quoted key ++ ':' :: compactChars value ++ compactMembers others ++ ['\x7d']

/-- Elements after the first one, each behind its comma. -/
def compactElements : List Json → List Char
  | [] => []
  | value :: rest => ',' :: compactChars value ++ compactElements rest

/-- Members after the first one, each behind its comma. -/
def compactMembers : List (String × Json) → List Char
  | [] => []
  | (key, value) :: rest =>
      ',' :: quoted key ++ ':' :: compactChars value ++ compactMembers rest

end

/-- A line feed and the indentation of a level. -/
def newline (level : Nat) : List Char :=
  '\n' :: List.replicate (2 * level) ' '

mutual

/-- The indented text of a value that stands at the given level. -/
def indentedChars (level : Nat) : Json → List Char
  | .array (first :: others) =>
      '[' :: newline (level + 1) ++ indentedChars (level + 1) first ++
        indentedElements (level + 1) others ++ newline level ++ [']']
  | .object ((key, value) :: others) =>
      '\x7b' :: newline (level + 1) ++ quoted key ++ ':' :: ' ' ::
        indentedChars (level + 1) value ++ indentedMembers (level + 1) others ++
        newline level ++ ['\x7d']
  | value => compactChars value

/-- Elements after the first one, each behind its comma and on its own line. -/
def indentedElements (level : Nat) : List Json → List Char
  | [] => []
  | value :: rest =>
      ',' :: newline level ++ indentedChars level value ++ indentedElements level rest

/-- Members after the first one, each behind its comma and on its own line. -/
def indentedMembers (level : Nat) : List (String × Json) → List Char
  | [] => []
  | (key, value) :: rest =>
      ',' :: newline level ++ quoted key ++ ':' :: ' ' :: indentedChars level value ++
        indentedMembers level rest

end

def compact (value : Json) : String :=
  .ofList (compactChars value)

def indented (value : Json) : String :=
  .ofList (indentedChars 0 value)

end TypeSchema.Json
