import TypeSchema.Json.Numeral

/-!
# Reading a string

A string is read one character at a time, from behind its opening quote.  A `\u` escape
takes four bytes whatever they are, and is judged after the fourth.  The two halves of a
surrogate pair are two such escapes without anything between them.
-/

namespace TypeSchema.Json

/-- Where in a string a reading stands. -/
inductive StringPlace where
  /-- Between characters. -/
  | plain
  /-- Behind a backslash. -/
  | escape
  /-- Inside a `\u` escape: the bytes left, the number so far unless a digit was wrong, and
  the first half of a pair that waits for this one. -/
  | hex (bytesLeft : Nat) (number : Option Nat) (firstHalf : Option Nat)
  /-- Behind the first half of a surrogate pair. -/
  | halfPair (firstHalf : Nat)
  /-- Behind the backslash after the first half of a surrogate pair. -/
  | halfPairEscape (firstHalf : Nat)
deriving DecidableEq, Repr

/-- A string of which some characters have been read, the latest first. -/
structure StringReading where
  place : StringPlace
  reversed : List Char
deriving DecidableEq, Repr

def hexDigit? (c : Char) : Option Nat :=
  if c.isDigit then some (c.toNat - '0'.toNat)
  else if 'a' ≤ c ∧ c ≤ 'f' then some (c.toNat - 'a'.toNat + 10)
  else if 'A' ≤ c ∧ c ≤ 'F' then some (c.toNat - 'A'.toNat + 10)
  else none

/-- The character that a letter behind a backslash stands for. -/
def unescape? (letter : Char) : Option Char :=
  if letter = '"' then some '"'
  else if letter = '\\' then some '\\'
  else if letter = '/' then some '/'
  else if letter = 'b' then some '\x08'
  else if letter = 'f' then some '\x0c'
  else if letter = 'n' then some '\n'
  else if letter = 'r' then some '\r'
  else if letter = 't' then some '\t'
  else none

def isFirstHalf (number : Nat) : Bool :=
  0xD800 ≤ number && number ≤ 0xDBFF

def isSecondHalf (number : Nat) : Bool :=
  0xDC00 ≤ number && number ≤ 0xDFFF

/-- The code point that a surrogate pair stands for. -/
def pairPoint (firstHalf secondHalf : Nat) : Nat :=
  (firstHalf - 0xD800) * 0x400 + (secondHalf - 0xDC00) + 0x10000

namespace StringReading

def start : StringReading := ⟨.plain, []⟩

def text (reading : StringReading) : String :=
  .ofList reading.reversed.reverse

/-- Goes on behind one more character of the text. -/
def add (reading : StringReading) (c : Char) : Step StringReading :=
  .goOn ⟨.plain, c :: reading.reversed⟩

/-- The end of a `\u` escape without a wrong digit. -/
def closeHex (reading : StringReading) (number : Nat) : Option Nat → Step StringReading
  | none =>
      if isSecondHalf number then .refuse ⟨.loneSurrogate, 1⟩
      else if isFirstHalf number then .goOn { reading with place := .halfPair number }
      else reading.add (Char.ofNat number)
  | some firstHalf =>
      if isSecondHalf number then reading.add (Char.ofNat (pairPoint firstHalf number))
      else .refuse ⟨.loneSurrogate, 1⟩

/-- One more character inside a `\u` escape. -/
def stepHex (reading : StringReading) (bytesLeft : Nat) (number firstHalf : Option Nat)
    (c : Char) : Step StringReading :=
  match hexDigit? c with
  | some digit =>
      let longer := number.map (· * 16 + digit)
      if bytesLeft ≤ 1 then
        match longer with
        | some complete => reading.closeHex complete firstHalf
        | none => .refuse ⟨.wrongEscape, 1⟩
      else .goOn { reading with place := .hex (bytesLeft - 1) longer firstHalf }
  | none =>
      if c.utf8Size < bytesLeft then
        .goOn { reading with place := .hex (bytesLeft - c.utf8Size) none firstHalf }
      else .refuse ⟨.wrongEscape, bytesLeft⟩

/-- One more character of a string; the closing quote completes it. -/
def step (reading : StringReading) (c : Char) : Step StringReading :=
  match reading.place with
  | .plain =>
      if c = '"' then .complete
      else if c = '\\' then .goOn { reading with place := .escape }
      else if c.toNat < 0x20 then .refuse ⟨.controlInString, 1⟩
      else reading.add c
  | .escape =>
      if c = 'u' then .goOn { reading with place := .hex 4 (some 0) none }
      else match unescape? c with
        | some plain => reading.add plain
        | none => .refuse ⟨.wrongEscape, 1⟩
  | .hex bytesLeft number firstHalf => reading.stepHex bytesLeft number firstHalf c
  | .halfPair firstHalf =>
      if c = '\\' then .goOn { reading with place := .halfPairEscape firstHalf }
      else .refuse ⟨.unpairedSurrogate, 1⟩
  | .halfPairEscape firstHalf =>
      if c = 'u' then .goOn { reading with place := .hex 4 (some 0) (some firstHalf) }
      else .refuse ⟨.unpairedSurrogate, 1⟩

end StringReading

end TypeSchema.Json
