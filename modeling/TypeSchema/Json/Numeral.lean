import TypeSchema.Json.Fault
import TypeSchema.Json.Number

/-!
# Reading a numeral

A numeral is read one character at a time.  Its significand is the digits that fit 64 bits;
of the whole part the digits beyond them count as powers of ten, of the fraction they are
dropped.  A numeral without point and exponent is an integer if it fits 64 bits, and every
other numeral is a double; the negative zero is a double as well.
-/

namespace TypeSchema.Json

/-- What one character does to the reading of a token. -/
inductive Step (σ : Type) where
  /-- The token goes on. -/
  | goOn (state : σ)
  /-- The token is complete: a numeral before the character, a string behind it. -/
  | complete
  /-- The character is refused. -/
  | refuse (refusal : Refusal)

/-- Sign, significand and power of ten of a numeral read so far. -/
structure Scaled where
  negative : Bool
  significand : Nat
  scale : Int
deriving DecidableEq, Repr

/-- How far a numeral has been read. -/
inductive Numeral where
  /-- A minus sign. -/
  | minus
  /-- A zero, which no digit may follow. -/
  | zero (negative : Bool)
  /-- A whole part that fits 64 bits. -/
  | whole (negative : Bool) (significand : Nat)
  /-- A whole part with digits that did not fit. -/
  | long (read : Scaled)
  /-- A point, which a digit has to follow. -/
  | point (read : Scaled)
  /-- Digits behind the point. -/
  | fraction (read : Scaled)
  /-- Digits behind the point, of which further ones do not count. -/
  | fullFraction (read : Scaled)
  /-- The mark of an exponent, which a sign or a digit has to follow. -/
  | mark (read : Scaled)
  /-- The sign of an exponent, which a digit has to follow. -/
  | sign (read : Scaled) (down : Bool)
  /-- The digits of an exponent. -/
  | exponent (read : Scaled) (down : Bool) (power : Nat)
  /-- An exponent too long to count, of a numeral that it makes zero. -/
  | vanished (negative : Bool)
deriving DecidableEq, Repr

def digit? (c : Char) : Option Nat :=
  if c.isDigit then some (c.toNat - '0'.toNat) else none

/-- A significand with one more digit, if that fits 64 bits. -/
def appendDigit? (significand digit : Nat) : Option Nat :=
  if significand * 10 + digit < 2 ^ 64 then some (significand * 10 + digit) else none

/-- The greatest exponent that is counted. -/
def maxExponent : Nat := 2 ^ 31 - 1

namespace Numeral

def first? (c : Char) : Option Numeral :=
  if c = '-' then some .minus
  else match digit? c with
    | some 0 => some (.zero false)
    | some digit => some (.whole false digit)
    | none => none

/-- The point, the exponent mark or the end behind a numeral without further digits. -/
def afterWhole (read : Scaled) (c : Char) : Step Numeral :=
  if c = '.' then .goOn (.point read)
  else if c = 'e' ∨ c = 'E' then .goOn (.mark read)
  else .complete

/-- The exponent mark or the end behind the digits of a fraction. -/
def afterFraction (read : Scaled) (c : Char) : Step Numeral :=
  if c = 'e' ∨ c = 'E' then .goOn (.mark read) else .complete

def addFractionDigit (read : Scaled) (digit : Nat) : Numeral :=
  match appendDigit? read.significand digit with
  | some significand => .fraction { read with significand, scale := read.scale - 1 }
  | none => .fullFraction read

def step : Numeral → Char → Step Numeral
  | .minus, c =>
      match digit? c with
      | some 0 => .goOn (.zero true)
      | some digit => .goOn (.whole true digit)
      | none => .refuse ⟨.wrongNumeral, 1⟩
  | .zero negative, c =>
      match digit? c with
      | some _ => .refuse ⟨.wrongNumeral, 1⟩
      | none => afterWhole ⟨negative, 0, 0⟩ c
  | .whole negative significand, c =>
      match digit? c with
      | some digit =>
          match appendDigit? significand digit with
          | some longer => .goOn (.whole negative longer)
          | none => .goOn (.long ⟨negative, significand, 1⟩)
      | none => afterWhole ⟨negative, significand, 0⟩ c
  | .long read, c =>
      match digit? c with
      | some _ => .goOn (.long { read with scale := read.scale + 1 })
      | none => afterWhole read c
  | .point read, c =>
      match digit? c with
      | some digit => .goOn (addFractionDigit read digit)
      | none => .refuse ⟨.wrongNumeral, 1⟩
  | .fraction read, c =>
      match digit? c with
      | some digit => .goOn (addFractionDigit read digit)
      | none => afterFraction read c
  | .fullFraction read, c =>
      match digit? c with
      | some _ => .goOn (.fullFraction read)
      | none => afterFraction read c
  | .mark read, c =>
      if c = '+' then .goOn (.sign read false)
      else if c = '-' then .goOn (.sign read true)
      else match digit? c with
        | some digit => .goOn (.exponent read false digit)
        | none => .refuse ⟨.wrongNumeral, 1⟩
  | .sign read down, c =>
      match digit? c with
      | some digit => .goOn (.exponent read down digit)
      | none => .refuse ⟨.wrongNumeral, 1⟩
  | .exponent read down power, c =>
      match digit? c with
      | some digit =>
          if power * 10 + digit ≤ maxExponent then
            .goOn (.exponent read down (power * 10 + digit))
          else if read.significand ≠ 0 ∧ down = false then
            .refuse ⟨.outOfRange, 1⟩
          else
            .goOn (.vanished read.negative)
      | none => .complete
  | .vanished negative, c =>
      match digit? c with
      | some _ => .goOn (.vanished negative)
      | none => .complete

/-- The double that sign, significand and power of ten give, unless it overflows. -/
def scaledValue (read : Scaled) : Except Fault Number :=
  match Double.ofDecimal? read.negative read.significand read.scale with
  | some value => .ok (.double value)
  | none => .error .outOfRange

/-- The number that a numeral denotes where it ends. -/
def value : Numeral → Except Fault Number
  | .minus | .point _ | .mark _ | .sign _ _ => .error .endInValue
  | .zero true => .ok (.double (.zero true))
  | .zero false => .ok (.integer 0 (by decide))
  | .whole negative significand =>
      match Number.ofInt? (if negative then -significand else significand) with
      | some number => .ok number
      | none => .error .outOfRange
  | .long read | .fraction read | .fullFraction read => scaledValue read
  | .exponent read down power =>
      scaledValue { read with scale := if down then read.scale - power else read.scale + power }
  | .vanished negative => .ok (.double (.zero negative))

end Numeral

end TypeSchema.Json
