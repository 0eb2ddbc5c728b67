/-!
# Texts

A text is trimmed of the blanks at its ends.  These are the characters with the Unicode
property White_Space, as ranges of code points; the property has not changed since Unicode
6.3, and the zero-width characters and the byte order mark do not have it.  `segments` cuts a
text at every occurrence of one character.  There is always one segment more than there are
separators, so an empty text is one empty segment.

Names are listed in the order of their UTF-8 bytes.  Characters beyond the basic plane come
last in it.  Main statements: the order is transitive, and of two texts that are not the
same one precedes the other.
-/

namespace TypeSchema.Text

/-- Closed ranges of code points with the property White_Space, ascending and apart. -/
def blankRanges : List (Nat × Nat) :=
  [(0x09, 0x0D), (0x20, 0x20), (0x85, 0x85), (0xA0, 0xA0), (0x1680, 0x1680),
   (0x2000, 0x200A), (0x2028, 0x2029), (0x202F, 0x202F), (0x205F, 0x205F),
   (0x3000, 0x3000)]

/-- Whether a code point lies in one of the given closed ranges. -/
def inRanges (ranges : List (Nat × Nat)) (point : Nat) : Bool :=
  ranges.any fun range => range.1 ≤ point && point ≤ range.2

/-- A character that is dropped at the edges of a text. -/
def isBlank (c : Char) : Bool :=
  inRanges blankRanges c.toNat

def trimStart (text : List Char) : List Char :=
  text.dropWhile isBlank

def trimEnd (text : List Char) : List Char :=
  (text.reverse.dropWhile isBlank).reverse

def trim (text : List Char) : List Char :=
  trimEnd (trimStart text)

/-- Puts a character in front of the first segment. -/
def consToFirst (c : Char) : List (List Char) → List (List Char)
  | [] => [[c]]
  | first :: others => (c :: first) :: others

/-- The pieces of a text between the occurrences of a separator, in order. -/
def segments (separator : Char) : List Char → List (List Char)
  | [] => [[]]
  | c :: rest =>
      if c = separator then [] :: segments separator rest
      else consToFirst c (segments separator rest)

/-- What stands before a final pair of brackets, if the text ends in one. -/
def beforeBrackets? (text : List Char) : Option (List Char) :=
  match text.reverse with
  | ']' :: '[' :: front => some front.reverse
  | _ => none

def bytes (text : String) : List UInt8 :=
  text.toByteArray.data.toList

theorem bytes_injective {left right : String} (same : bytes left = bytes right) :
    left = right := by
  apply String.toByteArray_inj.mp
  apply ByteArray.ext
  exact Array.toList_inj.mp same

/-- Whether the bytes of one text come strictly before those of another. -/
def Precedes (left right : String) : Prop :=
  bytes left < bytes right

instance (left right : String) : Decidable (Precedes left right) :=
  inferInstanceAs (Decidable (bytes left < bytes right))

theorem Precedes.trans {first second third : String}
    (before : Precedes first second) (after : Precedes second third) :
    Precedes first third :=
  List.lt_trans before after

theorem Precedes.irrefl (text : String) : ¬ Precedes text text :=
  List.lt_irrefl _

theorem Precedes.trichotomy (left right : String) :
    Precedes left right ∨ left = right ∨ Precedes right left := by
  by_cases before : bytes left < bytes right
  · exact .inl before
  · by_cases after : bytes right < bytes left
    · exact .inr (.inr after)
    · exact .inr (.inl (bytes_injective (List.le_antisymm after before)))

end TypeSchema.Text
