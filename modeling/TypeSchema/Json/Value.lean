import TypeSchema.Json.Number

/-!
# JSON values

The six kinds of value that a document can hold.  An object is its members in order of
arrival; `DistinctKeys` says that no object in a value repeats a key, which is so for every
value that is read from a text.

The members are entries, pairs of a key and a value in the order in which the keys first
arrived.  Writing to a key that is present changes its value and moves nothing; removing a
key moves the last entry into the free place.  Of several entries with one key the first one
counts.  Main statements: `firsts` leaves one entry for each key, and changes nothing where
no key is repeated.
-/

namespace TypeSchema

namespace Json

/-- Pairs of a key and a value, in order. -/
abbrev Entries (α : Type) := List (String × α)

namespace Entries

variable {α : Type}

def keys (entries : Entries α) : List String :=
  entries.map Prod.fst

/-- No key occurs twice. -/
def Distinct (entries : Entries α) : Prop :=
  entries.keys.Nodup

/-- The value of the first entry with the key. -/
def get? (key : String) : Entries α → Option α
  | [] => none
  | entry :: rest => if entry.1 = key then some entry.2 else get? key rest

/-- Writes a value: over the value of the key if it is present, else at the end. -/
def insert (key : String) (value : α) : Entries α → Entries α
  | [] => [(key, value)]
  | entry :: rest =>
      if entry.1 = key then (key, value) :: rest else entry :: insert key value rest

/-- Removes the first entry with the key; the last entry takes its place. -/
def swapRemove (key : String) : Entries α → Entries α
  | [] => []
  | entry :: rest =>
      if entry.1 = key then
        match rest.getLast? with
        | none => []
        | some last => last :: rest.dropLast
      else
        entry :: swapRemove key rest

/-- The first entry of every key. -/
def firsts : Entries α → Entries α
  | [] => []
  | entry :: rest => entry :: (firsts rest).filter fun later => later.1 ≠ entry.1

theorem firsts_distinct (entries : Entries α) : Distinct (firsts entries) := by
  unfold Distinct keys
  induction entries with
  | nil => exact .nil
  | cons entry rest ih =>
      rw [firsts, List.map_cons, List.nodup_cons]
      constructor
      · intro member
        obtain ⟨later, kept, same⟩ := List.mem_map.mp member
        simpa [same] using (List.mem_filter.mp kept).2
      · exact ih.sublist (List.filter_sublist.map _)

theorem firsts_eq_of_distinct {entries : Entries α} (distinct : Distinct entries) :
    firsts entries = entries := by
  unfold Distinct keys at distinct
  induction entries with
  | nil => rfl
  | cons entry rest ih =>
      rw [List.map_cons, List.nodup_cons] at distinct
      rw [firsts, ih distinct.2, List.filter_eq_self.mpr]
      intro later member
      have different : later.1 ≠ entry.1 := fun same =>
        distinct.1 (same ▸ List.mem_map_of_mem member)
      simpa using different

end Entries

end Json

/-- A JSON value. -/
inductive Json where
  | null
  | boolean (value : Bool)
  | number (value : Json.Number)
  | string (text : String)
  | array (elements : List Json)
  | object (members : List (String × Json))
deriving Repr, Inhabited

namespace Json

/-- The members of an object in which no key is repeated. -/
structure Fields where
  entries : Entries Json
  distinct : entries.Distinct

namespace Fields

def empty : Fields := ⟨[], .nil⟩

/-- The first member of every key. -/
def ofEntries (entries : Entries Json) : Fields :=
  ⟨entries.firsts, entries.firsts_distinct⟩

theorem ofEntries_entries (fields : Fields) : ofEntries fields.entries = fields := by
  obtain ⟨entries, distinct⟩ := fields
  simp only [ofEntries, Fields.mk.injEq]
  exact Entries.firsts_eq_of_distinct distinct

end Fields

/-- The kinds of value. -/
inductive Kind where
  | null | boolean | number | string | array | object
deriving DecidableEq, Repr

def Kind.name : Kind → String
  | .null => "null"
  | .boolean => "boolean"
  | .number => "number"
  | .string => "string"
  | .array => "array"
  | .object => "object"

def kind : Json → Kind
  | .null => .null
  | .boolean _ => .boolean
  | .number _ => .number
  | .string _ => .string
  | .array _ => .array
  | .object _ => .object

/-- The value of a member, if this is an object that has it. -/
def member? (key : String) : Json → Option Json
  | .object members => Entries.get? key members
  | _ => none

def double? : Json → Option Double
  | .number value => some value.toDouble
  | _ => none

def text? : Json → Option String
  | .string text => some text
  | _ => none

def elements? : Json → Option (List Json)
  | .array elements => some elements
  | _ => none

/-- A count, which fits 64 bits; the high bits of a greater number are dropped. -/
def natural (value : Nat) : Json :=
  .number (.integer ((value % 2 ^ 64 : Nat) : Int)
    (FitsWord.of_natCast (Nat.mod_lt value (Nat.two_pow_pos 64))))

mutual

/-- No object in the value repeats a key. -/
def DistinctKeys : Json → Prop
  | .array elements => DistinctKeysAll elements
  | .object members => Entries.Distinct members ∧ DistinctKeysMembers members
  | _ => True

/-- No object in any of the values repeats a key. -/
def DistinctKeysAll : List Json → Prop
  | [] => True
  | value :: rest => DistinctKeys value ∧ DistinctKeysAll rest

/-- No object in any member's value repeats a key. -/
def DistinctKeysMembers : List (String × Json) → Prop
  | [] => True
  | (_, value) :: rest => DistinctKeys value ∧ DistinctKeysMembers rest

end

end Json

end TypeSchema
