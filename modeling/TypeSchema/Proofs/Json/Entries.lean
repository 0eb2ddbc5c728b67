import Mathlib.Data.List.Basic
import TypeSchema.Json.Value

/-!
# Entries under their keys

What `get?` finds is an entry, and in entries that are put behind others it finds what these
leave open.  Removing a key, or several in turn, leaves exactly the entries of other keys.
Each of these keeps its place but for one entry for each key that was there, which moves into
the free place.
-/

namespace TypeSchema.Json.Entries

variable {α : Type} {key : String} {entries : Entries α}

theorem mem_of_get? {value : α} (found : entries.get? key = some value) :
    (key, value) ∈ entries := by
  induction entries with
  | nil => cases found
  | cons entry rest ih =>
      rw [get?] at found
      split at found
      · rename_i same
        cases same
        cases found
        exact List.mem_cons_self
      · exact List.mem_cons_of_mem _ (ih found)

theorem isSome_get?_iff : (entries.get? key).isSome = true ↔ key ∈ entries.keys := by
  induction entries with
  | nil => simp [get?, keys]
  | cons entry rest ih =>
      rw [get?, keys, List.map_cons, List.mem_cons]
      by_cases same : entry.1 = key
      · simp [same]
      · rw [if_neg same, ih, keys]
        simp [Ne.symm same]

theorem get?_eq_none_iff : entries.get? key = none ↔ key ∉ entries.keys := by
  rw [← isSome_get?_iff]
  simp

theorem get?_append (left right : Entries α) :
    get? key (left ++ right) = (get? key left).or (get? key right) := by
  induction left with
  | nil => rfl
  | cons entry rest ih =>
      rw [List.cons_append, get?, get?, ih]
      by_cases same : entry.1 = key <;> simp [same]

theorem get?_filter_ne {other : String} (different : key ≠ other) (entries : Entries α) :
    get? key (entries.filter fun entry => entry.1 ≠ other) = get? key entries := by
  induction entries with
  | nil => rfl
  | cons entry rest ih =>
      by_cases removed : entry.1 = other
      · have notSought : ¬ entry.1 = key := fun same => different (same.symm.trans removed)
        rw [List.filter_cons_of_neg (by simp [removed]), ih, get?, if_neg notSought]
      · rw [List.filter_cons_of_pos (by simp [removed]), get?, get?, ih]

theorem get?_firsts (entries : Entries α) : get? key entries.firsts = get? key entries := by
  induction entries with
  | nil => rfl
  | cons entry rest ih =>
      rw [firsts, get?, get?]
      by_cases found : entry.1 = key
      · rw [if_pos found, if_pos found]
      · rw [if_neg found, if_neg found, get?_filter_ne (Ne.symm found), ih]

/-- What may be left of entries from which a key is removed. -/
inductive Removes (key : String) : Entries α → Entries α → Prop where
  | absent {entries : Entries α} : key ∉ entries.keys → Removes key entries entries
  | last {before : Entries α} (value : α) :
      key ∉ before.keys → Removes key (before ++ [(key, value)]) before
  | moved {before : Entries α} (value : α) (middle : Entries α) (last : String × α) :
      key ∉ before.keys →
      Removes key (before ++ (key, value) :: (middle ++ [last])) (before ++ last :: middle)

theorem Removes.cons {remaining : Entries α} {entry : String × α} (different : entry.1 ≠ key)
    (removes : Removes key entries remaining) :
    Removes key (entry :: entries) (entry :: remaining) := by
  have absentIn : ∀ {before : Entries α}, key ∉ before.keys → key ∉ keys (entry :: before) := by
    intro before absent
    rw [keys, List.map_cons, List.mem_cons, not_or]
    exact ⟨different.symm, absent⟩
  cases removes with
  | absent absent => exact .absent (absentIn absent)
  | last value absent => exact .last value (absentIn absent)
  | moved value middle last absent => exact .moved value middle last (absentIn absent)

theorem removes_swapRemove (key : String) (entries : Entries α) :
    Removes key entries (swapRemove key entries) := by
  induction entries with
  | nil => exact .absent (by simp [keys])
  | cons entry rest ih =>
      obtain ⟨name, value⟩ := entry
      rw [swapRemove]
      by_cases same : name = key
      · subst same
        rw [if_pos rfl]
        have nothingBefore : name ∉ keys ([] : Entries α) := by simp [keys]
        cases List.eq_nil_or_concat' rest with
        | inl empty =>
            subst empty
            exact .last value nothingBefore
        | inr split =>
            obtain ⟨middle, last, rfl⟩ := split
            rw [List.getLast?_concat, List.dropLast_concat]
            exact .moved value middle last nothingBefore
      · rw [if_neg same]
        exact ih.cons same

/-- The entries of other keys are in their places, or among those that have moved. -/
def KeepsPlaces (removed : String → Prop) (entries remaining moved : List (String × α)) : Prop :=
  ∀ (index : Nat) (entry : String × α), entries[index]? = some entry → ¬ removed entry.1 →
    remaining[index]? = some entry ∨ entry ∈ moved

namespace KeepsPlaces

variable {removed : String → Prop} {remaining moved : List (String × α)}

theorem refl (entries : List (String × α)) : KeepsPlaces removed entries entries [] := by
  intro index entry found _
  exact .inl found

theorem append_left (before : List (String × α))
    (kept : KeepsPlaces removed entries remaining moved) :
    KeepsPlaces removed (before ++ entries) (before ++ remaining) moved := by
  intro index entry found notRemoved
  by_cases inFront : index < before.length
  · rw [List.getElem?_append_left inFront] at found ⊢
    exact .inl found
  · have behind := Nat.le_of_not_lt inFront
    rw [List.getElem?_append_right behind] at found ⊢
    exact kept _ entry found notRemoved

theorem dropLast (entries : List (String × α)) (last : String × α) :
    KeepsPlaces removed (entries ++ [last]) entries [last] := by
  have nothingBehind : KeepsPlaces removed [last] [] [last] := by
    intro index entry found _
    exact .inr (List.mem_of_getElem? found)
  have kept := nothingBehind.append_left entries
  rwa [List.append_nil] at kept

theorem removeLast (entries : List (String × α)) {gone : String × α}
    (removes : removed gone.1) : KeepsPlaces removed (entries ++ [gone]) entries [] := by
  have nothingLeft : KeepsPlaces removed [gone] [] [] := by
    intro index entry found notRemoved
    obtain rfl := List.mem_singleton.mp (List.mem_of_getElem? found)
    exact (notRemoved removes).elim
  have kept := nothingLeft.append_left entries
  rwa [List.append_nil] at kept

/-- An entry in the place of a removed one. -/
theorem cons {gone : String × α} (removes : removed gone.1) (taking : String × α)
    (kept : KeepsPlaces removed entries remaining moved) :
    KeepsPlaces removed (gone :: entries) (taking :: remaining) moved := by
  intro index entry found notRemoved
  cases index with
  | zero =>
      cases found
      exact (notRemoved removes).elim
  | succ offset => exact kept offset entry found notRemoved

end KeepsPlaces

theorem filter_ne_eq_self (absent : key ∉ entries.keys) :
    (entries.filter fun entry => entry.1 ≠ key) = entries := by
  apply List.filter_eq_self.mpr
  intro entry member
  have different : entry.1 ≠ key := by
    intro same
    exact absent (same ▸ List.mem_map_of_mem member)
  simpa using different

namespace Removes

variable {remaining : Entries α}

/-- What is left are the entries of other keys. -/
theorem perm (removes : Removes key entries remaining) (distinct : entries.Distinct) :
    remaining.Perm (entries.filter fun entry => entry.1 ≠ key) := by
  cases removes with
  | absent absent => rw [filter_ne_eq_self absent]
  | last value absent =>
      rw [List.filter_append, filter_ne_eq_self absent]
      simp
  | @moved before value middle last absent =>
      have behindDistinct : Distinct ((key, value) :: (middle ++ [last])) :=
        distinct.sublist ((List.sublist_append_right before _).map Prod.fst)
      have absentBehind : key ∉ keys (middle ++ [last]) :=
        (List.nodup_cons.mp behindDistinct).1
      rw [List.filter_append, filter_ne_eq_self absent, List.filter_cons_of_neg (by simp),
        filter_ne_eq_self absentBehind]
      exact (List.perm_append_singleton last middle).symm.append_left before

theorem keepsPlaces (removes : Removes key entries remaining) :
    ∃ moved : List (String × α), moved.length ≤ entries.countP (fun entry => entry.1 = key) ∧
      KeepsPlaces (fun name => name = key) entries remaining moved := by
  cases removes with
  | absent absent => exact ⟨[], Nat.zero_le _, .refl entries⟩
  | last value absent => exact ⟨[], Nat.zero_le _, .removeLast remaining rfl⟩
  | @moved before value middle last absent =>
      refine ⟨[last], ?_, ?_⟩
      · rw [List.countP_append, List.countP_cons_of_pos (by simp), List.length_singleton]
        omega
      · apply KeepsPlaces.append_left
        apply KeepsPlaces.cons
        · rfl
        · exact .dropLast middle last

end Removes

theorem swapRemove_perm (key : String) (distinct : entries.Distinct) :
    (swapRemove key entries).Perm (entries.filter fun entry => entry.1 ≠ key) :=
  (removes_swapRemove key entries).perm distinct

theorem swapRemove_distinct (key : String) (distinct : entries.Distinct) :
    (swapRemove key entries).Distinct := by
  have sameKeys := (swapRemove_perm key distinct).map Prod.fst
  apply sameKeys.nodup_iff.mpr
  exact distinct.sublist (List.filter_sublist.map Prod.fst)

theorem swapRemove_of_absent (absent : key ∉ entries.keys) : swapRemove key entries = entries := by
  induction entries with
  | nil => rfl
  | cons entry rest ih =>
      rw [keys, List.map_cons, List.mem_cons, not_or] at absent
      obtain ⟨different, absentInRest⟩ := absent
      rw [swapRemove, if_neg (Ne.symm different), ih absentInRest]

/-- Removes the keys one after the other. -/
def swapRemoveAll (names : List String) (entries : Entries α) : Entries α :=
  names.foldl (fun remaining name => swapRemove name remaining) entries

theorem swapRemoveAll_perm {names : List String} (distinct : entries.Distinct) :
    (swapRemoveAll names entries).Perm (entries.filter fun entry => entry.1 ∉ names) := by
  induction names generalizing entries with
  | nil => simp [swapRemoveAll]
  | cons name rest ih =>
      have first := swapRemove_perm name distinct
      have later := ih (swapRemove_distinct name distinct)
      calc
        (swapRemoveAll rest (swapRemove name entries)).Perm
            ((swapRemove name entries).filter fun entry => entry.1 ∉ rest) := later
        List.Perm _ ((entries.filter fun entry => entry.1 ≠ name).filter
            fun entry => entry.1 ∉ rest) := first.filter _
        _ = entries.filter fun entry => entry.1 ∉ name :: rest := by
            rw [List.filter_filter]
            apply List.filter_congr
            intro entry _
            simp [Bool.and_comm]

/-- An entry is counted for the first key that it has. -/
theorem countP_cons_names (name : String) (rest : List String) (entries : Entries α) :
    entries.countP (fun entry => entry.1 ∈ name :: rest) =
      entries.countP (fun entry => entry.1 = name) +
        (entries.filter fun entry => entry.1 ≠ name).countP fun entry => entry.1 ∈ rest := by
  induction entries with
  | nil => rfl
  | cons entry others ih =>
      rw [List.countP_cons, List.countP_cons, ih, List.filter_cons]
      by_cases same : entry.1 = name
      · simp [same]
        omega
      · by_cases later : entry.1 ∈ rest
        · simp [same, later]
          omega
        · simp [same, later]

theorem swapRemoveAll_keepsPlaces {names : List String} (distinct : entries.Distinct) :
    ∃ moved : List (String × α), moved.length ≤ entries.countP (fun entry => entry.1 ∈ names) ∧
      KeepsPlaces (fun name => name ∈ names) entries (swapRemoveAll names entries) moved := by
  induction names generalizing entries with
  | nil => exact ⟨[], Nat.zero_le _, .refl entries⟩
  | cons name rest ih =>
      obtain ⟨moved, bound, kept⟩ := (removes_swapRemove name entries).keepsPlaces
      obtain ⟨movedLater, boundLater, keptLater⟩ := ih (swapRemove_distinct name distinct)
      refine ⟨moved ++ movedLater, ?_, ?_⟩
      · have sameCount := (swapRemove_perm name distinct).countP_eq fun entry => entry.1 ∈ rest
        rw [sameCount] at boundLater
        rw [countP_cons_names, List.length_append]
        exact Nat.add_le_add bound boundLater
      · intro index entry found notRemoved
        obtain ⟨different, notInRest⟩ := not_or.mp (mt List.mem_cons.mpr notRemoved)
        cases kept index entry found different with
        | inl inPlace =>
            cases keptLater index entry inPlace notInRest with
            | inl still => exact .inl still
            | inr inMoved => exact .inr (List.mem_append_right _ inMoved)
        | inr inMoved => exact .inr (List.mem_append_left _ inMoved)

theorem swapRemoveAll_of_absent {names : List String}
    (absent : ∀ entry ∈ entries, entry.1 ∉ names) : swapRemoveAll names entries = entries := by
  induction names with
  | nil => rfl
  | cons name rest ih =>
      have absentFirst : name ∉ entries.keys := by
        intro member
        obtain ⟨entry, inEntries, same⟩ := List.mem_map.mp member
        exact absent entry inEntries (same ▸ List.mem_cons_self)
      rw [swapRemoveAll, List.foldl_cons, swapRemove_of_absent absentFirst]
      apply ih
      intro entry member inRest
      exact absent entry member (List.mem_cons_of_mem name inRest)

end TypeSchema.Json.Entries
