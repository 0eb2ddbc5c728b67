import Mathlib.Data.List.Forall2

/-!
# Outcomes and lists paired off

When a chain of steps that may fail succeeds, every step of it has succeeded, and when it
fails, one of them has failed.  Two lists are paired off by a relation when they are equally
long and every element is related to the one in its place, as the outcomes of a step are with
the elements that it is taken on.
-/

namespace Except

variable {ε ε' α β : Type}

theorem map_eq_ok_iff {result : Except ε α} {function : α → β} {value : β} :
    result.map function = .ok value ↔ ∃ part, result = .ok part ∧ function part = value := by
  cases result <;> simp [Except.map]

theorem map_eq_error_iff {result : Except ε α} {function : α → β} {cause : ε} :
    result.map function = .error cause ↔ result = .error cause := by
  cases result <;> simp [Except.map]

theorem mapError_eq_ok_iff {result : Except ε α} {function : ε → ε'} {value : α} :
    result.mapError function = .ok value ↔ result = .ok value := by
  cases result with
  | error cause =>
      show Except.error (function cause) = .ok value ↔ _
      simp
  | ok known =>
      show Except.ok known = .ok value ↔ _
      simp

theorem mapError_eq_error_iff {result : Except ε α} {function : ε → ε'} {cause : ε'} :
    result.mapError function = .error cause ↔
      ∃ inner, result = .error inner ∧ function inner = cause := by
  cases result with
  | error inner =>
      show Except.error (function inner) = .error cause ↔ _
      simp
  | ok known =>
      show Except.ok known = .error cause ↔ _
      simp

theorem mapError_map {function : α → β} {onError : ε → ε'} (result : Except ε α) :
    (result.map function).mapError onError = (result.mapError onError).map function := by
  cases result <;> rfl

theorem bind_eq_ok_iff {result : Except ε α} {next : α → Except ε β} {value : β} :
    (result >>= next) = .ok value ↔ ∃ part, result = .ok part ∧ next part = .ok value := by
  cases result <;> simp [bind, Except.bind]

theorem exists_error_iff {result : Except ε α} :
    (∃ error, result = .error error) ↔ ¬ ∃ value, result = .ok value := by
  cases result <;> simp

end Except

namespace List

variable {α β : Type} {relation : α → β → Prop} {items : List α} {images : List β}

theorem exists_forall₂_iff :
    (∃ images, List.Forall₂ relation items images) ↔
      ∀ item ∈ items, ∃ image, relation item image := by
  induction items with
  | nil =>
      constructor
      · simp
      · intro _
        exact ⟨[], .nil⟩
  | cons item rest ih =>
      rw [List.forall_mem_cons, ← ih]
      constructor
      · rintro ⟨images, _ | ⟨related, restRelated⟩⟩
        exact ⟨⟨_, related⟩, _, restRelated⟩
      · rintro ⟨⟨image, related⟩, images, restRelated⟩
        exact ⟨image :: images, .cons related restRelated⟩

theorem exists_related_of_mem (related : List.Forall₂ relation items images) {image : β}
    (member : image ∈ images) : ∃ item ∈ items, relation item image := by
  induction related with
  | nil => cases member
  | cons first rest ih =>
      cases member with
      | head => exact ⟨_, List.mem_cons_self, first⟩
      | tail _ later =>
          obtain ⟨item, itemMember, itemRelated⟩ := ih later
          exact ⟨item, List.mem_cons_of_mem _ itemMember, itemRelated⟩

/-- Only the relation to the elements of the list matters. -/
theorem forall₂_congr_of_mem {relation' : α → β → Prop}
    (same : ∀ item ∈ items, ∀ image, relation item image ↔ relation' item image) :
    List.Forall₂ relation items images ↔ List.Forall₂ relation' items images := by
  induction items generalizing images with
  | nil => simp only [List.forall₂_nil_left_iff]
  | cons item rest ih =>
      have sameInRest := fun later member => same later (List.mem_cons_of_mem item member)
      simp only [List.forall₂_cons_left_iff, same item List.mem_cons_self, ih sameInRest]

/-- What can be said of an image can be said of what is read from an item. -/
theorem exists_image_iff {ε : Type} {read : α → Except ε β} {property : β → Prop}
    (readAll : List.Forall₂ (fun item image => read item = .ok image) items images) :
    (∃ image ∈ images, property image) ↔
      ∃ item ∈ items, ∃ image, read item = .ok image ∧ property image := by
  induction readAll with
  | nil => simp
  | cons success rest ih =>
      simp only [List.exists_mem_cons_iff, success, ih, Except.ok.injEq, exists_eq_left']

/-- Lists with the same images are the same, where the function tells their elements apart. -/
theorem eq_of_map_eq {left right : List α} {f : α → β} (same : left.map f = right.map f)
    (injective : ∀ item ∈ left, ∀ other ∈ right, f item = f other → item = other) :
    left = right := by
  induction left generalizing right with
  | nil => exact (List.map_eq_nil_iff.mp same.symm).symm
  | cons item rest ih =>
      obtain ⟨other, others, rfl, sameItem, sameRest⟩ := List.map_eq_cons_iff.mp same.symm
      have sameHead := injective item List.mem_cons_self other List.mem_cons_self sameItem.symm
      have injectiveInRest : ∀ item ∈ rest, ∀ other ∈ others, f item = f other → item = other :=
        fun item inRest other inOthers => injective item (List.mem_cons_of_mem _ inRest) other
          (List.mem_cons_of_mem _ inOthers)
      rw [sameHead, ih sameRest.symm injectiveInRest]

end List
