import Mathlib.Order.WithBot
import SchemaNet.Proofs.Scalar.Order

/-!
The maximum as that of a linear order. Every number has a place in the order, and a value that is
no number lies below all places, so the maximum passes it over. What a run of maxima finds is the
greatest number among its values, which does not depend on their order or their repetitions.
-/

namespace SchemaNet.Scalar

/-- A reading of the numbers in a linear order under which the maximum is that of the order.
Numbers at one place, such as the zeros of either sign, are told apart by no comparison. -/
class MaxOrder (α : Type) [Scalar α] (κ : outParam Type) [LinearOrder κ] where
  place : α → WithBot κ
  number_iff : ∀ {a : α}, IsNumber a ↔ place a ≠ ⊥
  le_iff : ∀ {a b : α}, IsNumber a → IsNumber b → (le a b = true ↔ place a ≤ place b)
  place_max : ∀ a b : α, place (max a b) = place a ⊔ place b
  max_choice : ∀ a b : α, max a b = a ∨ max a b = b

/-- The greatest number among some values. It is no number only if there is none among them. -/
structure IsGreatestNumber {α : Type} [Scalar α] (values : Set α) (x : α) : Prop where
  mem : x ∈ values
  number : IsNumber x ↔ ∃ y ∈ values, IsNumber y
  le : ∀ y ∈ values, IsNumber y → le y x = true

variable {α κ : Type} [Scalar α] [LinearOrder κ] [MaxOrder α κ]

open MaxOrder (place number_iff le_iff place_max max_choice)

namespace IsGreatestNumber

variable {values : Set α} {x y : α}

theorem of_le (mem : x ∈ values) (le : ∀ y ∈ values, place y ≤ place x) :
    IsGreatestNumber values x := by
  have number : ∀ y ∈ values, IsNumber y → IsNumber x := fun y hy own =>
    number_iff.2 fun none => number_iff.1 own (le_bot_iff.1 (none ▸ le y hy))
  exact ⟨mem, ⟨fun own => ⟨x, mem, own⟩, fun ⟨y, hy, own⟩ => number y hy own⟩,
    fun y hy own => (le_iff own (number y hy own)).2 (le y hy)⟩

/-- All greatest numbers are at one place. -/
theorem place_eq (h : IsGreatestNumber values x) (h' : IsGreatestNumber values y) :
    place x = place y := by
  by_cases own : IsNumber x
  · have other := h'.number.2 (h.number.1 own)
    exact le_antisymm ((le_iff own other).1 (h'.le x h.mem own))
      ((le_iff other own).1 (h.le y h'.mem other))
  · have other : ¬IsNumber y := fun other => own (h.number.2 (h'.number.1 other))
    rw [not_not.1 (number_iff.not.1 own), not_not.1 (number_iff.not.1 other)]

end IsGreatestNumber

include κ in
/-- The first value need not be a number: the first number after it takes its place. -/
theorem foldl_max_greatest (first : α) (rest : List α) :
    IsGreatestNumber {x | x ∈ first :: rest} (rest.foldl max first) := by
  have found : ∀ first : α, rest.foldl max first ∈ first :: rest ∧
      ∀ y ∈ first :: rest, place y ≤ place (rest.foldl max first) := by
    induction rest with
    | nil => simp
    | cons x rest ih =>
      intro first
      obtain ⟨mem, le⟩ := ih (max first x)
      rw [List.forall_mem_cons, place_max, sup_le_iff] at le
      refine ⟨?_, List.forall_mem_cons.2 ⟨le.1.1, List.forall_mem_cons.2 ⟨le.1.2, le.2⟩⟩⟩
      rcases List.mem_cons.1 mem with own | later
      · rw [List.foldl_cons, own]
        rcases max_choice first x with same | same <;> simp [same]
      · exact List.mem_cons_of_mem _ (List.mem_cons_of_mem _ later)
  exact .of_le (found first).1 (found first).2

end SchemaNet.Scalar
