import MiniSniffer.Foundation.Machine

/-!
Contract: a queue with a bound on its length.

Owns the queue, which cannot hold more than its capacity, its three operations, and the machine of
calls on it.

Does not own any store that keeps such a queue.
-/

namespace MiniSniffer.Foundation

universe u

structure BoundedQueue (α : Type u) (capacity : Nat) where
  elements : List α
  bounded : elements.length ≤ capacity

namespace BoundedQueue

variable {α : Type u} {capacity : Nat}

@[ext] theorem ext {first second : BoundedQueue α capacity}
    (same : first.elements = second.elements) : first = second := by
  cases first
  cases second
  cases same
  rfl

def empty : BoundedQueue α capacity := ⟨[], Nat.zero_le _⟩

/-- All of the elements join at the end, or none of them. -/
def append (queue : BoundedQueue α capacity) (added : List α) : BoundedQueue α capacity × Bool :=
  if fits : queue.elements.length + added.length ≤ capacity then
    (⟨queue.elements ++ added, by rwa [List.length_append]⟩, true)
  else (queue, false)

def consume (queue : BoundedQueue α capacity) (count : Nat) : BoundedQueue α capacity :=
  ⟨queue.elements.drop count, by
    rw [List.length_drop]
    exact Nat.le_trans (Nat.sub_le _ _) queue.bounded⟩

@[simp] theorem elements_empty : (empty : BoundedQueue α capacity).elements = [] := rfl

@[simp] theorem elements_consume (queue : BoundedQueue α capacity) (count : Nat) :
    (queue.consume count).elements = queue.elements.drop count := rfl

@[simp] theorem elements_append (queue : BoundedQueue α capacity) (added : List α) :
    (queue.append added).1.elements =
      if queue.elements.length + added.length ≤ capacity then queue.elements ++ added
      else queue.elements := by
  unfold append
  split_ifs <;> rfl

@[simp] theorem append_accepts (queue : BoundedQueue α capacity) (added : List α) :
    (queue.append added).2 = decide (queue.elements.length + added.length ≤ capacity) := by
  unfold append
  split_ifs with fits
  · exact (decide_eq_true fits).symm
  · exact (decide_eq_false fits).symm

end BoundedQueue

end MiniSniffer.Foundation
