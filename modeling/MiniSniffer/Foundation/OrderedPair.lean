import Mathlib.Data.Sym.Sym2

/-!
Contract: two values put in the order of a comparison.

Owns the pair in order and its meaning: it stands for the unordered pair, as long as swapping the
values swaps what the comparison says and only equal values compare equal. Transitivity is not
needed.

Does not own any comparison.
-/

namespace MiniSniffer.Foundation

variable {α : Type*} (compare : α → α → Ordering)

/-- The greater value stands second. -/
def orderedPair (first second : α) : α × α :=
  if compare first second = .gt then (second, first) else (first, second)

theorem orderedPair_cases (first second : α) :
    orderedPair compare first second = (first, second) ∨
      orderedPair compare first second = (second, first) := by
  unfold orderedPair
  split_ifs
  · exact Or.inr rfl
  · exact Or.inl rfl

variable [Std.OrientedCmp compare] [Std.LawfulEqCmp compare]

theorem orderedPair_comm (first second : α) :
    orderedPair compare second first = orderedPair compare first second := by
  rw [orderedPair, orderedPair, @Std.OrientedCmp.eq_swap _ compare _ second first]
  cases order : compare first second with
  | lt => rfl
  | gt => rfl
  | eq =>
      rw [Std.LawfulEqCmp.eq_of_compare order]
      rfl

/-- Pairs in order are equal exactly as unordered pairs. -/
theorem orderedPair_eq_iff {first second otherFirst otherSecond : α} :
    orderedPair compare first second = orderedPair compare otherFirst otherSecond ↔
      s(first, second) = s(otherFirst, otherSecond) := by
  rw [Sym2.eq_iff]
  constructor
  · intro same
    rcases orderedPair_cases compare first second with left | left <;>
      rcases orderedPair_cases compare otherFirst otherSecond with right | right <;>
      rw [left, right, Prod.mk.injEq] at same <;> tauto
  · rintro (⟨rfl, rfl⟩ | ⟨rfl, rfl⟩)
    · rfl
    · exact orderedPair_comm compare _ _

end MiniSniffer.Foundation
