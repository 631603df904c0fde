import Mathlib.Data.List.MinMax

/-!
Contract: searching a list once for each rank, from the highest down.

Owns the cascade of searches, and that it finds the first item of the greatest rank.

Does not own any ranking.
-/

namespace MiniSniffer.Foundation

variable {Item : Type}

/-- The first item of rank `bound`, or else of the next lower rank. -/
def firstOfRank (rank : Item → Nat) (items : List Item) : Nat → Option Item
  | 0 => items.find? fun item => 0 ≤ rank item
  | bound + 1 => (items.find? fun item => bound + 1 ≤ rank item).or (firstOfRank rank items bound)

section

variable {rank : Item → Nat} {items : List Item} {bound : Nat}

/-- A search for the greatest rank that occurs. -/
theorem find?_eq_argmax (bounded : ∀ item ∈ items, rank item ≤ bound)
    (attained : ∃ item ∈ items, bound ≤ rank item) :
    items.find? (fun item => bound ≤ rank item) = items.argmax rank := by
  induction items with
  | nil =>
      obtain ⟨item, member, -⟩ := attained
      contradiction
  | cons first items inductionHypothesis =>
      rw [List.forall_mem_cons] at bounded
      rw [List.argmax_cons]
      by_cases best : bound ≤ rank first
      · rw [List.find?_cons_of_pos (by simpa using best)]
        cases found : items.argmax rank with
        | none => rfl
        | some other =>
            have below := bounded.2 other (List.argmax_mem found)
            exact (if_neg (by omega)).symm
      · have later : ∃ item ∈ items, bound ≤ rank item := by
          obtain ⟨item, member, reached⟩ := attained
          rcases List.mem_cons.mp member with rfl | member
          · contradiction
          · exact ⟨item, member, reached⟩
        rw [List.find?_cons_of_neg (by simpa using best),
          inductionHypothesis bounded.2 later]
        obtain ⟨item, member, reached⟩ := later
        cases found : items.argmax rank with
        | none =>
            rw [List.argmax_eq_none.mp found] at member
            contradiction
        | some other =>
            have above := List.le_of_mem_argmax member found
            exact (if_pos (by omega)).symm

/-- The cascade finds the first item of the greatest rank. -/
theorem firstOfRank_eq_argmax (bounded : ∀ item ∈ items, rank item ≤ bound) :
    firstOfRank rank items bound = items.argmax rank := by
  induction bound with
  | zero =>
      rw [firstOfRank]
      cases items with
      | nil => rfl
      | cons first items =>
          exact find?_eq_argmax bounded ⟨first, List.mem_cons_self, Nat.zero_le _⟩
  | succ bound inductionHypothesis =>
      rw [firstOfRank]
      by_cases attained : ∃ item ∈ items, bound + 1 ≤ rank item
      · rw [find?_eq_argmax bounded attained]
        obtain ⟨item, member, -⟩ := attained
        cases found : items.argmax rank with
        | none =>
            rw [List.argmax_eq_none.mp found] at member
            contradiction
        | some other => rfl
      · have none : items.find? (fun item => bound + 1 ≤ rank item) = none := by
          rw [List.find?_eq_none]
          intro item member reached
          exact attained ⟨item, member, by simpa using reached⟩
        rw [none, Option.none_or]
        apply inductionHypothesis
        intro item member
        by_contra above
        exact attained ⟨item, member, Nat.lt_of_not_ge above⟩

end

end MiniSniffer.Foundation
