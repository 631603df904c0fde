import Mathlib.Data.List.Basic

/-!
Contract: texts spelled element by element.

Owns when a spelling can be read back: two texts of a family that is closed under dropping the first
element are spelled alike only if they are equal, provided that their spellings tell the first
elements apart. For a prefix-free code these are all texts.

Does not own any code.
-/

namespace MiniSniffer.Foundation

variable {α β : Type*} {code : α → List β} {family : List α → Prop}

/-- Spellings of a family are read back from the front. -/
theorem flatMap_inj_of_heads (nonempty : ∀ element, code element ≠ [])
    (tail : ∀ element rest, family (element :: rest) → family rest)
    (heads : ∀ first rest second others, family (first :: rest) → family (second :: others) →
      (first :: rest).flatMap code = (second :: others).flatMap code → first = second)
    {text other : List α} (inFamily : family text) (otherInFamily : family other)
    (same : text.flatMap code = other.flatMap code) : text = other := by
  induction text generalizing other with
  | nil =>
      cases other with
      | nil => rfl
      | cons second others => simp [nonempty second] at same
  | cons first rest inductionHypothesis =>
      cases other with
      | nil => simp [nonempty first] at same
      | cons second others =>
          obtain rfl := heads first rest second others inFamily otherInFamily same
          rw [List.flatMap_cons, List.flatMap_cons, List.append_cancel_left_eq] at same
          rw [inductionHypothesis (tail _ _ inFamily) (tail _ _ otherInFamily) same]

/-- No code word continues another. -/
def PrefixFree (code : α → List β) : Prop :=
  ∀ first second rest others, code first ++ rest = code second ++ others → first = second

theorem PrefixFree.flatMap_injective (prefixFree : PrefixFree code)
    (nonempty : ∀ element, code element ≠ []) : Function.Injective (List.flatMap code) := by
  intro text other same
  refine @flatMap_inj_of_heads _ _ _ (fun _ => True) nonempty (fun _ _ _ => trivial) ?_ text other
    trivial trivial same
  intro first rest second others _ _ spelled
  rw [List.flatMap_cons, List.flatMap_cons] at spelled
  exact prefixFree first second _ _ spelled

end MiniSniffer.Foundation
