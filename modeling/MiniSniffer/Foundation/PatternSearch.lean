import Mathlib.Data.List.Basic

/-!
Contract: the first occurrence of a pattern in a list.

Owns `firstMatch` and its behaviour when the list grows at the end: an
occurrence, once found, stays the first one, and it lies wholly inside the list
it was found in. The search fails exactly if there is no occurrence.

Does not own what is searched for.
-/

namespace MiniSniffer.Foundation

variable {Value : Type*} [DecidableEq Value]

/-- The first position at which `pattern` occurs. -/
def firstMatch (pattern : List Value) : List Value → Option Nat
  | [] => none
  | head :: rest =>
      if pattern.isPrefixOf (head :: rest) then some 0
      else (firstMatch pattern rest).map (· + 1)

section FirstMatch

variable {pattern values : List Value} {position : Nat}

/-- Whether a non-empty pattern occurs at the front does not change when the list grows past it. -/
theorem isPrefixOf_append_left (extra : List Value) (long : pattern.length ≤ values.length) :
    pattern.isPrefixOf (values ++ extra) = pattern.isPrefixOf values := by
  rw [Bool.eq_iff_iff, List.isPrefixOf_iff_prefix, List.isPrefixOf_iff_prefix]
  constructor
  · intro inWhole
    exact List.prefix_of_prefix_length_le inWhole (List.prefix_append values extra) long
  · intro inFront
    exact inFront.trans (List.prefix_append values extra)

theorem firstMatch_bound (found : firstMatch pattern values = some position) :
    position + pattern.length ≤ values.length := by
  induction values generalizing position with
  | nil => simp [firstMatch] at found
  | cons head rest inductionHypothesis =>
      rw [firstMatch] at found
      split at found
      next here =>
        obtain rfl := Option.some.inj found
        have := (List.isPrefixOf_iff_prefix.mp here).length_le
        omega
      next =>
        obtain ⟨before, foundBefore, rfl⟩ := Option.map_eq_some_iff.mp found
        have := inductionHypothesis foundBefore
        simp only [List.length_cons]
        omega

/-- The pattern stands where it was found. -/
theorem firstMatch_holds (found : firstMatch pattern values = some position) :
    pattern <+: values.drop position := by
  induction values generalizing position with
  | nil => simp [firstMatch] at found
  | cons head rest inductionHypothesis =>
      rw [firstMatch] at found
      split at found
      next here =>
        obtain rfl := Option.some.inj found
        exact List.isPrefixOf_iff_prefix.mp here
      next =>
        obtain ⟨before, foundBefore, rfl⟩ := Option.map_eq_some_iff.mp found
        exact inductionHypothesis foundBefore

/-- The search fails exactly if the pattern occurs nowhere. -/
theorem firstMatch_eq_none_iff (someValue : pattern ≠ []) :
    firstMatch pattern values = none ↔ ¬ pattern <:+: values := by
  induction values with
  | nil => simp [firstMatch, someValue]
  | cons head rest inductionHypothesis =>
      rw [firstMatch, List.infix_cons_iff, ← List.isPrefixOf_iff_prefix]
      split
      next here => simp [here]
      next elsewhere =>
        rw [Option.map_eq_none_iff, inductionHypothesis]
        simp [elsewhere]

theorem firstMatch_append (extra : List Value)
    (found : firstMatch pattern values = some position) :
    firstMatch pattern (values ++ extra) = some position := by
  induction values generalizing position with
  | nil => simp [firstMatch] at found
  | cons head rest inductionHypothesis =>
      have bound := firstMatch_bound found
      rw [List.cons_append, firstMatch]
      rw [firstMatch] at found
      split at found
      next here =>
        have stillHere : pattern.isPrefixOf (head :: (rest ++ extra)) = true := by
          rw [← List.cons_append, isPrefixOf_append_left extra (by omega)]
          exact here
        rw [if_pos stillHere]
        exact found
      next elsewhere =>
        have stillElsewhere : ¬ pattern.isPrefixOf (head :: (rest ++ extra)) = true := by
          rw [← List.cons_append, isPrefixOf_append_left extra (by omega)]
          exact elsewhere
        obtain ⟨before, foundBefore, rfl⟩ := Option.map_eq_some_iff.mp found
        rw [if_neg stillElsewhere, inductionHypothesis foundBefore]
        rfl

/-- A part that lacks the first value of the pattern is passed over. -/
theorem firstMatch_append_right {head : Value} {tail front : List Value} (absent : head ∉ front)
    (rest : List Value) :
    firstMatch (head :: tail) (front ++ rest) =
      (firstMatch (head :: tail) rest).map (· + front.length) := by
  induction front with
  | nil => exact Option.map_id'.symm
  | cons first front inductionHypothesis =>
      rw [List.mem_cons, not_or] at absent
      have elsewhere : ¬ (head :: tail).isPrefixOf (first :: (front ++ rest)) = true := by
        rw [List.isPrefixOf_iff_prefix, List.cons_prefix_cons]
        exact fun here => absent.1 here.1
      rw [List.cons_append, firstMatch, if_neg elsewhere, inductionHypothesis absent.2,
        Option.map_map]
      rfl

end FirstMatch

end MiniSniffer.Foundation
