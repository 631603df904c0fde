import Mathlib.Data.List.Basic
import Mathlib.Data.List.TakeWhile

/-!
Contract: texts built from pieces with a separator between them.

Owns the join that adds one piece at a time, skips the separator while the text is empty, and so
drops the empty pieces at the front; and what splitting a joined text at a one-element separator
gives back.

Does not own bounds on a text's length.
-/

namespace MiniSniffer.Foundation

variable {α : Type}

/-- A text with one more piece. -/
def joinWith (separator text piece : List α) : List α :=
  if text.isEmpty then piece else text ++ separator ++ piece

theorem joinWith_nil (separator piece : List α) : joinWith separator [] piece = piece := rfl

theorem joinWith_of_ne_nil {text : List α} (started : text ≠ []) (separator piece : List α) :
    joinWith separator text piece = text ++ separator ++ piece := by
  rw [joinWith, if_neg (by simpa using started)]

theorem foldl_joinWith_of_ne_nil {text : List α} (started : text ≠ []) (separator : List α)
    (pieces : List (List α)) :
    pieces.foldl (joinWith separator) text = separator.intercalate (text :: pieces) := by
  induction pieces generalizing text with
  | nil => exact List.intercalate_singleton.symm
  | cons piece pieces inductionHypothesis =>
      have longer : text ++ separator ++ piece ≠ [] := by simp [started]
      rw [List.foldl_cons, joinWith_of_ne_nil started, inductionHypothesis longer,
        List.intercalate_cons_cons]
      cases pieces with
      | nil => simp
      | cons other pieces => simp [List.intercalate_cons_cons]

/-- Pieces joined one at a time: the empty ones at the front leave nothing. -/
theorem foldl_joinWith (separator : List α) (pieces : List (List α)) :
    pieces.foldl (joinWith separator) [] =
      separator.intercalate (pieces.dropWhile List.isEmpty) := by
  induction pieces with
  | nil => rfl
  | cons piece pieces inductionHypothesis =>
      rw [List.foldl_cons, joinWith_nil, List.dropWhile_cons]
      by_cases empty : piece = []
      · rw [empty, inductionHypothesis]
        rfl
      · rw [foldl_joinWith_of_ne_nil empty, if_neg (by simpa using empty)]

theorem length_foldl_joinWith (separator text : List α) (pieces : List (List α)) :
    text.length ≤ (pieces.foldl (joinWith separator) text).length := by
  induction pieces generalizing text with
  | nil => exact le_rfl
  | cons piece pieces inductionHypothesis =>
      refine le_trans ?_ (inductionHypothesis (joinWith separator text piece))
      rw [joinWith]
      split_ifs with empty
      · rw [List.isEmpty_iff.mp empty]
        exact Nat.zero_le _
      · rw [List.append_assoc, List.length_append]
        exact Nat.le_add_right _ _

theorem intercalate_concat {pieces : List (List α)} (nonempty : pieces ≠ [])
    (separator last : List α) :
    separator.intercalate (pieces ++ [last]) =
      separator.intercalate pieces ++ separator ++ last := by
  induction pieces with
  | nil => contradiction
  | cons piece pieces inductionHypothesis =>
      cases pieces with
      | nil => simp [List.intercalate_cons_cons]
      | cons other pieces =>
          have rest := inductionHypothesis (List.cons_ne_nil _ _)
          rw [List.cons_append] at rest
          rw [List.cons_append, List.cons_append, List.intercalate_cons_cons, rest,
            List.intercalate_cons_cons]
          simp

theorem mem_intercalate {pieces : List (List α)} {piece : List α} {element : α}
    (separator : List α) (member : piece ∈ pieces) (inside : element ∈ piece) :
    element ∈ separator.intercalate pieces := by
  induction pieces with
  | nil => exact absurd member List.not_mem_nil
  | cons first pieces inductionHypothesis =>
      cases pieces with
      | nil =>
          rw [List.mem_singleton.mp member] at inside
          simpa using inside
      | cons other pieces =>
          rw [List.intercalate_cons_cons, List.mem_append, List.mem_append]
          rcases List.mem_cons.mp member with rfl | member
          · exact .inl (.inl inside)
          · exact .inr (inductionHypothesis member)

theorem forall_mem_intercalate {P : α → Prop} {separator : List α} {pieces : List (List α)}
    (between : ∀ element ∈ separator, P element)
    (inside : ∀ piece ∈ pieces, ∀ element ∈ piece, P element) :
    ∀ element ∈ separator.intercalate pieces, P element := by
  induction pieces with
  | nil => exact fun element member => absurd member List.not_mem_nil
  | cons first pieces inductionHypothesis =>
      have head := inside first List.mem_cons_self
      cases pieces with
      | nil => rwa [List.intercalate_singleton]
      | cons other pieces =>
          have rest := inductionHypothesis fun piece member =>
            inside piece (List.mem_cons_of_mem _ member)
          rw [List.intercalate_cons_cons]
          intro element member
          rcases List.mem_append.mp member with front | back
          · rcases List.mem_append.mp front with piece | separating
            · exact head element piece
            · exact between element separating
          · exact rest element back

theorem mem_of_mem_splitOn [BEq α] [LawfulBEq α] {separator element : α} {text part : List α}
    (member : part ∈ text.splitOn separator) (inside : element ∈ part) : element ∈ text := by
  rw [← @List.intercalate_splitOn _ text _ _ separator]
  exact mem_intercalate _ member inside

theorem not_mem_of_mem_splitOn [BEq α] [LawfulBEq α] {separator : α} {text part : List α}
    (member : part ∈ text.splitOn separator) : separator ∉ part := by
  induction text generalizing part with
  | nil =>
      rw [List.splitOn_nil, List.mem_singleton] at member
      rw [member]
      exact List.not_mem_nil
  | cons element text inductionHypothesis =>
      rw [List.splitOn_cons_eq_if_modifyHead] at member
      split_ifs at member with same
      · rcases List.mem_cons.mp member with rfl | member
        · exact List.not_mem_nil
        · exact inductionHypothesis member
      · cases split : text.splitOn separator with
        | nil => exact absurd split (List.splitOn_ne_nil separator text)
        | cons first others =>
            rw [split, List.modifyHead_cons] at member
            rcases List.mem_cons.mp member with rfl | member
            · have firstPlain : separator ∉ first :=
                inductionHypothesis (by rw [split]; exact List.mem_cons_self)
              rw [List.mem_cons, not_or]
              refine ⟨fun equal => same ?_, firstPlain⟩
              rw [equal]
              exact BEq.rfl
            · exact inductionHypothesis (by rw [split]; exact List.mem_cons_of_mem _ member)

/-- Splitting a joined text splits its pieces. -/
theorem splitOn_intercalate_eq_flatMap [BEq α] [LawfulBEq α] (separator : α)
    {pieces : List (List α)} (nonempty : pieces ≠ []) :
    ([separator].intercalate pieces).splitOn separator =
      pieces.flatMap (List.splitOn separator) := by
  induction pieces with
  | nil => contradiction
  | cons piece pieces inductionHypothesis =>
      cases pieces with
      | nil => simp
      | cons other pieces =>
          rw [List.intercalate_cons_cons, List.flatMap_cons,
            ← inductionHypothesis (List.cons_ne_nil _ _), List.append_assoc,
            List.singleton_append, List.splitOn_append_cons_self]

end MiniSniffer.Foundation
