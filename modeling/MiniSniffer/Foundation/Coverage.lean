import Mathlib.Data.List.Perm.Basic
import Mathlib.Order.Bounds.Basic

/-!
Contract: contiguous slices of a list and the prefix that a set of spans covers.

Owns `slice`, the elements between two positions, with the splitting laws that
appending and trimming need; `Span`, a start and a length; and `CoverageEnd`,
the largest position up to which a list of spans covers everything from a given
start. A bound that spans cover and whose own position they miss is that end
(`coverageEnd_of_gap`), which is how an incremental algorithm meets the
definition without ever looking at all spans.

Does not own any algorithm that produces spans.
-/

namespace MiniSniffer.Foundation

/-! ### Slices -/

/-- The elements of `values` at positions `start ≤ position < stop`. -/
def slice {Value : Type*} (values : List Value) (start stop : Nat) : List Value :=
  (values.drop start).take (stop - start)

section Slice

variable {Value : Type*} {values : List Value} {start middle stop : Nat}

@[simp] theorem slice_self (values : List Value) (start : Nat) : slice values start start = [] := by
  simp [slice]

@[simp] theorem slice_zero_length (values : List Value) :
    slice values 0 values.length = values := by
  simp [slice]

@[simp] theorem length_slice (within : stop ≤ values.length) :
    (slice values start stop).length = stop - start := by
  rw [slice, List.length_take, List.length_drop]
  omega

theorem slice_append_slice (first : start ≤ middle) (second : middle ≤ stop) :
    slice values start middle ++ slice values middle stop = slice values start stop := by
  have split : stop - start = (middle - start) + (stop - middle) := by omega
  have position : values.drop middle = (values.drop start).drop (middle - start) := by
    rw [List.drop_drop]
    congr 1
    omega
  rw [slice, slice, slice, split, List.take_add, position]

theorem drop_slice (first : start ≤ middle) :
    (slice values start stop).drop (middle - start) = slice values middle stop := by
  rw [slice, slice, List.drop_take, List.drop_drop]
  congr 1
  · omega
  · congr 1
    omega

theorem take_slice (within : middle ≤ stop) :
    (slice values start stop).take (middle - start) = slice values start middle := by
  rw [slice, slice, List.take_take, Nat.min_eq_left (by omega)]

theorem slice_eq_self_iff (bounded : stop ≤ values.length) (nonempty : values ≠ []) :
    slice values start stop = values ↔ start = 0 ∧ stop = values.length := by
  have positive : 0 < values.length := List.length_pos_iff.mpr nonempty
  constructor
  · intro equal
    have lengths := congrArg List.length equal
    rw [length_slice bounded] at lengths
    omega
  · rintro ⟨rfl, rfl⟩
    exact slice_zero_length values

end Slice

/-! ### Spans and their coverage -/

/-- `length` consecutive positions from `start`. -/
structure Span where
  start : Nat
  length : Nat
deriving DecidableEq, Repr

def Span.stop (span : Span) : Nat := span.start + span.length

/-- `position` lies inside one of the spans. -/
def Covered (spans : List Span) (position : Nat) : Prop :=
  ∃ span ∈ spans, span.start ≤ position ∧ position < span.stop

/-- The spans leave no gap in `start ≤ position < stop`. -/
def CoversRange (spans : List Span) (start stop : Nat) : Prop :=
  ∀ position, start ≤ position → position < stop → Covered spans position

/-- `stop` is the largest position up to which `spans` cover everything from `start`. -/
def CoverageEnd (spans : List Span) (start stop : Nat) : Prop :=
  IsGreatest {bound | start ≤ bound ∧ CoversRange spans start bound} stop

section Coverage

variable {spans : List Span} {start stop position : Nat}

@[simp] theorem not_covered_nil (position : Nat) : ¬ Covered [] position := by
  simp [Covered]

@[simp] theorem covered_cons (span : Span) (spans : List Span) (position : Nat) :
    Covered (span :: spans) position ↔
      (span.start ≤ position ∧ position < span.stop) ∨ Covered spans position := by
  simp [Covered]

@[simp] theorem covered_append (first second : List Span) (position : Nat) :
    Covered (first ++ second) position ↔ Covered first position ∨ Covered second position := by
  simp [Covered, or_and_right, exists_or]

theorem Covered.of_mem {span : Span} (member : span ∈ spans) (after : span.start ≤ position)
    (before : position < span.stop) : Covered spans position :=
  ⟨span, member, after, before⟩

/-- Coverage does not depend on the order or the multiplicity of the spans. -/
theorem covered_congr {left right : List Span} (same : ∀ span, span ∈ left ↔ span ∈ right) :
    Covered left position ↔ Covered right position := by
  simp [Covered, same]

/-- Removing one span loses at most its own positions. -/
theorem covered_eraseIdx {index : Nat} {span : Span} (found : spans[index]? = some span) :
    Covered spans position ↔
      (span.start ≤ position ∧ position < span.stop) ∨ Covered (spans.eraseIdx index) position := by
  obtain ⟨bound, rfl⟩ := List.getElem?_eq_some_iff.mp found
  rw [← covered_cons]
  exact covered_congr fun other => (List.getElem_cons_eraseIdx_perm bound).mem_iff.symm

/-- A covered range that ends at an uncovered position is the whole coverage. -/
theorem coverageEnd_of_gap (ordered : start ≤ stop) (covers : CoversRange spans start stop)
    (gap : ¬ Covered spans stop) : CoverageEnd spans start stop := by
  refine ⟨⟨ordered, covers⟩, ?_⟩
  rintro bound ⟨_, longer⟩
  by_contra beyond
  exact gap (longer stop ordered (by omega))

/-- Spans that cover only positions below a limit have a coverage end. -/
theorem exists_coverageEnd {bound limit : Nat} (ordered : start ≤ bound)
    (covers : CoversRange spans start bound)
    (limited : ∀ position, Covered spans position → position < limit) :
    ∃ stop, CoverageEnd spans start stop ∧ bound ≤ stop := by
  induction remaining : limit - bound generalizing bound with
  | zero =>
      refine ⟨bound, coverageEnd_of_gap ordered covers ?_, le_rfl⟩
      intro covered
      have := limited bound covered
      omega
  | succ remaining inductionHypothesis =>
      by_cases covered : Covered spans bound
      · have longer : CoversRange spans start (bound + 1) := by
          intro position after before
          rcases Nat.lt_succ_iff_lt_or_eq.mp before with below | rfl
          · exact covers position after below
          · exact covered
        obtain ⟨stop, isEnd, beyond⟩ := inductionHypothesis (by omega) longer (by omega)
        exact ⟨stop, isEnd, by omega⟩
      · exact ⟨bound, coverageEnd_of_gap ordered covers covered, le_rfl⟩

theorem CoverageEnd.unique {first second : Nat} (isFirst : CoverageEnd spans start first)
    (isSecond : CoverageEnd spans start second) : first = second :=
  IsGreatest.unique isFirst isSecond

/-- Spans that cover a whole range up to a bound no span passes end exactly there. -/
theorem CoverageEnd.eq_of_covers (isEnd : CoverageEnd spans start stop) {bound : Nat}
    (ordered : start ≤ bound) (covers : CoversRange spans start bound)
    (inside : ∀ span ∈ spans, span.stop ≤ bound) : stop = bound := by
  refine isEnd.unique (coverageEnd_of_gap ordered covers ?_)
  rintro ⟨span, member, _, before⟩
  have := inside span member
  omega

end Coverage

end MiniSniffer.Foundation
