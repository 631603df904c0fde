import Mathlib.Data.List.DropRight
import MiniSniffer.Foundation.Coverage

/-!
Contract: half-open intervals kept sorted and apart, and a buffer patched at them.

Owns three list algorithms and what they compute on intervals that are non-empty
and pairwise apart: the overlap test, insertion by walking back from the end, and
the scan that decides whether the intervals fill everything up to a bound and one
of them stops exactly there (`scanCoverage_iff`). Owns writing bytes over a part of
a buffer, with what each slice of the buffer holds afterwards.

Does not own what the intervals or the bytes stand for.
-/

namespace MiniSniffer.Foundation

/-- The positions `start ≤ position < stop`. -/
structure Interval where
  start : Nat
  stop : Nat
deriving DecidableEq, Repr

namespace Interval

def Holds (interval : Interval) (position : Nat) : Prop :=
  interval.start ≤ position ∧ position < interval.stop

def Nonempty (interval : Interval) : Prop := interval.start < interval.stop

/-- The first interval ends before the second starts. -/
def Precedes (first second : Interval) : Prop := first.stop ≤ second.start

/-- No position lies in both. -/
def Apart (first second : Interval) : Prop := first.Precedes second ∨ second.Precedes first

instance (first second : Interval) : Decidable (first.Precedes second) :=
  inferInstanceAs (Decidable (_ ≤ _))

instance (first second : Interval) : Decidable (first.Apart second) :=
  inferInstanceAs (Decidable (_ ∨ _))

theorem Apart.symm {first second : Interval} (apart : first.Apart second) :
    second.Apart first := Or.symm apart

/-- Two intervals with a common position are not apart. -/
theorem Apart.not_holds {first second : Interval} {position : Nat} (apart : first.Apart second)
    (held : first.Holds position) : ¬ second.Holds position := by
  intro other
  rcases apart with before | after
  · exact absurd (Nat.lt_of_lt_of_le held.2 (Nat.le_trans before other.1)) (Nat.lt_irrefl _)
  · exact absurd (Nat.lt_of_lt_of_le other.2 (Nat.le_trans after held.1)) (Nat.lt_irrefl _)

end Interval

/-! ### Algorithms -/

def overlapsAny (intervals : List Interval) (interval : Interval) : Bool :=
  intervals.any fun other => interval.start < other.stop && interval.stop > other.start

/-- Inserts before the last intervals that start later. -/
def insertByStart (intervals : List Interval) (interval : Interval) : List Interval :=
  intervals.rdropWhile (fun other => other.start > interval.start) ++
    interval :: intervals.rtakeWhile (fun other => other.start > interval.start)

/-- Follows the intervals from `covered` as long as each starts where the last one stopped, until
one stops at `total`. -/
def scanCoverage (total : Nat) : Nat → List Interval → Bool
  | _, [] => false
  | covered, interval :: rest =>
      if interval.start ≠ covered then false
      else if interval.stop = total then true
      else if interval.stop > total then false
      else scanCoverage total interval.stop rest

/-! ### Sorted intervals -/

/-- Non-empty intervals in order, none reaching into the next. -/
structure Separated (intervals : List Interval) : Prop where
  ordered : intervals.Pairwise Interval.Precedes
  nonempty : ∀ interval ∈ intervals, interval.Nonempty

section Algorithms

variable {intervals : List Interval} {interval : Interval} {total covered : Nat}

theorem separated_nil : Separated [] := ⟨List.Pairwise.nil, by simp⟩

theorem insertByStart_perm (intervals : List Interval) (interval : Interval) :
    (insertByStart intervals interval).Perm (interval :: intervals) := by
  apply List.perm_middle.trans
  rw [List.rdropWhile_append_rtakeWhile]

theorem overlapsAny_eq_false_iff :
    overlapsAny intervals interval = false ↔ ∀ other ∈ intervals, interval.Apart other := by
  simp only [overlapsAny, List.any_eq_false, Bool.and_eq_true, decide_eq_true_eq, not_and, not_lt,
    gt_iff_lt]
  apply forall₂_congr
  intro other _
  simp only [Interval.Apart, Interval.Precedes]
  omega

/-- Insertion splits the intervals where they start later than the new one. -/
theorem insertByStart_split (separated : Separated intervals) (interval : Interval) :
    ∃ front later, intervals = front ++ later ∧
      insertByStart intervals interval = front ++ interval :: later ∧
      (∀ other ∈ front, other.start ≤ interval.start) ∧
      ∀ other ∈ later, interval.start < other.start := by
  let startsLater : Interval → Bool := fun other => other.start > interval.start
  have split : intervals.rdropWhile startsLater ++ intervals.rtakeWhile startsLater = intervals :=
    List.rdropWhile_append_rtakeWhile
  refine ⟨intervals.rdropWhile startsLater, intervals.rtakeWhile startsLater, split.symm, rfl, ?_,
    ?_⟩
  · intro other member
    have sublist : (intervals.rdropWhile startsLater).Sublist intervals :=
      (List.rdropWhile_prefix startsLater _).sublist
    have someFront := List.ne_nil_of_mem member
    have lastEarly := List.rdropWhile_last_not startsLater intervals someFront
    have ordered := separated.ordered.sublist sublist
    have otherNonempty := separated.nonempty other (sublist.subset member)
    have ending := List.dropLast_append_getLast someFront
    generalize (intervals.rdropWhile startsLater).getLast someFront = last at lastEarly ending
    rw [← ending, List.pairwise_append] at ordered
    rw [← ending, List.mem_append, List.mem_singleton] at member
    simp only [startsLater, decide_eq_true_eq, not_lt, gt_iff_lt] at lastEarly
    rcases member with earlier | isLast
    · have before := ordered.2.2 other earlier last (List.mem_singleton_self _)
      simp only [Interval.Precedes, Interval.Nonempty] at before otherNonempty
      omega
    · rw [isLast]
      exact lastEarly
  · intro other member
    simpa [startsLater] using List.mem_rtakeWhile_imp member

theorem Separated.insertByStart (separated : Separated intervals)
    (apart : ∀ other ∈ intervals, interval.Apart other) (nonempty : interval.Nonempty) :
    Separated (insertByStart intervals interval) := by
  obtain ⟨front, later, split, inserted, early, late⟩ := insertByStart_split separated interval
  have ordered := separated.ordered
  rw [split, List.pairwise_append] at ordered
  have frontPrecedes : ∀ other ∈ front, other.Precedes interval := by
    intro other member
    have inside : other ∈ intervals := by
      rw [split]
      exact List.mem_append_left _ member
    have notAcross := apart other inside
    have starts := early other member
    simp only [Interval.Apart, Interval.Precedes, Interval.Nonempty] at *
    omega
  have precedesLater : ∀ other ∈ later, interval.Precedes other := by
    intro other member
    have inside : other ∈ intervals := by
      rw [split]
      exact List.mem_append_right _ member
    have notAcross := apart other inside
    have otherNonempty := separated.nonempty other inside
    have starts := late other member
    simp only [Interval.Apart, Interval.Precedes, Interval.Nonempty] at *
    omega
  constructor
  · rw [inserted, List.pairwise_append, List.pairwise_cons]
    refine ⟨ordered.1, ⟨precedesLater, ordered.2.1⟩, ?_⟩
    intro first inFront second inRest
    rcases List.mem_cons.mp inRest with same | inLater
    · rw [same]
      exact frontPrecedes first inFront
    · exact ordered.2.2 first inFront second inLater
  · intro other member
    rcases List.mem_cons.mp ((insertByStart_perm intervals interval).mem_iff.mp member) with
      same | old
    · rw [same]
      exact nonempty
    · exact separated.nonempty other old

/-- Separated intervals are the non-empty ones, sorted by start, no two of them overlapping. -/
theorem separated_iff :
    Separated intervals ↔
      (∀ interval ∈ intervals, interval.Nonempty) ∧
      (intervals.Pairwise fun first second => first.start < second.start) ∧
      intervals.Pairwise Interval.Apart := by
  constructor
  · intro separated
    refine ⟨separated.nonempty, ?_, separated.ordered.imp Or.inl⟩
    apply separated.ordered.imp_of_mem
    intro first second inFirst _ precedes
    exact Nat.lt_of_lt_of_le (separated.nonempty first inFirst) precedes
  · rintro ⟨nonempty, sorted, apart⟩
    refine ⟨?_, nonempty⟩
    apply (sorted.and apart).imp_of_mem
    intro first second _ inSecond both
    rcases both.2 with before | after
    · exact before
    · have later := nonempty second inSecond
      have earlier := both.1
      simp only [Interval.Precedes, Interval.Nonempty] at *
      omega

/-- The largest end; zero without intervals. -/
def largestStop (intervals : List Interval) : Nat := (intervals.map Interval.stop).foldr max 0

theorem largestStop_insertByStart (intervals : List Interval) (interval : Interval) :
    largestStop (insertByStart intervals interval) = max interval.stop (largestStop intervals) :=
  ((insertByStart_perm intervals interval).map Interval.stop).foldr_eq 0

/-- The scan succeeds exactly if nothing is missing below the bound and an interval stops at it. -/
theorem scanCoverage_iff_from (separated : Separated intervals)
    (after : ∀ interval ∈ intervals, covered ≤ interval.start) (short : covered < total) :
    scanCoverage total covered intervals = true ↔
      (∀ position, covered ≤ position → position < total →
        ∃ interval ∈ intervals, interval.Holds position) ∧
      ∃ interval ∈ intervals, interval.stop = total := by
  induction intervals generalizing covered with
  | nil => simp [scanCoverage]
  | cons interval rest inductionHypothesis =>
      have restSeparated : Separated rest :=
        ⟨(List.pairwise_cons.mp separated.ordered).2,
          fun other member => separated.nonempty other (List.mem_cons_of_mem _ member)⟩
      have restAfter : ∀ other ∈ rest, interval.stop ≤ other.start :=
        (List.pairwise_cons.mp separated.ordered).1
      have headNonempty : interval.start < interval.stop :=
        separated.nonempty interval List.mem_cons_self
      rw [scanCoverage]
      split_ifs with elsewhere reaches beyond
      · -- a gap at `covered`
        refine iff_of_false id ?_
        intro complete
        obtain ⟨holder, member, held⟩ := complete.1 covered (Nat.le_refl _) short
        rcases List.mem_cons.mp member with same | inRest
        · rw [same] at held
          exact elsewhere (Nat.le_antisymm held.1 (after interval List.mem_cons_self))
        · have late := restAfter holder inRest
          have early := after interval List.mem_cons_self
          have inside := held.1
          omega
      · refine iff_of_true rfl ⟨?_, interval, List.mem_cons_self, reaches⟩
        intro position above below
        exact ⟨interval, List.mem_cons_self, by omega, by omega⟩
      · -- an interval across the bound
        refine iff_of_false id ?_
        intro complete
        obtain ⟨last, member, stops⟩ := complete.2
        rcases List.mem_cons.mp member with same | inRest
        · rw [same] at stops
          exact reaches stops
        · have late := restAfter last inRest
          have lastNonempty : last.start < last.stop :=
            restSeparated.nonempty last inRest
          omega
      · rw [inductionHypothesis restSeparated restAfter (by omega)]
        simp only [List.mem_cons, exists_eq_or_imp]
        constructor
        · intro complete
          refine ⟨?_, Or.inr complete.2⟩
          intro position above below
          by_cases inHead : position < interval.stop
          · exact Or.inl ⟨by omega, inHead⟩
          · exact Or.inr (complete.1 position (by omega) below)
        · intro complete
          refine ⟨?_, complete.2.resolve_left reaches⟩
          intro position above below
          rcases complete.1 position (by omega) below with held | inRest
          · exact absurd held.2 (by omega)
          · exact inRest

theorem scanCoverage_iff (separated : Separated intervals) (positive : 0 < total) :
    scanCoverage total 0 intervals = true ↔
      (∀ position < total, ∃ interval ∈ intervals, interval.Holds position) ∧
      ∃ interval ∈ intervals, interval.stop = total := by
  rw [scanCoverage_iff_from separated (fun interval _ => Nat.zero_le _) positive]
  simp

end Algorithms

/-! ### Patching a buffer -/

section Patch

variable {Value : Type*} {values bytes : List Value} {start stop : Nat} {index : Nat}

/-- Writes `bytes` over the buffer from `start`; the buffer is long enough. -/
def patch (values : List Value) (start : Nat) (bytes : List Value) : List Value :=
  values.take start ++ bytes ++ values.drop (start + bytes.length)

/-- Grows the buffer to a length with copies of `fill`. -/
def growTo (fill : Value) (values : List Value) (length : Nat) : List Value :=
  values ++ List.replicate (length - values.length) fill

theorem length_growTo (fill : Value) (values : List Value) (length : Nat) :
    (growTo fill values length).length = max values.length length := by
  rw [growTo, List.length_append, List.length_replicate]
  omega

theorem length_patch (fits : start + bytes.length ≤ values.length) :
    (patch values start bytes).length = values.length := by
  simp only [patch, List.length_append, List.length_take, List.length_drop]
  omega

theorem getElem?_slice (values : List Value) (start stop index : Nat) :
    (slice values start stop)[index]? =
      if index < stop - start then values[start + index]? else none := by
  rw [slice, List.getElem?_take]
  split_ifs
  · rw [List.getElem?_drop]
  · rfl

theorem getElem?_patch (fits : start + bytes.length ≤ values.length) (index : Nat) :
    (patch values start bytes)[index]? =
      if start ≤ index ∧ index < start + bytes.length then bytes[index - start]?
      else values[index]? := by
  have taken : (values.take start).length = start := by
    rw [List.length_take]
    omega
  rw [patch, List.append_assoc, List.getElem?_append, taken]
  split_ifs with before inside inside
  · omega
  · rw [List.getElem?_take_of_lt before]
  · rw [List.getElem?_append_left (by omega)]
  · rw [List.getElem?_append_right (by omega), List.getElem?_drop]
    congr 1
    omega

/-- The patched part holds the bytes. -/
theorem slice_patch_self (fits : start + bytes.length ≤ values.length) :
    slice (patch values start bytes) start (start + bytes.length) = bytes := by
  apply List.ext_getElem?
  intro index
  rw [getElem?_slice, getElem?_patch fits]
  split_ifs with inside outside
  · congr 1
    omega
  · omega
  · rw [List.getElem?_eq_none (by omega)]

/-- Every part apart from the patch holds what it held. -/
theorem slice_patch_apart (fits : start + bytes.length ≤ values.length) {first : Nat}
    (apart : stop ≤ start ∨ start + bytes.length ≤ first) :
    slice (patch values start bytes) first stop = slice values first stop := by
  apply List.ext_getElem?
  intro index
  rw [getElem?_slice, getElem?_slice, getElem?_patch fits]
  split_ifs
  · omega
  · rfl
  · rfl

theorem slice_growTo (fill : Value) (length : Nat) (within : stop ≤ values.length) :
    slice (growTo fill values length) start stop = slice values start stop := by
  apply List.ext_getElem?
  intro index
  rw [getElem?_slice, getElem?_slice]
  split_ifs
  · rw [growTo, List.getElem?_append_left (by omega)]
  · rfl

/-- A slice of a prefix is a prefix of the slice. -/
theorem slice_of_take (length : Nat) :
    slice (values.take length) start stop = (slice values start stop).take (length - start) := by
  apply List.ext_getElem?
  intro index
  rw [getElem?_slice, List.getElem?_take, List.getElem?_take, getElem?_slice]
  split_ifs <;> first | rfl | omega

theorem slice_take {length : Nat} (within : stop ≤ length) :
    slice (values.take length) start stop = slice values start stop := by
  rw [slice_of_take, List.take_of_length_le]
  rw [slice, List.length_take]
  omega

theorem slice_append_left {extra : List Value} (inside : stop ≤ values.length) :
    slice (values ++ extra) start stop = slice values start stop := by
  apply List.ext_getElem?
  intro index
  rw [getElem?_slice, getElem?_slice]
  split_ifs
  · rw [List.getElem?_append_left (by omega)]
  · rfl

/-- A buffer is determined by slices of it that fill it. -/
theorem eq_of_slices {left right : List Value} (length : left.length = right.length)
    {intervals : List Interval}
    (filled : ∀ position < left.length, ∃ interval ∈ intervals, interval.Holds position)
    (same : ∀ interval ∈ intervals,
      slice left interval.start interval.stop = slice right interval.start interval.stop) :
    left = right := by
  apply List.ext_getElem?
  intro position
  by_cases inside : position < left.length
  · obtain ⟨interval, member, held⟩ := filled position inside
    have equal := congrArg (fun part => part[position - interval.start]?) (same interval member)
    have within : position - interval.start < interval.stop - interval.start := by
      have := held.1
      have := held.2
      omega
    simp only [getElem?_slice, if_pos within] at equal
    rwa [Nat.add_sub_cancel' held.1] at equal
  · rw [List.getElem?_eq_none (by omega), List.getElem?_eq_none (by omega)]

end Patch

end MiniSniffer.Foundation
