import Mathlib.Algebra.Group.Nat.Defs
import Mathlib.Data.Nat.Basic

/-!
Contract: serial-number comparison of 32-bit counters that wrap.

Owns `before` and `beforeOrEqual`, the signed-difference comparison of two
wrapping counters, and the law that makes it useful: on a window of fewer than
`2^31` consecutive values the comparison is the comparison of offsets, wherever
the window starts and whether or not it wraps. Owns what holds beyond such a
window too: how far a stretch that overlaps a counter reaches past it.

Does not own what the counters count.
-/

namespace MiniSniffer.Foundation.SerialNumber

/-- Half the counter space: the widest window on which comparison is exact. -/
def window : Nat := 2 ^ 31

/-- `left` precedes `right` when their difference is negative as a signed word. -/
def before (left right : UInt32) : Bool :=
  (left - right).toInt32 < 0

def beforeOrEqual (left right : UInt32) : Bool :=
  left == right || before left right

/-- The value `offset` steps after `base`. -/
def advance (base : UInt32) (offset : Nat) : UInt32 :=
  base + UInt32.ofNat offset

@[simp] theorem advance_zero (base : UInt32) : advance base 0 = base := by
  simp [advance]

theorem advance_add (base : UInt32) (first second : Nat) :
    advance (advance base first) second = advance base (first + second) := by
  simp only [advance, UInt32.ofNat_add, UInt32.add_assoc]

theorem advance_add_one (base : UInt32) (offset : Nat) :
    advance base offset + 1 = advance base (offset + 1) := by
  simp [advance, UInt32.ofNat_add, UInt32.add_assoc]

theorem toNat_advance (base : UInt32) (offset : Nat) :
    (advance base offset).toNat = (base.toNat + offset) % 2 ^ 32 := by
  simp [advance, UInt32.toNat_add, UInt32.toNat_ofNat']

/-- The signed difference is negative exactly when the unsigned one has its top bit set. -/
theorem before_iff_toNat (left right : UInt32) :
    before left right = true ↔ 2 ^ 31 ≤ (left - right).toNat := by
  have signed : (left - right).toInt32.toInt = ((left - right).toNat : Int).bmod (2 ^ 32) := by
    rw [UInt32.toInt32, Int32.toInt, BitVec.toInt_eq_toNat_bmod]
    rfl
  have bound : (left - right).toNat < 2 ^ 32 := (left - right).toNat_lt
  rw [before, decide_eq_true_iff, Int32.lt_iff_toInt_lt, signed]
  have zero : (0 : Int32).toInt = 0 := rfl
  rw [zero, Int.bmod_def]
  split <;> omega

@[simp] theorem before_self (value : UInt32) : before value value = false := by
  rw [Bool.eq_false_iff, ne_eq, before_iff_toNat]
  simp

/-- Counters that precede each other neither way are equal. -/
theorem eq_of_not_before {left right : UInt32} (notBefore : before left right = false)
    (notAfter : before right left = false) : left = right := by
  rw [Bool.eq_false_iff, ne_eq, before_iff_toNat, UInt32.toNat_sub] at notBefore notAfter
  have leftSmall : left.toNat < 2 ^ 32 := left.toNat_lt
  have rightSmall : right.toNat < 2 ^ 32 := right.toNat_lt
  apply UInt32.toNat_inj.mp
  omega

/-- Every value up to half the counter space behind is before or equal. -/
theorem beforeOrEqual_iff_toNat (left right : UInt32) :
    beforeOrEqual left right = true ↔ (right - left).toNat ≤ 2 ^ 31 := by
  have leftSmall : left.toNat < 2 ^ 32 := left.toNat_lt
  have rightSmall : right.toNat < 2 ^ 32 := right.toNat_lt
  rw [beforeOrEqual, Bool.or_eq_true, beq_iff_eq, before_iff_toNat, ← UInt32.toNat_inj,
    UInt32.toNat_sub, UInt32.toNat_sub]
  omega

/-! ### Overlaps -/

section Overlap

variable {start next : UInt32} {length : Nat}

/-- A stretch that begins at or before `next` and does not end there reaches past it. -/
theorem distance_lt (small : length < 2 ^ 32)
    (notPast : beforeOrEqual (advance start length) next = false)
    (reached : beforeOrEqual start next = true) : (next - start).toNat < length := by
  have startSmall : start.toNat < 2 ^ 32 := start.toNat_lt
  have nextSmall : next.toNat < 2 ^ 32 := next.toNat_lt
  rw [beforeOrEqual_iff_toNat, UInt32.toNat_sub] at reached
  rw [Bool.eq_false_iff, ne_eq, beforeOrEqual_iff_toNat, UInt32.toNat_sub, toNat_advance] at notPast
  rw [UInt32.toNat_sub]
  omega

/-- What lies past `next` ends where the stretch does. -/
theorem advance_distance (inside : (next - start).toNat ≤ length) :
    advance next (length - (next - start).toNat) = advance start length := by
  have startSmall : start.toNat < 2 ^ 32 := start.toNat_lt
  have nextSmall : next.toNat < 2 ^ 32 := next.toNat_lt
  apply UInt32.toNat_inj.mp
  rw [UInt32.toNat_sub] at inside ⊢
  rw [toNat_advance, toNat_advance]
  omega

end Overlap

section Window

variable {base : UInt32} {left right : Nat}

/-- Distance from the later offset back to the earlier one. -/
theorem toNat_advance_sub (ordered : right ≤ left) (leftSmall : left < 2 ^ 32) :
    (advance base left - advance base right).toNat = left - right := by
  have baseSmall : base.toNat < 2 ^ 32 := base.toNat_lt
  rw [UInt32.toNat_sub, toNat_advance, toNat_advance]
  omega

/-- Inside one window, comparing counters is comparing offsets. -/
theorem before_advance (leftSmall : left < window) (rightSmall : right < window) :
    before (advance base left) (advance base right) = decide (left < right) := by
  have baseSmall : base.toNat < 2 ^ 32 := base.toNat_lt
  rw [Bool.eq_iff_iff, before_iff_toNat, decide_eq_true_iff, UInt32.toNat_sub, toNat_advance,
    toNat_advance]
  unfold window at leftSmall rightSmall
  omega

theorem advance_inj (leftSmall : left < window) (rightSmall : right < window) :
    advance base left = advance base right ↔ left = right := by
  constructor
  · intro equal
    have baseSmall : base.toNat < 2 ^ 32 := base.toNat_lt
    have values := congrArg UInt32.toNat equal
    rw [toNat_advance, toNat_advance] at values
    unfold window at leftSmall rightSmall
    omega
  · rintro rfl
    rfl

theorem beforeOrEqual_advance (leftSmall : left < window) (rightSmall : right < window) :
    beforeOrEqual (advance base left) (advance base right) = decide (left ≤ right) := by
  rw [Bool.eq_iff_iff, beforeOrEqual, Bool.or_eq_true, beq_iff_eq,
    advance_inj leftSmall rightSmall, before_advance leftSmall rightSmall, decide_eq_true_iff,
    decide_eq_true_iff]
  omega

end Window

end MiniSniffer.Foundation.SerialNumber
