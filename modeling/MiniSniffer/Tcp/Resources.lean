import Mathlib.Algebra.BigOperators.Group.List.Basic
import Mathlib.Algebra.GroupWithZero.Nat
import MiniSniffer.Tcp.StreamOrder

/-!
Contract: what segments do to a direction's counters and memory.

Owns the four lifetime counters as one family, the storage invariant of an initialised direction,
and the relation `Spends` between a direction before and after an operation: no counter goes down
and the invariant is kept. Every operation of `tcp_reassembly_process_segment` is in the relation,
whatever sequence numbers, flags and payloads it is given.

Does not own what the stored bytes mean: see `Tcp.StreamOrder`.
-/

namespace MiniSniffer

open Foundation Foundation.SerialNumber

/-- The counters of a direction that outlive its buffers. -/
inductive ReassemblyCounter where
  | retransmissions
  | outOfOrderSegments
  | overlappingSegments
  | gaps
deriving DecidableEq, Repr

namespace TcpReassemblyDirection

def counter (state : TcpReassemblyDirection) : ReassemblyCounter → Nat
  | .retransmissions => state.retransmissions
  | .outOfOrderSegments => state.outOfOrderSegments
  | .overlappingSegments => state.overlappingSegments
  | .gaps => state.gaps

/-- The bytes that the pending segments own. -/
def pendingLengths (state : TcpReassemblyDirection) : List Nat :=
  state.pending.map fun segment => segment.data.length

/-- A direction initialised with a buffer of `capacity` bytes. -/
structure Stored (capacity : Nat) (state : TcpReassemblyDirection) : Prop where
  streamValid : state.stream.Valid
  capacity_eq : state.stream.capacity = capacity
  cap_eq : state.pendingByteCap = capacity
  few : state.pending.length ≤ tcpReassemblyMaxPendingSegments
  nonempty : ∀ segment ∈ state.pending, 0 < segment.data.length
  pendingBytes_eq : state.pendingBytes = state.pendingLengths.sum
  pendingBytes_le : state.pendingBytes ≤ capacity

end TcpReassemblyDirection

open TcpReassemblyDirection

/-- An operation that counts up, if at all, and stays within the memory of the direction. -/
structure Spends (capacity : Nat) (before after : TcpReassemblyDirection) : Prop where
  counters_le : ∀ counter : ReassemblyCounter, before.counter counter ≤ after.counter counter
  stored : before.Stored capacity → after.Stored capacity

section Operations

variable {capacity index : Nat} {first second third state : TcpReassemblyDirection}
variable {segment : TcpOutOfOrderSegment}

namespace Spends

theorem refl (state : TcpReassemblyDirection) : Spends capacity state state :=
  ⟨fun _ => Nat.le_refl _, id⟩

theorem trans (left : Spends capacity first second) (right : Spends capacity second third) :
    Spends capacity first third :=
  ⟨fun counter => (left.counters_le counter).trans (right.counters_le counter),
    fun stored => right.stored (left.stored stored)⟩

/-- Updates of sequence state, flags and counters. -/
theorem of_fields (counters : ∀ counter, first.counter counter ≤ second.counter counter)
    (stream : second.stream = first.stream) (pending : second.pending = first.pending)
    (bytes : second.pendingBytes = first.pendingBytes)
    (cap : second.pendingByteCap = first.pendingByteCap) : Spends capacity first second := by
  refine ⟨counters, fun stored => ?_⟩
  exact
    { streamValid := by rw [stream]; exact stored.streamValid
      capacity_eq := by rw [stream]; exact stored.capacity_eq
      cap_eq := by rw [cap]; exact stored.cap_eq
      few := by rw [pending]; exact stored.few
      nonempty := by rw [pending]; exact stored.nonempty
      pendingBytes_eq := by rw [bytes, pendingLengths, pending]; exact stored.pendingBytes_eq
      pendingBytes_le := by rw [bytes]; exact stored.pendingBytes_le }

end Spends

/-- A counter family in which each counter is kept or counted up by one. -/
theorem counter_le_of_fields
    (retransmissions : first.retransmissions ≤ second.retransmissions)
    (outOfOrder : first.outOfOrderSegments ≤ second.outOfOrderSegments)
    (overlapping : first.overlappingSegments ≤ second.overlappingSegments)
    (gaps : first.gaps ≤ second.gaps) (counter : ReassemblyCounter) :
    first.counter counter ≤ second.counter counter := by
  cases counter with
  | retransmissions => exact retransmissions
  | outOfOrderSegments => exact outOfOrder
  | overlappingSegments => exact overlapping
  | gaps => exact gaps

/-! ### The pending store -/

/-- The pending bytes, split at one segment. -/
theorem pendingLengths_split (found : state.pending[index]? = some segment) :
    state.pendingLengths.sum =
      segment.data.length + (state.pendingLengths.eraseIdx index).sum := by
  obtain ⟨bound, rfl⟩ := List.getElem?_eq_some_iff.mp found
  have perm := (List.getElem_cons_eraseIdx_perm bound).map fun segment => segment.data.length
  rw [pendingLengths, ← perm.sum_eq, List.map_cons, List.sum_cons, List.eraseIdx_map]

theorem spends_removePendingAt (state : TcpReassemblyDirection) (index : Nat) :
    Spends capacity state (removePendingAt state index) := by
  cases found : state.pending[index]? with
  | none =>
      rw [removePendingAt, found]
      exact Spends.refl state
  | some segment =>
      rw [removePendingAt_eq state found]
      refine ⟨fun counter => by cases counter <;> exact Nat.le_refl _, fun stored => ?_⟩
      have split := pendingLengths_split found
      have bytes := stored.pendingBytes_eq
      have least := stored.pendingBytes_le
      exact
        { streamValid := stored.streamValid
          capacity_eq := stored.capacity_eq
          cap_eq := stored.cap_eq
          few := (List.eraseIdx_sublist _ _).length_le.trans stored.few
          nonempty := fun other member => stored.nonempty other (List.mem_of_mem_eraseIdx member)
          pendingBytes_eq := by
            show state.pendingBytes - segment.data.length =
              ((state.pending.eraseIdx index).map fun segment => segment.data.length).sum
            rw [← List.eraseIdx_map]
            unfold pendingLengths at split
            unfold pendingLengths at bytes
            omega
          pendingBytes_le := by
            show state.pendingBytes - segment.data.length ≤ capacity
            omega }

theorem spends_storeOutOfOrderSegment {sequence : UInt32} {payload : List UInt8}
    (accepted : storeOutOfOrderSegment first sequence payload = some second) :
    Spends capacity first second := by
  obtain ⟨few, nonempty, -, room, rfl⟩ := storeOutOfOrderSegment_some accepted
  refine ⟨fun counter => by cases counter <;> exact Nat.le_refl _, fun stored => ?_⟩
  have bytes := stored.pendingBytes_eq
  have cap := stored.cap_eq
  have most := stored.pendingBytes_le
  exact
    { streamValid := stored.streamValid
      capacity_eq := stored.capacity_eq
      cap_eq := stored.cap_eq
      few := by
        rw [List.length_append, List.length_singleton]
        exact few
      nonempty := by
        intro segment member
        rcases List.mem_append.mp member with old | new
        · exact stored.nonempty segment old
        · rw [List.mem_singleton.mp new]
          exact Nat.pos_of_ne_zero nonempty
      pendingBytes_eq := by
        simp only [pendingLengths, List.map_append, List.map_cons, List.map_nil, List.sum_append,
          List.sum_cons, List.sum_nil, Nat.add_zero]
        rw [bytes]
        rfl
      pendingBytes_le := by
        show first.pendingBytes + payload.length ≤ capacity
        omega }

/-! ### The stream -/

theorem spends_appendStreamData (state : TcpReassemblyDirection) (bytes : List UInt8) :
    Spends capacity state (appendStreamData state bytes).1 := by
  refine ⟨fun counter => by cases counter <;> exact Nat.le_refl _, fun stored => ?_⟩
  obtain ⟨stream, equal, valid, sameCapacity, -, -⟩ :=
    appendStreamData_spec stored.streamValid bytes
  rw [equal]
  exact { stored with
    streamValid := valid
    capacity_eq := sameCapacity.trans stored.capacity_eq
    pendingBytes_eq := stored.pendingBytes_eq }

theorem spends_appendStreamBestEffort (state : TcpReassemblyDirection) (bytes : List UInt8) :
    Spends capacity state (appendStreamBestEffort state bytes).1 := by
  simp only [appendStreamBestEffort]
  generalize (if bytes.length < state.stream.capacity - streamBufferLength state.stream then
    bytes.length else state.stream.capacity - streamBufferLength state.stream) = take
  split_ifs
  · exact Spends.refl state
  · exact spends_appendStreamData state _
  · exact spends_appendStreamData state _

/-! ### Flushing -/

theorem spends_countOverlap (state : TcpReassemblyDirection) (trim : Nat) :
    Spends capacity state (countOverlap state trim) := by
  unfold countOverlap
  split
  · refine Spends.of_fields ?_ rfl rfl rfl rfl
    exact counter_le_of_fields (Nat.le_refl _) (Nat.le_refl _) (Nat.le_succ _) (Nat.le_refl _)
  · exact Spends.refl state

theorem spends_flushSegment (state : TcpReassemblyDirection) (index : Nat)
    (segment : TcpOutOfOrderSegment) :
    Spends capacity state (flushSegment state index segment).1 := by
  simp only [flushSegment]
  split
  · -- a segment that is wholly behind the stream counts as a retransmission
    refine Spends.trans ?_ (spends_removePendingAt _ index)
    refine Spends.of_fields ?_ rfl rfl rfl rfl
    exact counter_le_of_fields (Nat.le_succ _) (Nat.le_refl _) (Nat.le_refl _) (Nat.le_refl _)
  · generalize (state.nextSequence - segment.sequence).toNat = trim
    have appended : Spends capacity state
        (appendStreamData (countOverlap state trim) (segment.data.drop trim)).1 :=
      (spends_countOverlap state trim).trans (spends_appendStreamData _ _)
    split
    · apply appended.trans
      refine Spends.trans ?_ (spends_removePendingAt _ index)
      exact Spends.of_fields (fun counter => by cases counter <;> exact Nat.le_refl _) rfl rfl rfl
        rfl
    · apply appended.trans
      exact Spends.of_fields (fun counter => by cases counter <;> exact Nat.le_refl _) rfl rfl rfl
        rfl

theorem spends_flushLoop (passes : Nat) (state : TcpReassemblyDirection) :
    Spends capacity state (flushLoop passes state).1 := by
  induction passes generalizing state with
  | zero => exact Spends.refl state
  | succ passes inductionHypothesis =>
      rw [flushLoop]
      split
      · exact Spends.refl state
      next index _ =>
        split
        · exact Spends.refl state
        next segment _ =>
          have flushed : Spends capacity state (flushSegment state index segment).1 :=
            spends_flushSegment state index segment
          split
          next after equal =>
            rw [equal] at flushed
            exact flushed.trans (inductionHypothesis after)
          next after equal =>
            rw [equal] at flushed
            exact flushed

theorem spends_flushPendingSegments (state : TcpReassemblyDirection) :
    Spends capacity state (flushPendingSegments state).1 :=
  spends_flushLoop state.pending.length state

/-! ### Segments -/

theorem spends_trackFlags (state : TcpReassemblyDirection) (flags : UInt8) :
    Spends capacity state (tcpReassemblyTrackFlags state flags) :=
  Spends.of_fields (fun counter => by cases counter <;> exact Nat.le_refl _) rfl rfl rfl rfl

theorem spends_learnBaseline (state : TcpReassemblyDirection) (sequence : UInt32) (flags : UInt8) :
    Spends capacity state (learnBaseline state sequence flags) := by
  unfold learnBaseline
  split
  · exact Spends.refl state
  · exact Spends.of_fields (fun counter => by cases counter <;> exact Nat.le_refl _) rfl rfl rfl rfl

theorem spends_appendInOrder (state : TcpReassemblyDirection) (dataSequence : UInt32)
    (flags : UInt8) (payload : List UInt8) :
    Spends capacity state (appendInOrder state dataSequence flags payload).1 := by
  have stored : Spends capacity state (appendStreamBestEffort state payload).1 :=
    spends_appendStreamBestEffort state payload
  simp only [appendInOrder]
  split
  · apply stored.trans
    exact Spends.of_fields (fun counter => by cases counter <;> exact Nat.le_refl _) rfl rfl rfl rfl
  · generalize (if hasFlag flags tcpFlagFin then advance dataSequence payload.length + 1
      else advance dataSequence payload.length) = reached
    have advanced : Spends capacity state
        { (appendStreamBestEffort state payload).1 with nextSequence := reached } := by
      apply stored.trans
      exact Spends.of_fields (fun counter => by cases counter <;> exact Nat.le_refl _) rfl rfl rfl
        rfl
    have flushed := advanced.trans (spends_flushPendingSegments _)
    split
    next after equal =>
      rw [equal] at flushed
      exact flushed
    next after equal =>
      rw [equal] at flushed
      exact flushed

theorem spends_placeSegment (state : TcpReassemblyDirection) (dataSequence : UInt32)
    (flags : UInt8) (payload : List UInt8) :
    Spends capacity state (placeSegment state dataSequence flags payload).1 := by
  have ahead : Spends capacity state
      { state with
        outOfOrderSegments := state.outOfOrderSegments + 1, gaps := state.gaps + 1 } :=
    Spends.of_fields (counter_le_of_fields (Nat.le_refl _) (Nat.le_succ _) (Nat.le_refl _)
      (Nat.le_succ _)) rfl rfl rfl rfl
  have overlap : Spends capacity state
      { state with overlappingSegments := state.overlappingSegments + 1 } :=
    Spends.of_fields (counter_le_of_fields (Nat.le_refl _) (Nat.le_refl _) (Nat.le_succ _)
      (Nat.le_refl _)) rfl rfl rfl rfl
  simp only [placeSegment]
  split
  · exact Spends.of_fields (counter_le_of_fields (Nat.le_succ _) (Nat.le_refl _) (Nat.le_refl _)
      (Nat.le_refl _)) rfl rfl rfl rfl
  · split
    · split
      · exact ahead
      next stored accepted => exact ahead.trans (spends_storeOutOfOrderSegment accepted)
    · split
      · split
        · exact Spends.of_fields (counter_le_of_fields (Nat.le_succ _) (Nat.le_refl _)
            (Nat.le_succ _) (Nat.le_refl _)) rfl rfl rfl rfl
        · exact overlap.trans (spends_appendInOrder _ _ _ _)
      · exact spends_appendInOrder state dataSequence flags payload

theorem spends_absorbSegment (state : TcpReassemblyDirection) (dataSequence : UInt32)
    (flags : UInt8) (payload : List UInt8) :
    Spends capacity state (absorbSegment state dataSequence flags payload).1 := by
  unfold absorbSegment
  split_ifs
  · exact Spends.of_fields (fun counter => by cases counter <;> exact Nat.le_refl _) rfl rfl rfl rfl
  · exact Spends.refl state
  · exact Spends.of_fields (fun counter => by cases counter <;> exact Nat.le_refl _) rfl rfl rfl rfl
  · exact spends_placeSegment state dataSequence flags payload

/-- No segment counts anything down or breaks the storage invariant. -/
theorem spends_processSegment (capacity : Nat) (state : TcpReassemblyDirection) (sequence : UInt32)
    (flags : UInt8) (payload : List UInt8) :
    Spends capacity state (tcpReassemblyProcessSegment state sequence flags payload).1 := by
  unfold tcpReassemblyProcessSegment
  split
  · exact Spends.refl state
  · apply (spends_trackFlags state flags).trans
    apply (spends_learnBaseline _ sequence flags).trans
    exact spends_absorbSegment _ _ flags payload

theorem tcpReassemblyDirectionInit_stored {streamBufferBytes : Nat}
    (initialized : tcpReassemblyDirectionInit streamBufferBytes = some state) :
    state.Stored streamBufferBytes := by
  obtain ⟨stream, streamEq, rfl⟩ := tcpReassemblyDirectionInit_some initialized
  have fresh := StreamBuffer.streamBufferInit_valid streamEq
  exact
    { streamValid := fresh.1
      capacity_eq := fresh.2.2.1
      cap_eq := rfl
      few := Nat.zero_le _
      nonempty := fun segment member => absurd member List.not_mem_nil
      pendingBytes_eq := rfl
      pendingBytes_le := Nat.zero_le _ }

end Operations

end MiniSniffer
