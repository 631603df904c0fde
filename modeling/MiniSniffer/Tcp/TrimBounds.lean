import Mathlib.Logic.Relation
import Mathlib.Order.RelClasses
import MiniSniffer.Tcp.ResultCodes

/-!
Contract: the trims of a direction stay inside their segments, and its flush ends
(`src/tcp_reassembly.c`).

Owns the overlap trim of a segment on counters that wrap, one pass of the flush loop, and the loop
as a chain of passes of which each removes a pending segment.

Does not own what the bytes mean: see `Tcp.StreamOrder`.
-/

namespace MiniSniffer

open Foundation Foundation.SerialNumber

/-! ### Trims -/

/-- `trim = next_sequence - sequence` takes less than the segment, and what it leaves ends where the
segment does. -/
structure TrimFits (nextSequence sequence : UInt32) (length : Nat) : Prop where
  inside : (nextSequence - sequence).toNat < length
  reaches : advance nextSequence (length - (nextSequence - sequence).toNat) =
    advance sequence length

section Trims

variable {nextSequence sequence : UInt32} {length : Nat}
variable {state : TcpReassemblyDirection} {payload : List UInt8}

theorem trimFits (small : length < 2 ^ 32)
    (notPast : beforeOrEqual (advance sequence length) nextSequence = false)
    (reached : beforeOrEqual sequence nextSequence = true) :
    TrimFits nextSequence sequence length := by
  have inside := distance_lt small notPast reached
  exact ⟨inside, advance_distance (Nat.le_of_lt inside)⟩

/-- An overlapping segment is trimmed within its payload and its rest appended; the guard
`trim >= payload_length` plays no part. Once the rest is stored, the stream expects what follows the
segment; a FIN takes one sequence number more. -/
structure OverlapFits (state : TcpReassemblyDirection) (sequence : UInt32) (flags : UInt8)
    (payload : List UInt8) : Prop where
  trim : TrimFits state.nextSequence sequence payload.length
  appends : placeSegment state sequence flags payload =
    appendInOrder { state with overlappingSegments := state.overlappingSegments + 1 }
      state.nextSequence flags (payload.drop (state.nextSequence - sequence).toNat)
  advances :
    let stored := appendStreamBestEffort
      { state with overlappingSegments := state.overlappingSegments + 1 }
      (payload.drop (state.nextSequence - sequence).toNat)
    let reached := advance sequence payload.length
    let flushed := flushPendingSegments
      { stored.1 with nextSequence := if hasFlag flags tcpFlagFin then reached + 1 else reached }
    stored.2 = payload.length - (state.nextSequence - sequence).toNat →
      placeSegment state sequence flags payload =
        (flushed.1, if flushed.2 then .accepted else .dropped)

/-- In-order data that is stored whole is followed by a flush from its end. -/
theorem appendInOrder_stored (flags : UInt8)
    (whole : (appendStreamBestEffort state payload).2 = payload.length) :
    appendInOrder state sequence flags payload =
      let reached := advance sequence payload.length
      let flushed := flushPendingSegments
        { (appendStreamBestEffort state payload).1 with
          nextSequence := if hasFlag flags tcpFlagFin then reached + 1 else reached }
      (flushed.1, if flushed.2 then .accepted else .dropped) := by
  rw [appendInOrder]
  dsimp only
  rw [whole, if_neg (Nat.lt_irrefl _)]
  generalize flushPendingSegments _ = flushed
  rcases flushed with ⟨after, succeeded⟩
  cases succeeded <;> rfl

theorem placeSegment_overlap (flags : UInt8) (small : payload.length < 2 ^ 32)
    (notPast : beforeOrEqual (advance sequence payload.length) state.nextSequence = false)
    (notAhead : before state.nextSequence sequence = false)
    (overlaps : before sequence state.nextSequence = true) :
    OverlapFits state sequence flags payload := by
  have reached : beforeOrEqual sequence state.nextSequence = true := by
    rw [beforeOrEqual, overlaps, Bool.or_true]
  have fits := trimFits small notPast reached
  have appends : placeSegment state sequence flags payload =
      appendInOrder { state with overlappingSegments := state.overlappingSegments + 1 }
        state.nextSequence flags (payload.drop (state.nextSequence - sequence).toNat) := by
    rw [placeSegment, if_neg (by simp [notPast]), if_neg (by simp [notAhead]), if_pos overlaps]
    exact if_neg (Nat.not_le.mpr fits.inside)
  refine ⟨fits, appends, ?_⟩
  intro stored reached flushed whole
  rw [appends, appendInOrder_stored flags (by rw [List.length_drop]; exact whole)]
  simp only [List.length_drop, fits.reaches]
  rfl

end Trims

/-! ### Pending segments -/

/-- Segments of the pending store have the lengths that `tcp_reassembly_process_segment` lets
through. -/
def PendingSized (state : TcpReassemblyDirection) : Prop :=
  ∀ segment ∈ state.pending, 0 < segment.data.length ∧ segment.data.length < 2 ^ 32

section Pending

variable {state after : TcpReassemblyDirection} {index : Nat} {segment : TcpOutOfOrderSegment}

theorem PendingSized.of_sublist (sized : PendingSized state)
    (kept : after.pending.Sublist state.pending) : PendingSized after :=
  fun segment member => sized segment (kept.subset member)

/-- A pass of the flush that continues has taken its segment away, and the stream has reached the
segment's end. -/
theorem flushSegment_removes (found : state.pending[index]? = some segment)
    (continued : flushSegment state index segment = (after, true)) :
    after.pending = state.pending.eraseIdx index ∧
      (beforeOrEqual segment.segmentEnd state.nextSequence = false →
        after.nextSequence = segment.segmentEnd) := by
  rw [flushSegment] at continued
  split at continued
  next passed =>
    have counted : ({ state with
        retransmissions := state.retransmissions + 1 } : TcpReassemblyDirection).pending[index]? =
          some segment := found
    rw [removePendingAt_eq _ counted] at continued
    rw [← (Prod.mk.inj continued).1, passed]
    exact ⟨rfl, fun notPast => absurd notPast (by decide)⟩
  next =>
    dsimp only at continued
    generalize (state.nextSequence - segment.sequence).toNat = trim at continued
    have same : (appendStreamData (countOverlap state trim) (segment.data.drop trim)).1.pending =
        state.pending := countOverlap_pending state trim
    generalize appendStreamData (countOverlap state trim) (segment.data.drop trim) = appended
      at continued same
    split at continued
    next =>
      have held : ({ appended.1 with
          nextSequence := segment.segmentEnd } : TcpReassemblyDirection).pending[index]? =
            some segment := by rw [← found, ← same]
      rw [removePendingAt_eq _ held] at continued
      rw [← (Prod.mk.inj continued).1, ← same]
      exact ⟨rfl, fun _ => rfl⟩
    next => exact absurd (Prod.mk.inj continued).2 (by decide)

/-- A pass of the flush that stops leaves the pending store. -/
theorem flushSegment_stops (stopped : flushSegment state index segment = (after, false)) :
    after.pending = state.pending := by
  rw [flushSegment] at stopped
  split at stopped
  next => exact absurd (Prod.mk.inj stopped).2 (by decide)
  next =>
    dsimp only at stopped
    generalize (state.nextSequence - segment.sequence).toNat = trim at stopped
    have same : (appendStreamData (countOverlap state trim) (segment.data.drop trim)).1.pending =
        state.pending := countOverlap_pending state trim
    split at stopped
    next => exact absurd (Prod.mk.inj stopped).2 (by decide)
    next =>
      have unchanged := congrArg TcpReassemblyDirection.pending (Prod.mk.inj stopped).1
      exact unchanged.symm.trans same

/-! ### The flush loop -/

/-- The body of the loop: `none` when no pending segment is reached. -/
def flushIteration (state : TcpReassemblyDirection) : Option (TcpReassemblyDirection × Bool) :=
  match state.pending.findIdx? (flushReaches state.nextSequence) with
  | none => none
  | some index =>
      match state.pending[index]? with
      | none => none
      | some segment => some (flushSegment state index segment)

/-- An iteration after which the loop goes on. -/
def FlushContinues (state after : TcpReassemblyDirection) : Prop :=
  flushIteration state = some (after, true)

/-- How the loop ends, from the state that its last iteration finds. -/
def FlushEnds (last : TcpReassemblyDirection) (outcome : TcpReassemblyDirection × Bool) : Prop :=
  (flushIteration last = none ∧ outcome = (last, true)) ∨
    (flushIteration last = some outcome ∧ outcome.2 = false)

/-- An iteration handles a pending segment that the stream has reached. -/
theorem flushIteration_some {outcome : TcpReassemblyDirection × Bool}
    (iterated : flushIteration state = some outcome) :
    ∃ index segment, state.pending[index]? = some segment ∧
      flushReaches state.nextSequence segment = true ∧
      flushSegment state index segment = outcome := by
  rw [flushIteration] at iterated
  split at iterated
  next => contradiction
  next index candidate =>
    obtain ⟨bound, reached, -⟩ := List.findIdx?_eq_some_iff_getElem.mp candidate
    rw [List.getElem?_eq_getElem bound] at iterated
    exact ⟨index, _, List.getElem?_eq_getElem bound, reached, Option.some.inj iterated⟩

theorem flushLoop_succ (passes : Nat) (state : TcpReassemblyDirection) :
    flushLoop (passes + 1) state =
      match flushIteration state with
      | none => (state, true)
      | some (flushed, true) => flushLoop passes flushed
      | some (flushed, false) => (flushed, false) := by
  rw [flushLoop, flushIteration]
  cases state.pending.findIdx? (flushReaches state.nextSequence) with
  | none => rfl
  | some index =>
      dsimp only
      cases state.pending[index]? with
      | none => rfl
      | some segment =>
          dsimp only
          rcases flushSegment state index segment with ⟨flushed, continued⟩
          cases continued <;> rfl

theorem FlushContinues.removes (continues : FlushContinues state after) :
    after.pending.length + 1 = state.pending.length ∧ after.pending.Sublist state.pending := by
  obtain ⟨index, segment, found, -, handled⟩ := flushIteration_some continues
  obtain ⟨bound, -⟩ := List.getElem?_eq_some_iff.mp found
  rw [(flushSegment_removes found handled).1]
  exact ⟨List.length_eraseIdx_add_one bound, List.eraseIdx_sublist _ _⟩

theorem pending_sublist_of_chain (chain : Relation.ReflTransGen FlushContinues state after) :
    after.pending.Sublist state.pending := by
  induction chain with
  | refl => exact List.Sublist.refl _
  | tail _ continues inductionHypothesis => exact continues.removes.2.trans inductionHypothesis

theorem FlushEnds.pending_eq {outcome : TcpReassemblyDirection × Bool}
    (ends : FlushEnds state outcome) : outcome.1.pending = state.pending := by
  rcases ends with ⟨-, rfl⟩ | ⟨iterated, stopped⟩
  · rfl
  · obtain ⟨index, segment, -, -, handled⟩ := flushIteration_some iterated
    exact flushSegment_stops (handled.trans (Prod.ext rfl stopped))

/-- With a pass for every pending segment, the loop runs to its end. -/
theorem flushLoop_ends {passes : Nat} (enough : state.pending.length ≤ passes) :
    ∃ last, Relation.ReflTransGen FlushContinues state last ∧
      FlushEnds last (flushLoop passes state) := by
  induction passes generalizing state with
  | zero =>
      have empty : state.pending = [] := List.length_eq_zero_iff.mp (Nat.le_zero.mp enough)
      refine ⟨state, .refl, Or.inl ⟨?_, rfl⟩⟩
      rw [flushIteration, empty]
      rfl
  | succ passes inductionHypothesis =>
      rw [flushLoop_succ]
      cases iterated : flushIteration state with
      | none => exact ⟨state, .refl, Or.inl ⟨iterated, rfl⟩⟩
      | some outcome =>
          rcases outcome with ⟨flushed, continued⟩
          cases continued with
          | false => exact ⟨state, .refl, Or.inr ⟨iterated, rfl⟩⟩
          | true =>
              have fewer := (FlushContinues.removes iterated).1
              have left : flushed.pending.length ≤ passes := by omega
              obtain ⟨last, chain, ends⟩ := inductionHypothesis left
              exact ⟨last, .head iterated chain, ends⟩

/-- No chain of iterations goes on for ever. -/
theorem flushContinues_wellFounded : WellFounded (flip FlushContinues) := by
  apply Subrelation.wf _ (measure fun state : TcpReassemblyDirection => state.pending.length).wf
  intro after state continues
  have fewer := FlushContinues.removes continues
  show after.pending.length < state.pending.length
  omega

theorem flushPendingSegments_sublist (state : TcpReassemblyDirection) :
    (flushPendingSegments state).1.pending.Sublist state.pending := by
  obtain ⟨last, chain, ends⟩ := flushLoop_ends (Nat.le_refl state.pending.length)
  rw [flushPendingSegments, ends.pending_eq]
  exact pending_sublist_of_chain chain

end Pending

/-! ### Runs -/

section Runs

variable {state : TcpReassemblyDirection}

theorem PendingSized.appendInOrder (sized : PendingSized state) (dataSequence : UInt32)
    (flags : UInt8) (payload : List UInt8) :
    PendingSized (MiniSniffer.appendInOrder state dataSequence flags payload).1 := by
  have stored : PendingSized (appendStreamBestEffort state payload).1 := by
    simp only [appendStreamBestEffort]
    split_ifs <;> exact sized
  simp only [MiniSniffer.appendInOrder]
  split
  · exact stored
  · generalize (if hasFlag flags tcpFlagFin then advance dataSequence payload.length + 1
      else advance dataSequence payload.length) = reached
    have advanced : PendingSized
        { (appendStreamBestEffort state payload).1 with nextSequence := reached } := stored
    have flushed := advanced.of_sublist (flushPendingSegments_sublist _)
    split
    next equal =>
      rw [equal] at flushed
      exact flushed
    next equal =>
      rw [equal] at flushed
      exact flushed

theorem PendingSized.storeOutOfOrderSegment {sequence : UInt32} {payload : List UInt8}
    {stored : TcpReassemblyDirection} (sized : PendingSized state)
    (positive : 0 < payload.length) (small : payload.length < 2 ^ 32)
    (accepted : MiniSniffer.storeOutOfOrderSegment state sequence payload = some stored) :
    PendingSized stored := by
  obtain ⟨-, -, -, -, rfl⟩ := storeOutOfOrderSegment_some accepted
  intro segment member
  rcases List.mem_append.mp member with old | new
  · exact sized segment old
  · rw [List.mem_singleton.mp new]
    exact ⟨positive, small⟩

theorem PendingSized.placeSegment (sized : PendingSized state) (dataSequence : UInt32)
    (flags : UInt8) {payload : List UInt8} (positive : 0 < payload.length)
    (small : payload.length < 2 ^ 32) :
    PendingSized (MiniSniffer.placeSegment state dataSequence flags payload).1 := by
  have ahead : PendingSized
      { state with
        outOfOrderSegments := state.outOfOrderSegments + 1, gaps := state.gaps + 1 } := sized
  have overlap : PendingSized
      { state with overlappingSegments := state.overlappingSegments + 1 } := sized
  simp only [MiniSniffer.placeSegment]
  split
  · exact sized
  · split
    · split
      · exact sized
      next stored accepted => exact ahead.storeOutOfOrderSegment positive small accepted
    · split
      · split
        · exact sized
        · exact overlap.appendInOrder _ _ _
      · exact sized.appendInOrder _ _ _

theorem PendingSized.next (sized : PendingSized state) (operation : DirectionOperation) :
    PendingSized (directionOperations.next state operation) := by
  cases operation with
  | trackFlags flags => exact sized
  | releaseBuffers => exact fun segment member => absurd member List.not_mem_nil
  | segment segment =>
      show PendingSized (tcpReassemblyProcessSegment state segment.sequence segment.flags
        segment.payload).1
      unfold tcpReassemblyProcessSegment
      split
      · exact sized
      · have ready : PendingSized (learnBaseline (tcpReassemblyTrackFlags state segment.flags)
            segment.sequence segment.flags) := by
          unfold learnBaseline
          split <;> exact sized
        generalize learnBaseline (tcpReassemblyTrackFlags state segment.flags) segment.sequence
          segment.flags = learned at ready
        unfold absorbSegment
        split_ifs with empty fin long
        · exact ready
        · exact ready
        · exact ready
        · exact ready.placeSegment _ _ (Nat.pos_of_ne_zero empty) (by omega)

theorem pendingSized_of_reachable {streamBufferBytes : Nat} {initial : TcpReassemblyDirection}
    (initialized : tcpReassemblyDirectionInit streamBufferBytes = some initial)
    (reached : directionOperations.Reachable initial state) : PendingSized state := by
  have fresh : PendingSized initial := by
    rw [PendingSized, (tcpReassemblyDirectionInit_fresh initialized).nothingPending]
    exact fun segment member => absurd member List.not_mem_nil
  exact reached.invariant (fun _ operation sized => sized.next operation) fresh

/-! ### Main result -/

/-- What an iteration does to the segment that it takes: the segment has been passed or its trim
fits, and if the loop goes on, the stream has reached the segment's end and one segment less is
pending. -/
def FlushTrims (state : TcpReassemblyDirection) (outcome : TcpReassemblyDirection × Bool) : Prop :=
  ∃ index segment, state.pending[index]? = some segment ∧
    outcome = flushSegment state index segment ∧
    (outcome.2 = true → outcome.1.pending.length + 1 = state.pending.length) ∧
    (beforeOrEqual segment.segmentEnd state.nextSequence = true ∨
      TrimFits state.nextSequence segment.sequence segment.data.length ∧
        (outcome.2 = true →
          outcome.1.nextSequence = advance segment.sequence segment.data.length))

/-- Every iteration of the loop trims within its segment, and the loop ends. -/
structure FlushIsSafe (state : TcpReassemblyDirection) : Prop where
  trims : ∀ later, Relation.ReflTransGen FlushContinues state later →
    ∀ outcome, flushIteration later = some outcome → FlushTrims later outcome
  ends : ∃ last, Relation.ReflTransGen FlushContinues state last ∧
    FlushEnds last (flushPendingSegments state)

theorem PendingSized.flushTrims (sized : PendingSized state)
    {outcome : TcpReassemblyDirection × Bool} (iterated : flushIteration state = some outcome) :
    FlushTrims state outcome := by
  obtain ⟨index, segment, found, reached, handled⟩ := flushIteration_some iterated
  have small := (sized segment (List.mem_of_getElem? found)).2
  refine ⟨index, segment, found, handled.symm, ?_, ?_⟩
  · intro continued
    exact (FlushContinues.removes (iterated.trans (congrArg some (Prod.ext rfl continued)))).1
  · cases passed : beforeOrEqual segment.segmentEnd state.nextSequence with
    | true => exact Or.inl rfl
    | false =>
        rw [flushReaches, passed, Bool.false_or] at reached
        refine Or.inr ⟨trimFits small passed reached, ?_⟩
        intro continued
        exact (flushSegment_removes found (handled.trans (Prod.ext rfl continued))).2 passed

theorem PendingSized.flushIsSafe (sized : PendingSized state) : FlushIsSafe state where
  trims := fun _ chain _ iterated =>
    (sized.of_sublist (pending_sublist_of_chain chain)).flushTrims iterated
  ends := flushLoop_ends (Nat.le_refl _)

/-- Trims never take a whole segment, in a call or in the flush that it sets off, and the flush
ends. -/
theorem trims_stay_inside :
    (∀ (sequence nextSequence : UInt32) (length : Nat), 0 < length → length < 2 ^ 32 →
      beforeOrEqual (advance sequence length) nextSequence = false →
      beforeOrEqual sequence nextSequence = true → TrimFits nextSequence sequence length) ∧
    (∀ (state : TcpReassemblyDirection) (sequence : UInt32) (flags : UInt8)
        (payload : List UInt8), state.unusable = false → 0 < payload.length →
      payload.length < 2 ^ 32 →
      let ready := learnBaseline (tcpReassemblyTrackFlags state flags) sequence flags
      let dataSequence := payloadSequence sequence flags
      tcpReassemblyProcessSegment state sequence flags payload =
          placeSegment ready dataSequence flags payload ∧
        (beforeOrEqual (advance dataSequence payload.length) ready.nextSequence = false →
          before ready.nextSequence dataSequence = false →
          before dataSequence ready.nextSequence = true →
          OverlapFits ready dataSequence flags payload)) ∧
    (∀ (streamBufferBytes : Nat) (initial state flushing : TcpReassemblyDirection),
      tcpReassemblyDirectionInit streamBufferBytes = some initial →
      directionOperations.Reachable initial state → flushing.pending = state.pending →
      FlushIsSafe flushing) ∧
    WellFounded (flip FlushContinues) := by
  refine ⟨fun _ _ _ _ small => trimFits small, ?_, ?_, flushContinues_wellFounded⟩
  · intro state sequence flags payload usable positive small ready dataSequence
    refine ⟨?_, placeSegment_overlap flags small⟩
    rw [tcpReassemblyProcessSegment, if_neg (by simp [usable]), absorbSegment,
      if_neg (Nat.ne_of_gt positive), if_neg (by omega)]
  · intro streamBufferBytes initial state flushing initialized reached same
    have sized := pendingSized_of_reachable initialized reached
    rw [PendingSized, ← same] at sized
    exact PendingSized.flushIsSafe sized

/-- Half the counter space away, before the largest segment: the trim is one byte short of it. -/
theorem trims_stay_inside_halfTurn : TrimFits 0x80000000 0 0x80000001 :=
  trims_stay_inside.1 0 0x80000000 0x80000001 (by decide) (by decide) (by decide) (by decide)

end Runs

end MiniSniffer
