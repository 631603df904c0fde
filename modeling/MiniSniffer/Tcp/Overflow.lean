import MiniSniffer.Tcp.StreamOrder

/-!
Contract: what is left of a stream that does not fit its buffer.

A direction is fed slices of a byte string, the first of them at offset 0 and
none with a FIN. Owns the head property: the readable stream is the longest
head of the contiguous coverage that fits, and a direction gives up only with
its buffer full. Owns the place where the two append paths part: data that
arrives in order fills the buffer to the last byte, while data that waited is
appended whole or not at all. Owns the condition `FlushFits` that keeps them
together and the run theorem: the head property holds after every call exactly
when every call meets it.

Does not own FIN, and reads nothing of the lifetime counters.
-/

namespace MiniSniffer

open Foundation Foundation.SerialNumber

/-! ### Runs over slices -/

/-- Reassembly fed with the slices of a byte string. -/
def sliceReassembly (source : List UInt8) (base : UInt32) :
    Machine TcpReassemblyDirection SegmentSlice TcpReassemblyResult where
  step state piece := tcpReassembly.step state (piece.segment source base)

/-- The spans of the calls up to and including the one that makes the direction unusable. -/
def countedSpans (source : List UInt8) (base : UInt32) :
    TcpReassemblyDirection → List SegmentSlice → List Span
  | _, [] => []
  | state, piece :: pieces =>
      (if state.unusable then [] else [piece.span]) ++
        countedSpans source base ((sliceReassembly source base).next state piece) pieces

/-- The state a call decides in, once flags and baseline are settled. -/
def settledState (source : List UInt8) (base : UInt32) (state : TcpReassemblyDirection)
    (piece : SegmentSlice) : TcpReassemblyDirection :=
  let segment := piece.segment source base
  learnBaseline (tcpReassemblyTrackFlags state segment.flags) segment.sequence segment.flags

/-- The caps of the pending store do not refuse the slice when it arrives out of order. -/
def PendingAccepts (source : List UInt8) (base : UInt32) (state : TcpReassemblyDirection)
    (piece : SegmentSlice) : Prop :=
  let segment := piece.segment source base
  let dataSequence := payloadSequence segment.sequence segment.flags
  let ready := settledState source base state piece
  state.unusable = false → segment.payload ≠ [] →
    before ready.nextSequence dataSequence = true →
    (storeOutOfOrderSegment ready dataSequence segment.payload).isSome = true

instance (source : List UInt8) (base : UInt32) (state : TcpReassemblyDirection)
    (piece : SegmentSlice) : Decidable (PendingAccepts source base state piece) := by
  unfold PendingAccepts
  infer_instance

/-! ### The head property -/

/-- The readable stream is the head of the contiguous coverage that fits the buffer, and a direction
that gave up has its buffer full. -/
structure KeepsHead (source : List UInt8) (capacity : Nat) (received : List Span)
    (state : TcpReassemblyDirection) : Prop where
  head : ∃ covered, CoverageEnd received 0 covered ∧
    state.stream.readable = source.take (min covered capacity)
  full : state.unusable = true → state.stream.readable.length = capacity

/-! ### When flushing reaches the capacity -/

/-- The flush that starts with the stream at `position`, in the order it takes the waiting spans:
every span it appends ends inside the buffer, unless the buffer is already full when one does
not. -/
def FitsOrFull (capacity : Nat) : Nat → Nat → List Span → Prop
  | 0, _, _ => True
  | passes + 1, position, waiting =>
      match waiting.findIdx? (fun span => decide (span.start ≤ position)) with
      | none => True
      | some index =>
          match waiting[index]? with
          | none => True
          | some span =>
              if span.stop ≤ position then
                FitsOrFull capacity passes position (waiting.eraseIdx index)
              else if span.stop ≤ capacity then
                FitsOrFull capacity passes span.stop (waiting.eraseIdx index)
              else
                position = capacity

/-- Data that arrives in order and fits the buffer sets off a flush that fits or fills it. -/
def FlushFits (base : UInt32) (state : TcpReassemblyDirection) (piece : SegmentSlice) : Prop :=
  state.unusable = false → piece.span.start ≤ state.stream.readable.length →
    state.stream.readable.length < piece.span.stop →
    piece.span.stop ≤ state.stream.capacity →
    FitsOrFull state.stream.capacity state.pending.length piece.span.stop (pendingSpans base state)

/-! ### What a call leaves -/

/-- The direction has rebuilt the contiguous coverage of everything received. -/
structure Delivers (source : List UInt8) (base : UInt32) (capacity : Nat) (received : List Span)
    (state : TcpReassemblyDirection) : Prop where
  tracked : ∃ position, Tracks source base 0 received position position state ∧
    Settled base position state
  capacity_eq : state.stream.capacity = capacity

/-- The direction gave up with `head` bytes of a stream that runs past the capacity. -/
structure Overflowed (source : List UInt8) (capacity : Nat) (received : List Span) (head : Nat)
    (state : TcpReassemblyDirection) : Prop where
  unusable : state.unusable = true
  readable_eq : state.stream.readable = slice source 0 head
  inside : head ≤ source.length
  beyond : ∃ covered, CoverageEnd received 0 covered ∧ capacity < covered

/-- After a call the direction delivers, and then the condition was met, or it overflowed, and then
the condition says whether the buffer is full. -/
inductive HeadAfter (source : List UInt8) (base : UInt32) (capacity : Nat) (received : List Span)
    (fits : Prop) (state : TcpReassemblyDirection) : Prop
  | delivers (met : fits) (delivery : Delivers source base capacity received state)
  | overflowed (head : Nat) (met : fits ↔ head = capacity)
      (overflow : Overflowed source capacity received head state)

section Outcomes

variable {source : List UInt8} {base : UInt32} {start position reach capacity bound : Nat}
variable {received : List Span} {state : TcpReassemblyDirection} {fits other : Prop}

theorem HeadAfter.congr (after : HeadAfter source base capacity received fits state)
    (same : other ↔ fits) : HeadAfter source base capacity received other state := by
  cases after with
  | delivers met delivery => exact .delivers (same.mpr met) delivery
  | overflowed head met overflow => exact .overflowed head (same.trans met) overflow

theorem slice_zero_eq_take (values : List UInt8) (stop : Nat) :
    slice values 0 stop = values.take stop := by
  simp [slice]

/-- The head property holds after a call exactly when the call met its condition. -/
theorem HeadAfter.keepsHead_iff (after : HeadAfter source base capacity received fits state) :
    KeepsHead source capacity received state ↔ fits := by
  cases after with
  | delivers met delivery =>
      refine iff_of_true ?_ met
      obtain ⟨position, tracks, settled⟩ := delivery.tracked
      have bounded := tracks.streamValid.readable_le
      rw [tracks.readable_eq, length_slice tracks.inside, delivery.capacity_eq] at bounded
      refine ⟨⟨position, tracks.coverageEnd settled, ?_⟩, ?_⟩
      · rw [tracks.readable_eq, slice_zero_eq_take, Nat.min_eq_left (by omega)]
      · intro unusable
        rw [tracks.usable] at unusable
        contradiction
  | overflowed head met overflow =>
      have length : state.stream.readable.length = head := by
        rw [overflow.readable_eq, length_slice overflow.inside, Nat.sub_zero]
      rw [met]
      constructor
      · intro keeps
        rw [← length]
        exact keeps.full overflow.unusable
      · rintro rfl
        obtain ⟨covered, isEnd, past⟩ := overflow.beyond
        refine ⟨⟨covered, isEnd, ?_⟩, fun _ => length⟩
        rw [overflow.readable_eq, slice_zero_eq_take, Nat.min_eq_right (by omega)]

/-- Once its condition is met, a call is as good as an unconditional one. -/
theorem HeadAfter.of_met (after : HeadAfter source base capacity received fits state) (met : fits) :
    HeadAfter source base capacity received True state :=
  after.congr (iff_of_true trivial met)

theorem Tracks.covered_lt (tracks : Tracks source base 0 received position reach state)
    (index : Nat) (covered : Covered received index) : index < source.length := by
  rcases (tracks.covered_iff index (Nat.zero_le index)).mp covered with below | waiting
  · have := tracks.inside
    omega
  · obtain ⟨span, member, _, before⟩ := waiting
    obtain ⟨segment, pending, rfl⟩ := List.mem_map.mp member
    have := (tracks.held segment pending).inside
    omega

end Outcomes

/-! ### The flush loop -/

theorem findIdx?_congr {Value : Type*} {values : List Value} {left right : Value → Bool}
    (agree : ∀ value ∈ values, left value = right value) :
    values.findIdx? left = values.findIdx? right := by
  induction values with
  | nil => rfl
  | cons value values inductionHypothesis =>
      rw [List.findIdx?_cons, List.findIdx?_cons, agree value (by simp),
        inductionHypothesis fun other member => agree other (by simp [member])]

section Flush

variable {source : List UInt8} {base : UInt32} {start position reach capacity index : Nat}
variable {received : List Span} {state flushed : TcpReassemblyDirection}

/-- The scan over the store is the scan over its spans. -/
theorem Tracks.findIdx?_pendingSpans (small : source.length < window)
    (tracks : Tracks source base start received position position state) :
    (pendingSpans base state).findIdx? (fun span => decide (span.start ≤ position)) =
      state.pending.findIdx? (flushReaches state.nextSequence) := by
  have inside := tracks.inside
  rw [pendingSpans, List.findIdx?_map]
  apply findIdx?_congr
  intro segment member
  exact (tracks.flushReaches_eq small (by omega) member).symm

theorem pendingSpans_eraseIdx (erased : flushed.pending = state.pending.eraseIdx index) :
    pendingSpans base flushed = (pendingSpans base state).eraseIdx index := by
  rw [pendingSpans, pendingSpans, erased, List.eraseIdx_map]

/-- The flush loop delivers everything that waited, or meets a segment that runs past the
capacity. -/
theorem flushLoop_head (small : source.length < window) {passes : Nat}
    (tracks : Tracks source base 0 received position position state)
    (capacityEq : state.stream.capacity = capacity) (enough : state.pending.length ≤ passes) :
    HeadAfter source base capacity received
      (FitsOrFull capacity passes position (pendingSpans base state))
      (flushLoop passes state).1 := by
  have positionSmall : position < window := by
    have := tracks.inside
    omega
  induction passes generalizing state position with
  | zero =>
      have empty : state.pending = [] := List.length_eq_zero_iff.mp (by omega)
      rw [flushLoop]
      refine .delivers trivial ⟨⟨position, tracks, ?_⟩, capacityEq⟩
      intro segment member
      simp [empty] at member
  | succ passes inductionHypothesis =>
      rw [flushLoop, FitsOrFull, tracks.findIdx?_pendingSpans small]
      cases candidate : state.pending.findIdx? (flushReaches state.nextSequence) with
      | none =>
          have settled := tracks.settled_of_none small positionSmall candidate
          exact .delivers trivial ⟨⟨position, tracks, settled⟩, capacityEq⟩
      | some index =>
          obtain ⟨bound, reached, _⟩ := List.findIdx?_eq_some_iff_getElem.mp candidate
          have found : state.pending[index]? = some state.pending[index] :=
            List.getElem?_eq_getElem bound
          have spanFound : (pendingSpans base state)[index]? =
              some (state.pending[index].span base) := by
            rw [pendingSpans, List.getElem?_map, found, Option.map_some]
          have holds := tracks.held _ (List.getElem_mem bound)
          have inside := holds.inside
          rw [tracks.flushReaches_eq small positionSmall (List.getElem_mem bound),
            decide_eq_true_eq] at reached
          have shorter : (state.pending.eraseIdx index).length ≤ passes := by
            rw [List.length_eraseIdx_of_lt bound]
            omega
          simp only [found, spanFound]
          by_cases past : (state.pending[index].span base).stop ≤ position
          · obtain ⟨flushed, equal, newTracks, capacityKept, pending⟩ :=
              flushSegment_past small positionSmall tracks found past
            rw [if_pos past, equal, ← pendingSpans_eraseIdx pending]
            exact inductionHypothesis newTracks (capacityKept.trans capacityEq)
              (by rw [pending]; exact shorter) positionSmall
          rw [if_neg past]
          by_cases room : (state.pending[index].span base).stop ≤ capacity
          · obtain ⟨flushed, equal, newTracks, capacityKept, pending⟩ :=
              flushSegment_fits small tracks found reached (by omega) (by omega)
            rw [if_pos room, equal, ← pendingSpans_eraseIdx pending]
            exact inductionHypothesis newTracks (capacityKept.trans capacityEq)
              (by rw [pending]; exact shorter) (by omega)
          · obtain ⟨flushed, equal, unusable, readable⟩ :=
              flushSegment_overflow small tracks found reached (by omega) (by omega)
            rw [if_neg room, equal]
            refine .overflowed position Iff.rfl ⟨unusable, ?_, tracks.inside, ?_⟩
            · rw [readable, tracks.readable_eq]
            · -- The stream and the segment that touches it cover everything up to its end.
              have covers : CoversRange received 0 (state.pending[index].span base).stop := by
                intro offset after before
                rw [tracks.covered_iff offset after]
                by_cases below : offset < position
                · exact Or.inl below
                · exact Or.inr (Covered.of_mem (List.mem_of_getElem? spanFound) (by omega) before)
              obtain ⟨covered, isEnd, beyond⟩ :=
                exists_coverageEnd (Nat.zero_le _) covers tracks.covered_lt
              exact ⟨covered, isEnd, by omega⟩

end Flush

/-! ### One call -/

section Calls

variable {source : List UInt8} {base : UInt32} {position capacity : Nat}
variable {received : List Span} {state : TcpReassemblyDirection} {flags : UInt8} {span : Span}
variable {piece : SegmentSlice}

/-- In-order data fills the buffer, or joins the stream whole and sets off a flush. -/
theorem appendInOrder_head (small : source.length < window)
    (tracks : Tracks source base 0 received position position state)
    (capacityEq : state.stream.capacity = capacity) (begins : span.start ≤ position)
    (ends : position < span.stop) (inside : span.stop ≤ source.length)
    (noFin : hasFlag flags tcpFlagFin = false) :
    HeadAfter source base capacity (received ++ [span])
      (span.stop ≤ capacity →
        FitsOrFull capacity state.pending.length span.stop (pendingSpans base state))
      (appendInOrder state (advance base position) flags (slice source position span.stop)).1 := by
  obtain ⟨stream, state_eq, stillValid, streamCapacity, count, readable⟩ :=
    appendStreamBestEffort_spec tracks.streamValid (slice source position span.stop)
  have readLength : state.stream.readable.length = position := by
    rw [tracks.readable_eq, length_slice tracks.inside, Nat.sub_zero]
  have bounded := tracks.streamValid.readable_le
  have tailLength : (slice source position span.stop).length = span.stop - position :=
    length_slice inside
  rw [readLength, capacityEq, tailLength] at count
  rw [readLength, capacityEq, tracks.readable_eq] at readable
  rw [readLength, capacityEq] at bounded
  unfold appendInOrder
  simp only [state_eq, count, tailLength]
  by_cases room : span.stop ≤ capacity
  · rw [if_neg (by omega), advance_add, show position + (span.stop - position) = span.stop by omega]
    rw [List.take_of_length_le (by rw [tailLength]; omega),
      slice_append_slice (Nat.zero_le _) (by omega)] at readable
    have advanced := tracks.extend begins ends inside stillValid readable (Or.inl rfl)
    have after : HeadAfter source base capacity (received ++ [span])
        (span.stop ≤ capacity →
          FitsOrFull capacity state.pending.length span.stop (pendingSpans base state)) _ :=
      (flushLoop_head small advanced (streamCapacity.trans capacityEq) le_rfl).congr
        (forall_prop_of_true room)
    simp only [noFin, Bool.false_eq_true, if_false]
    change HeadAfter _ _ _ _ _ (flushPendingSegments _).1 at after
    -- Whatever the flush answers, its state is the one the call leaves.
    revert after
    generalize flushPendingSegments _ = outcome
    rcases outcome with ⟨flushed, _ | _⟩ <;> exact id
  · rw [if_pos (by omega)]
    have filled : slice source 0 position ++ (slice source position span.stop).take
        (capacity - position) = slice source 0 capacity := by
      rw [take_slice (by omega), slice_append_slice (Nat.zero_le _) bounded]
    rw [filled] at readable
    have covers : CoversRange (received ++ [span]) 0 span.stop := by
      intro index after before
      rw [covered_append, tracks.covered_iff index after, covered_cons]
      by_cases below : index < position
      · exact Or.inl (Or.inl below)
      · exact Or.inr (Or.inl ⟨by omega, before⟩)
    have limited : ∀ index, Covered (received ++ [span]) index → index < source.length := by
      intro index covered
      rcases (covered_append _ _ _).mp covered with old | new
      · exact tracks.covered_lt index old
      · obtain ⟨other, member, _, before⟩ := new
        obtain rfl := List.mem_singleton.mp member
        omega
    obtain ⟨covered, isEnd, beyond⟩ := exists_coverageEnd (Nat.zero_le _) covers limited
    exact .overflowed capacity (iff_of_true (fun fits => absurd fits room) rfl)
      ⟨rfl, readable, by omega, covered, isEnd, by omega⟩

/-- One slice, once flags and baseline are settled. -/
theorem absorbSegment_head (small : source.length < window)
    (tracks : Tracks source base 0 received position position state)
    (settled : Settled base position state) (capacityEq : state.stream.capacity = capacity)
    (inside : span.stop ≤ source.length) (noFin : hasFlag flags tcpFlagFin = false)
    (accepts : 0 < span.length → position < span.start →
      (storeOutOfOrderSegment state (advance base span.start)
        (slice source span.start span.stop)).isSome = true) :
    HeadAfter source base capacity (received ++ [span])
      (span.start ≤ position → position < span.stop → span.stop ≤ capacity →
        FitsOrFull capacity state.pending.length span.stop (pendingSpans base state))
      (absorbSegment state (advance base span.start) flags
        (slice source span.start span.stop)).1 := by
  have spanStop : span.stop = span.start + span.length := rfl
  have positionSmall : position < window := by
    have := tracks.inside
    omega
  by_cases empty : span.length = 0
  · have payloadLength : (slice source span.start span.stop).length = 0 := by
      rw [length_slice inside]
      omega
    unfold absorbSegment
    rw [if_pos payloadLength, if_neg (by simp [noFin])]
    refine .delivers ?_ ⟨⟨position, tracks.receive span (Or.inr empty), settled⟩, capacityEq⟩
    intro begins ends
    omega
  rw [absorbSegment_place small positionSmall tracks inside (by omega)]
  by_cases past : span.stop ≤ position
  · rw [if_pos past]
    refine .delivers ?_ ⟨⟨position, (tracks.receive span (Or.inl past)).congr rfl rfl rfl rfl rfl,
      settled⟩, capacityEq⟩
    intro begins ends
    omega
  rw [if_neg past]
  by_cases future : position < span.start
  · rw [if_pos future]
    have counted : Tracks source base 0 received position position
        { state with
          outOfOrderSegments := state.outOfOrderSegments + 1, gaps := state.gaps + 1 } :=
      tracks.congr rfl rfl rfl rfl rfl
    obtain ⟨stored, storedEq⟩ : ∃ stored, storeOutOfOrderSegment
        { state with
          outOfOrderSegments := state.outOfOrderSegments + 1, gaps := state.gaps + 1 }
        (advance base span.start) (slice source span.start span.stop) = some stored := by
      have accepted := accepts (by omega) future
      unfold storeOutOfOrderSegment at accepted ⊢
      split at accepted
      next => contradiction
      next open_ => exact ⟨_, if_neg open_⟩
    obtain ⟨newTracks, newSettled, capacityKept⟩ :=
      storeOutOfOrderSegment_spec small counted settled future (by omega) inside storedEq
    simp only [storedEq]
    refine .delivers ?_ ⟨⟨position, newTracks, newSettled⟩, capacityKept.trans capacityEq⟩
    intro begins
    omega
  rw [if_neg future]
  have begins : span.start ≤ position := by omega
  have ends : position < span.stop := by omega
  have same : (span.start ≤ position → position < span.stop → span.stop ≤ capacity →
        FitsOrFull capacity state.pending.length span.stop (pendingSpans base state)) ↔
      (span.stop ≤ capacity →
        FitsOrFull capacity state.pending.length span.stop (pendingSpans base state)) :=
    ⟨fun fits => fits begins ends, fun fits _ _ => fits⟩
  split
  · have counted : Tracks source base 0 received position position
        { state with overlappingSegments := state.overlappingSegments + 1 } :=
      tracks.congr rfl rfl rfl rfl rfl
    exact (appendInOrder_head small counted capacityEq begins ends inside noFin).congr same
  · exact (appendInOrder_head small tracks capacityEq begins ends inside noFin).congr same

@[simp] theorem settledState_stream (state : TcpReassemblyDirection) (piece : SegmentSlice) :
    (settledState source base state piece).stream = state.stream := by
  unfold settledState learnBaseline
  dsimp only
  split <;> rfl

@[simp] theorem settledState_pending (state : TcpReassemblyDirection) (piece : SegmentSlice) :
    (settledState source base state piece).pending = state.pending := by
  unfold settledState learnBaseline
  dsimp only
  split <;> rfl

/-- One call of a direction that has not given up. -/
theorem sliceReassembly_head (small : source.length < window) (usable : state.unusable = false)
    (tracks : Tracks source base 0 received position position
      (settledState source base state piece))
    (settled : Settled base position (settledState source base state piece))
    (capacityEq : state.stream.capacity = capacity) (admissible : piece.Admissible source)
    (noFin : hasFlag piece.flags tcpFlagFin = false)
    (accepts : PendingAccepts source base state piece) :
    HeadAfter source base capacity (received ++ [piece.span]) (FlushFits base state piece)
      ((sliceReassembly source base).next state piece) := by
  have inside := admissible.inside
  have sequenceEq : payloadSequence (piece.segment source base).sequence piece.flags =
      advance base piece.span.start := admissible.payloadSequence_eq
  have readLength : state.stream.readable.length = position := by
    have readable := tracks.readable_eq
    rw [settledState_stream] at readable
    rw [readable, length_slice tracks.inside, Nat.sub_zero]
  have positionSmall : position < window := by
    have := tracks.inside
    omega
  change HeadAfter _ _ _ _ _ (tcpReassemblyProcessSegment state _ piece.flags _).1
  unfold tcpReassemblyProcessSegment
  rw [if_neg (by simp [usable]), sequenceEq]
  refine (absorbSegment_head small tracks settled (by rw [settledState_stream]; exact capacityEq)
    inside noFin ?_).congr ?_
  · intro positive future
    have nonempty : (piece.segment source base).payload ≠ [] := by
      apply List.ne_nil_of_length_pos
      change 0 < (slice source piece.span.start piece.span.stop).length
      rw [length_slice inside, Span.stop]
      omega
    have ahead : before (settledState source base state piece).nextSequence
        (payloadSequence (piece.segment source base).sequence piece.flags) = true := by
      rw [sequenceEq, tracks.next_eq,
        before_advance positionSmall (by unfold Span.stop at inside; omega)]
      exact decide_eq_true future
    have accepted := accepts usable nonempty ahead
    rw [show payloadSequence (piece.segment source base).sequence
      (piece.segment source base).flags = advance base piece.span.start from sequenceEq]
      at accepted
    exact accepted
  · simp only [FlushFits, usable, readLength, capacityEq, pendingSpans, settledState_pending,
      true_imp_iff]

end Calls

/-! ### Whole runs -/

section Runs

variable {source : List UInt8} {base : UInt32} {capacity : Nat} {received : List Span}
variable {state : TcpReassemblyDirection} {piece : SegmentSlice}

theorem sliceReassembly_next_of_unusable (unusable : state.unusable = true) :
    (sliceReassembly source base).next state piece = state := by
  change (tcpReassemblyProcessSegment state _ piece.flags _).1 = state
  rw [tcpReassemblyProcessSegment, if_pos unusable]

/-- A direction that delivers, or gave up with a full buffer, is left by one more call as the
call's condition says. -/
theorem HeadAfter.next (small : source.length < window)
    (before : HeadAfter source base capacity received True state)
    (admissible : piece.Admissible source) (noFin : hasFlag piece.flags tcpFlagFin = false)
    (accepts : PendingAccepts source base state piece) :
    HeadAfter source base capacity
      (received ++ if state.unusable then [] else [piece.span]) (FlushFits base state piece)
      ((sliceReassembly source base).next state piece) := by
  cases before with
  | delivers met delivery =>
      obtain ⟨position, tracks, settled⟩ := delivery.tracked
      have flagged := tracks.trackFlags piece.flags
      have ready : settledState source base state piece =
          tcpReassemblyTrackFlags state piece.flags :=
        learnBaseline_of_known flagged.known _ _
      rw [if_neg (by simp [tracks.usable])]
      exact sliceReassembly_head small tracks.usable (by rw [ready]; exact flagged)
        (by rw [ready]; exact settled) delivery.capacity_eq admissible noFin accepts
  | overflowed head met overflow =>
      rw [if_pos overflow.unusable, List.append_nil,
        sliceReassembly_next_of_unusable overflow.unusable]
      refine .overflowed head ⟨fun _ => met.mp trivial, ?_⟩ overflow
      intro _ usable
      rw [overflow.unusable] at usable
      contradiction

/-- Along a run the head property holds wherever the run is cut exactly when every call meets its
condition. -/
theorem HeadAfter.run (small : source.length < window)
    (before : HeadAfter source base capacity received True state) {pieces : List SegmentSlice}
    (admissible : ∀ piece ∈ pieces, piece.Admissible source)
    (noFin : ∀ piece ∈ pieces, hasFlag piece.flags tcpFlagFin = false)
    (accepts : (sliceReassembly source base).AllSteps (PendingAccepts source base) state pieces) :
    (∀ past rest, pieces = past ++ rest →
        KeepsHead source capacity (received ++ countedSpans source base state past)
          ((sliceReassembly source base).run state past)) ↔
      (sliceReassembly source base).AllSteps (FlushFits base) state pieces := by
  induction pieces generalizing received state with
  | nil =>
      refine iff_of_true ?_ trivial
      intro past rest split
      obtain ⟨rfl, rfl⟩ := List.append_eq_nil_iff.mp split.symm
      simpa [countedSpans] using before.keepsHead_iff.mpr trivial
  | cons piece pieces inductionHypothesis =>
      have after := before.next small (admissible piece (by simp)) (noFin piece (by simp)) accepts.1
      have rest := fun met : FlushFits base state piece =>
        inductionHypothesis (after.of_met met)
          (fun other member => admissible other (by simp [member]))
          (fun other member => noFin other (by simp [member])) accepts.2
      constructor
      · intro keeps
        have met : FlushFits base state piece := by
          apply after.keepsHead_iff.mp
          have first := keeps [piece] pieces rfl
          simpa [countedSpans] using first
        refine ⟨met, (rest met).mp ?_⟩
        intro past tail split
        have longer := keeps (piece :: past) tail (by rw [split, List.cons_append])
        simpa [countedSpans, List.append_assoc] using longer
      · rintro ⟨met, steps⟩ past tail split
        cases past with
        | nil => simpa [countedSpans] using before.keepsHead_iff.mpr trivial
        | cons other past =>
            obtain ⟨rfl, tailEq⟩ := List.cons.inj split
            have shorter := (rest met).mpr steps past tail tailEq
            simpa [countedSpans, List.append_assoc] using shorter

/-- The first slice starts the stream at its first byte. -/
theorem Fresh.head (small : source.length < window) (fresh : Fresh capacity state)
    (starts : piece.span.start = 0) (admissible : piece.Admissible source)
    (noFin : hasFlag piece.flags tcpFlagFin = false)
    (accepts : PendingAccepts source base state piece) :
    HeadAfter source base capacity [piece.span] (FlushFits base state piece)
      ((sliceReassembly source base).next state piece) := by
  have tracks := fresh.learnBaseline_tracks base admissible
  rw [starts] at tracks
  refine sliceReassembly_head small fresh.usable tracks ?_ fresh.capacity_eq admissible noFin
    accepts
  intro segment member
  rw [settledState_pending, fresh.nothingPending] at member
  contradiction

theorem Fresh.keepsHead (fresh : Fresh capacity state) : KeepsHead source capacity [] state where
  head := by
    refine ⟨0, coverageEnd_of_gap le_rfl ?_ (not_covered_nil 0), ?_⟩
    · intro index after before
      omega
    · rw [fresh.unread, Nat.zero_min, List.take_zero]
  full := by
    intro unusable
    rw [fresh.usable] at unusable
    contradiction

/-- Whatever the order of arrival, the readable stream is after every call the head of the
contiguous coverage that fits the buffer, exactly when no flush meets a waiting segment that runs
past the capacity before the buffer is full. -/
theorem tcpReassembly_keeps_head_iff {initial : TcpReassemblyDirection}
    (initialized : tcpReassemblyDirectionInit capacity = some initial)
    (small : source.length < window) (first : SegmentSlice) (later : List SegmentSlice)
    (starts : first.span.start = 0)
    (admissible : ∀ piece ∈ first :: later, piece.Admissible source)
    (noFin : ∀ piece ∈ first :: later, hasFlag piece.flags tcpFlagFin = false)
    (accepts : (sliceReassembly source base).AllSteps (PendingAccepts source base) initial
      (first :: later)) :
    (∀ past rest, first :: later = past ++ rest →
        KeepsHead source capacity (countedSpans source base initial past)
          ((sliceReassembly source base).run initial past)) ↔
      (sliceReassembly source base).AllSteps (FlushFits base) initial (first :: later) := by
  have fresh := tcpReassemblyDirectionInit_fresh initialized
  have after := fresh.head small starts (admissible first (by simp)) (noFin first (by simp))
    accepts.1
  have met : FlushFits base initial first := by
    intro _ _ _ _
    rw [fresh.nothingPending]
    trivial
  have later_iff := (after.of_met met).run small
    (fun piece member => admissible piece (by simp [member]))
    (fun piece member => noFin piece (by simp [member])) accepts.2
  rw [Machine.allSteps_cons, ← later_iff]
  constructor
  · intro keeps
    refine ⟨met, ?_⟩
    intro past rest split
    have longer := keeps (first :: past) rest (by rw [split, List.cons_append])
    simpa [countedSpans, fresh.usable] using longer
  · rintro ⟨_, keeps⟩ past rest split
    cases past with
    | nil => exact fresh.keepsHead
    | cons piece past =>
        obtain ⟨rfl, restEq⟩ := List.cons.inj split
        have shorter := keeps past rest restEq
        simpa [countedSpans, fresh.usable] using shorter

/-- Six bytes and room for four: the two that waited are met with the buffer full. -/
theorem tcpReassembly_keeps_head_full :
    KeepsHead [1, 2, 3, 4, 5, 6] 4
      (countedSpans [1, 2, 3, 4, 5, 6] 0xFFFFFFFE
        { stream := { data := some [], capacity := 4 }, pendingByteCap := 4 }
        [⟨⟨0, 2⟩, 0⟩, ⟨⟨4, 2⟩, 0⟩, ⟨⟨2, 2⟩, 0⟩])
      ((sliceReassembly [1, 2, 3, 4, 5, 6] 0xFFFFFFFE).run
        { stream := { data := some [], capacity := 4 }, pendingByteCap := 4 }
        [⟨⟨0, 2⟩, 0⟩, ⟨⟨4, 2⟩, 0⟩, ⟨⟨2, 2⟩, 0⟩]) :=
  (@tcpReassembly_keeps_head_iff [1, 2, 3, 4, 5, 6] 0xFFFFFFFE 4 _ rfl (by decide)
    ⟨⟨0, 2⟩, 0⟩ [⟨⟨4, 2⟩, 0⟩, ⟨⟨2, 2⟩, 0⟩] rfl
    (by
      intro piece member
      simp only [List.mem_cons, List.not_mem_nil, or_false] at member
      rcases member with rfl | rfl | rfl <;> exact ⟨by decide, by decide, by decide⟩)
    (by decide) (by decide)).mpr (by
      refine ⟨?_, ?_, ?_, trivial⟩
      · intro _ _ _ _
        trivial
      · intro _ begins
        exact absurd begins (by decide)
      · intro _ _ _ _
        rfl) _ [] (List.append_nil _).symm

/-- Three bytes that waited behind a gap of one and do not fit the two left: none of them is kept,
although the buffer has room for one. -/
theorem tcpReassembly_loses_head :
    tcpReassemblyDirectionInit 4 =
        some { stream := { data := some [], capacity := 4 }, pendingByteCap := 4 } ∧
      (sliceReassembly [1, 2, 3, 4, 5, 6] 0).AllSteps (PendingAccepts [1, 2, 3, 4, 5, 6] 0)
        { stream := { data := some [], capacity := 4 }, pendingByteCap := 4 }
        [⟨⟨0, 2⟩, 0⟩, ⟨⟨3, 3⟩, 0⟩, ⟨⟨2, 1⟩, 0⟩] ∧
      ((sliceReassembly [1, 2, 3, 4, 5, 6] 0).run
        { stream := { data := some [], capacity := 4 }, pendingByteCap := 4 }
        [⟨⟨0, 2⟩, 0⟩, ⟨⟨3, 3⟩, 0⟩, ⟨⟨2, 1⟩, 0⟩]).stream.readable = [1, 2, 3] ∧
      ¬ ∃ covered, CoverageEnd
          (countedSpans [1, 2, 3, 4, 5, 6] 0
            { stream := { data := some [], capacity := 4 }, pendingByteCap := 4 }
            [⟨⟨0, 2⟩, 0⟩, ⟨⟨3, 3⟩, 0⟩, ⟨⟨2, 1⟩, 0⟩]) 0 covered ∧
        ((sliceReassembly [1, 2, 3, 4, 5, 6] 0).run
          { stream := { data := some [], capacity := 4 }, pendingByteCap := 4 }
          [⟨⟨0, 2⟩, 0⟩, ⟨⟨3, 3⟩, 0⟩, ⟨⟨2, 1⟩, 0⟩]).stream.readable =
          [1, 2, 3, 4, 5, 6].take (min covered 4) := by
  refine ⟨rfl, by decide, by decide, ?_⟩
  rintro ⟨covered, isEnd, readable⟩
  have spans : countedSpans [1, 2, 3, 4, 5, 6] 0
      { stream := { data := some [], capacity := 4 }, pendingByteCap := 4 }
      [⟨⟨0, 2⟩, 0⟩, ⟨⟨3, 3⟩, 0⟩, ⟨⟨2, 1⟩, 0⟩] = [⟨0, 2⟩, ⟨3, 3⟩, ⟨2, 1⟩] := by
    decide
  rw [spans] at isEnd
  have whole : covered = 6 := by
    refine isEnd.eq_of_covers (by omega) ?_ (by decide)
    intro position after before
    simp only [covered_cons, not_covered_nil, Span.stop]
    omega
  subst whole
  revert readable
  decide

end Runs

end MiniSniffer
