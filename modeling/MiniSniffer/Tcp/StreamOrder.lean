import MiniSniffer.Foundation.Coverage
import MiniSniffer.Foundation.Machine
import MiniSniffer.Tcp.Reassembly

/-!
Contract: TCP reassembly rebuilds the stream from any arrival order.

A byte string `source` is placed at the wrapping sequence number `base`, and a
direction is fed slices of it. Owns the invariant `Tracks`, which ties the
direction to the spans received so far: the readable stream is one slice of
`source`, `next_sequence` is where that slice stops, and a position is received
exactly when it lies below the stop or inside a pending segment. Owns one
specification for each operation in terms of it and the run theorem: the
readable stream is the contiguous coverage of the received spans.

Does not own lifetime counters, FIN/RST flags, or streams longer than the
buffer.
-/

namespace MiniSniffer

open Foundation Foundation.SerialNumber

/-! ### Stored bytes -/

theorem appendStreamData_spec {state : TcpReassemblyDirection} (valid : state.stream.Valid)
    (bytes : List UInt8) :
    ∃ stream : StreamBuffer, (appendStreamData state bytes).1 = { state with stream := stream } ∧
      stream.Valid ∧ stream.capacity = state.stream.capacity ∧
      (appendStreamData state bytes).2 =
        decide (state.stream.readable.length + bytes.length ≤ state.stream.capacity) ∧
      stream.readable =
        if state.stream.readable.length + bytes.length ≤ state.stream.capacity then
          state.stream.readable ++ bytes
        else state.stream.readable := by
  obtain ⟨stillValid, capacity, success, readable⟩ :=
    StreamBuffer.streamBufferAppend_spec valid bytes
  exact ⟨_, rfl, stillValid, capacity, success, readable⟩

theorem StreamBuffer.Valid.readable_le {buffer : StreamBuffer} (valid : buffer.Valid) :
    buffer.readable.length ≤ buffer.capacity := by
  rw [buffer.length_readable]
  exact Nat.le_trans (Nat.sub_le _ _) valid.length_le

/-- Best-effort append stores exactly the head that fits. -/
theorem appendStreamBestEffort_spec {state : TcpReassemblyDirection} (valid : state.stream.Valid)
    (bytes : List UInt8) :
    ∃ stream : StreamBuffer,
      (appendStreamBestEffort state bytes).1 = { state with stream := stream } ∧ stream.Valid ∧
      stream.capacity = state.stream.capacity ∧
      (appendStreamBestEffort state bytes).2 =
        min bytes.length (state.stream.capacity - state.stream.readable.length) ∧
      stream.readable = state.stream.readable ++
        bytes.take (state.stream.capacity - state.stream.readable.length) := by
  have windowLe := valid.readable_le
  unfold appendStreamBestEffort
  rw [state.stream.streamBufferLength_eq]
  set room := state.stream.capacity - state.stream.readable.length with roomDef
  have taken : (if bytes.length < room then bytes.length else room) = min bytes.length room := by
    split <;> omega
  simp only [taken]
  have head : bytes.take (min bytes.length room) = bytes.take room := by
    rw [Nat.min_comm, List.take_eq_take_min (l := bytes) (i := room)]
  by_cases none : min bytes.length room = 0
  · rw [if_pos none]
    have nothing : bytes.take room = [] := by
      rw [← head, none, List.take_zero]
    exact ⟨state.stream, rfl, valid, rfl, none.symm, by rw [nothing, List.append_nil]⟩
  · rw [if_neg none]
    obtain ⟨stream, state_eq, stillValid, capacity, success, readable⟩ :=
      appendStreamData_spec valid (bytes.take (min bytes.length room))
    have fits : state.stream.readable.length + (bytes.take (min bytes.length room)).length ≤
        state.stream.capacity := by
      rw [List.length_take]
      omega
    rw [decide_eq_true fits] at success
    rw [if_pos fits, head] at readable
    exact ⟨stream, by simp [success, state_eq], stillValid, capacity, by simp [success], readable⟩

/-! ### The invariant -/

/-- The positions of the byte string a pending segment occupies. -/
def TcpOutOfOrderSegment.span (base : UInt32) (segment : TcpOutOfOrderSegment) : Span where
  start := (segment.sequence - base).toNat
  length := segment.data.length

/-- The segment holds the bytes of `source` at its own positions. -/
structure TcpOutOfOrderSegment.Holds (source : List UInt8) (base : UInt32)
    (segment : TcpOutOfOrderSegment) : Prop where
  nonempty : 0 < (segment.span base).length
  inside : (segment.span base).stop ≤ source.length
  data_eq : segment.data = slice source (segment.span base).start (segment.span base).stop

def pendingSpans (base : UInt32) (state : TcpReassemblyDirection) : List Span :=
  state.pending.map (TcpOutOfOrderSegment.span base)

/-- The direction has rebuilt `source[start, position)` out of the spans received so far.
`reach` is the offset of `next_sequence`: the stop of the stream, or one past it when a FIN at the
very end has been consumed. -/
structure Tracks (source : List UInt8) (base : UInt32) (start : Nat) (received : List Span)
    (position reach : Nat) (state : TcpReassemblyDirection) : Prop where
  usable : state.unusable = false
  known : state.initialSequenceKnown = true
  streamValid : state.stream.Valid
  readable_eq : state.stream.readable = slice source start position
  ordered : start ≤ position
  inside : position ≤ source.length
  next_eq : state.nextSequence = advance base reach
  reach_eq : reach = position ∨ (position = source.length ∧ reach = position + 1)
  held : ∀ segment ∈ state.pending, segment.Holds source base
  covered_iff : ∀ index, start ≤ index →
    (Covered received index ↔ index < position ∨ Covered (pendingSpans base state) index)

/-- No pending segment starts at or before the stop of the stream: nothing waits behind a gap that
has been filled. -/
def Settled (base : UInt32) (position : Nat) (state : TcpReassemblyDirection) : Prop :=
  ∀ segment ∈ state.pending, position < (segment.span base).start

section Invariant

variable {source : List UInt8} {base : UInt32} {start position reach : Nat}
variable {received : List Span} {state other : TcpReassemblyDirection}
variable {segment : TcpOutOfOrderSegment}

/-- The invariant reads only the stream, the sequence state and the pending store. -/
theorem Tracks.congr (tracks : Tracks source base start received position reach state)
    (unusable : other.unusable = state.unusable)
    (known : other.initialSequenceKnown = state.initialSequenceKnown)
    (stream : other.stream = state.stream) (next : other.nextSequence = state.nextSequence)
    (pending : other.pending = state.pending) :
    Tracks source base start received position reach other where
  usable := by rw [unusable, tracks.usable]
  known := by rw [known, tracks.known]
  streamValid := by rw [stream]; exact tracks.streamValid
  readable_eq := by rw [stream, tracks.readable_eq]
  ordered := tracks.ordered
  inside := tracks.inside
  next_eq := by rw [next, tracks.next_eq]
  reach_eq := tracks.reach_eq
  held := by rw [pending]; exact tracks.held
  covered_iff := by
    simp only [pendingSpans, pending]
    exact tracks.covered_iff

@[simp] theorem countOverlap_pending (state : TcpReassemblyDirection) (trim : Nat) :
    (countOverlap state trim).pending = state.pending := by
  unfold countOverlap
  split <;> rfl

@[simp] theorem countOverlap_stream (state : TcpReassemblyDirection) (trim : Nat) :
    (countOverlap state trim).stream = state.stream := by
  unfold countOverlap
  split <;> rfl

theorem Tracks.countOverlap (tracks : Tracks source base start received position reach state)
    (trim : Nat) :
    Tracks source base start received position reach (MiniSniffer.countOverlap state trim) := by
  unfold MiniSniffer.countOverlap
  split
  · exact tracks.congr rfl rfl rfl rfl rfl
  · exact tracks

/-- Receiving a span that lies below the stop, or nothing at all, changes no coverage. -/
theorem Tracks.receive (tracks : Tracks source base start received position reach state)
    (span : Span) (past : span.stop ≤ position ∨ span.length = 0) :
    Tracks source base start (received ++ [span]) position reach state where
  __ := tracks
  covered_iff := by
    intro index after
    have old := tracks.covered_iff index after
    simp only [covered_append, covered_cons, not_covered_nil, or_false, old, Span.stop] at past ⊢
    constructor
    · rintro (known | inside)
      · exact known
      · exact Or.inl (by omega)
    · exact Or.inl

theorem Tracks.reach_of_lt (tracks : Tracks source base start received position reach state)
    (offset : Nat) (beyond : reach ≤ offset) (inside : offset < source.length) :
    reach = position := by
  rcases tracks.reach_eq with equal | ⟨atEnd, past⟩
  · exact equal
  · omega

/-- The contiguous stream stops at the first position not received. -/
theorem Tracks.coverageEnd (tracks : Tracks source base start received position reach state)
    (settled : Settled base position state) : CoverageEnd received start position := by
  refine coverageEnd_of_gap tracks.ordered ?_ ?_
  · intro index after before
    exact (tracks.covered_iff index after).mpr (Or.inl before)
  · rw [tracks.covered_iff position tracks.ordered]
    rintro (absurd | ⟨span, member, after, _⟩)
    · omega
    · obtain ⟨segment, pending, rfl⟩ := List.mem_map.mp member
      have := settled segment pending
      omega

theorem TcpOutOfOrderSegment.sequence_eq (base : UInt32) (segment : TcpOutOfOrderSegment) :
    segment.sequence = advance base (segment.span base).start := by
  rw [advance, span, UInt32.ofNat_toNat, UInt32.add_comm, UInt32.sub_add_cancel]

theorem TcpOutOfOrderSegment.segmentEnd_eq (base : UInt32) (segment : TcpOutOfOrderSegment) :
    segment.segmentEnd = advance base (segment.span base).stop := by
  rw [segmentEnd, segment.sequence_eq base, advance_add]
  rfl

/-- The segment that carries a span of the byte string. -/
theorem TcpOutOfOrderSegment.span_mk (base : UInt32) {span : Span} (small : span.start < 2 ^ 32)
    (inside : span.stop ≤ source.length) :
    ({ sequence := advance base span.start,
       data := slice source span.start span.stop } : TcpOutOfOrderSegment).span base = span := by
  have start : (advance base span.start - base).toNat = span.start := by
    have distance : (advance base span.start - advance base 0).toNat = span.start - 0 :=
      toNat_advance_sub (Nat.zero_le span.start) small
    rwa [advance_zero, Nat.sub_zero] at distance
  have length : (slice source span.start span.stop).length = span.length := by
    rw [length_slice inside, Span.stop]
    omega
  cases span
  simp_all [TcpOutOfOrderSegment.span]

end Invariant

/-! ### Flushing -/

section Flush

variable {source : List UInt8} {base : UInt32} {start position reach index : Nat}
variable {received : List Span} {state : TcpReassemblyDirection}
variable {segment : TcpOutOfOrderSegment}

theorem removePendingAt_eq (state : TcpReassemblyDirection)
    (found : state.pending[index]? = some segment) :
    removePendingAt state index =
      { state with
        pendingBytes := state.pendingBytes - segment.data.length
        pending := state.pending.eraseIdx index } := by
  simp [removePendingAt, found]

/-- Dropping a segment that lies wholly below the stop of the stream loses no coverage. -/
theorem Tracks.removePast (tracks : Tracks source base start received position reach state)
    (found : state.pending[index]? = some segment)
    (past : (segment.span base).stop ≤ position) :
    Tracks source base start received position reach (removePendingAt state index) := by
  rw [removePendingAt_eq state found]
  refine { tracks with held := ?_, covered_iff := ?_ }
  · intro other member
    exact tracks.held other (List.mem_of_mem_eraseIdx member)
  · intro offset after
    have spanFound : (pendingSpans base state)[index]? = some (segment.span base) := by
      simp [pendingSpans, found]
    rw [tracks.covered_iff offset after, covered_eraseIdx spanFound]
    simp only [pendingSpans, List.eraseIdx_map]
    constructor
    · rintro (below | ⟨_, within⟩ | rest)
      · exact Or.inl below
      · exact Or.inl (by omega)
      · exact Or.inr rest
    · rintro (below | rest)
      · exact Or.inl below
      · exact Or.inr (Or.inr rest)

/-- The scan stops at the segments that start at or before `next_sequence`. -/
theorem Tracks.flushReaches_eq (small : source.length < window) (reachSmall : reach < window)
    (tracks : Tracks source base start received position reach state)
    (member : segment ∈ state.pending) :
    flushReaches state.nextSequence segment = decide ((segment.span base).start ≤ reach) := by
  have inside := (tracks.held segment member).inside
  have spanStop : (segment.span base).stop =
      (segment.span base).start + (segment.span base).length := rfl
  rw [flushReaches, segment.segmentEnd_eq base, segment.sequence_eq base, tracks.next_eq,
    beforeOrEqual_advance (by omega) reachSmall, beforeOrEqual_advance (by omega) reachSmall,
    ← Bool.decide_or]
  apply decide_eq_decide.mpr
  omega

/-- One pass of the flush loop over a segment that ends below the stop drops it. -/
theorem flushSegment_past (small : source.length < window) (reachSmall : reach < window)
    (tracks : Tracks source base start received position reach state)
    (found : state.pending[index]? = some segment)
    (past : (segment.span base).stop ≤ position) :
    ∃ flushed, flushSegment state index segment = (flushed, true) ∧
      Tracks source base start received position reach flushed ∧
      flushed.stream.capacity = state.stream.capacity ∧
      flushed.pending = state.pending.eraseIdx index := by
  have inside := (tracks.held segment (List.mem_of_getElem? found)).inside
  have behind : (segment.span base).stop ≤ reach := by
    rcases tracks.reach_eq with equal | ⟨_, beyond⟩ <;> omega
  have counted : Tracks source base start received position reach
      { state with retransmissions := state.retransmissions + 1 } :=
    tracks.congr rfl rfl rfl rfl rfl
  have removed := removePendingAt_eq { state with
    retransmissions := state.retransmissions + 1 } found
  have endBefore : beforeOrEqual segment.segmentEnd state.nextSequence = true := by
    rw [segment.segmentEnd_eq base, tracks.next_eq, beforeOrEqual_advance (by omega) reachSmall]
    exact decide_eq_true behind
  rw [flushSegment, if_pos endBefore]
  exact ⟨_, rfl, counted.removePast found past, by rw [removed], by rw [removed]⟩

/-- One pass of the flush loop over a segment that the stop has reached but not passed appends what
lies beyond the stop. -/
theorem flushSegment_tail (small : source.length < window)
    (tracks : Tracks source base start received position reach state)
    (found : state.pending[index]? = some segment)
    (begins : (segment.span base).start ≤ position) (ends : position < (segment.span base).stop) :
    flushSegment state index segment =
      let appended := appendStreamData (countOverlap state (position - (segment.span base).start))
        (slice source position (segment.span base).stop)
      if appended.2 then
        (removePendingAt { appended.1 with nextSequence := segment.segmentEnd } index, true)
      else
        ({ appended.1 with unusable := true }, false) := by
  have holds := tracks.held segment (List.mem_of_getElem? found)
  have inside := holds.inside
  obtain rfl : reach = position := by
    rcases tracks.reach_eq with equal | ⟨_, beyond⟩ <;> omega
  have trim : (state.nextSequence - segment.sequence).toNat =
      reach - (segment.span base).start := by
    rw [tracks.next_eq, segment.sequence_eq base]
    exact toNat_advance_sub begins (by unfold window at small; omega)
  have tail : segment.data.drop (reach - (segment.span base).start) =
      slice source reach (segment.span base).stop := by
    rw [holds.data_eq, drop_slice begins]
  have endBefore : beforeOrEqual segment.segmentEnd state.nextSequence = false := by
    rw [segment.segmentEnd_eq base, tracks.next_eq,
      beforeOrEqual_advance (by omega) (by omega)]
    exact decide_eq_false (by omega)
  rw [flushSegment, if_neg (by simp [endBefore])]
  simp only [trim, tail]

/-- The tail fits: the stream now stops where the segment does. -/
theorem flushSegment_fits (small : source.length < window)
    (tracks : Tracks source base start received position reach state)
    (found : state.pending[index]? = some segment)
    (begins : (segment.span base).start ≤ position) (ends : position < (segment.span base).stop)
    (fits : (segment.span base).stop - start ≤ state.stream.capacity) :
    ∃ flushed, flushSegment state index segment = (flushed, true) ∧
      Tracks source base start received (segment.span base).stop (segment.span base).stop flushed ∧
      flushed.stream.capacity = state.stream.capacity ∧
      flushed.pending = state.pending.eraseIdx index := by
  have inside := (tracks.held segment (List.mem_of_getElem? found)).inside
  have ordered := tracks.ordered
  rw [flushSegment_tail small tracks found begins ends]
  have countedTracks := tracks.countOverlap (position - (segment.span base).start)
  have countedPending := countOverlap_pending state (position - (segment.span base).start)
  have countedStream := countOverlap_stream state (position - (segment.span base).start)
  set counted := countOverlap state (position - (segment.span base).start)
  obtain ⟨stream, state_eq, stillValid, capacity, success, readable⟩ :=
    appendStreamData_spec countedTracks.streamValid (slice source position (segment.span base).stop)
  have room : counted.stream.readable.length +
      (slice source position (segment.span base).stop).length ≤ counted.stream.capacity := by
    rw [countedTracks.readable_eq, length_slice tracks.inside, length_slice inside, countedStream]
    omega
  rw [decide_eq_true room] at success
  rw [if_pos room, countedTracks.readable_eq, slice_append_slice ordered (by omega)] at readable
  have extended : Tracks source base start received (segment.span base).stop
      (segment.span base).stop
      { counted with stream := stream, nextSequence := segment.segmentEnd } := by
    refine { countedTracks with
      streamValid := stillValid, readable_eq := readable, ordered := by omega,
      inside := inside, next_eq := segment.segmentEnd_eq base, reach_eq := Or.inl rfl,
      covered_iff := ?_ }
    intro offset after
    rw [countedTracks.covered_iff offset after]
    -- The appended tail was pending, so it was covered before as well.
    have inPending : (segment.span base).start ≤ offset →
        offset < (segment.span base).stop → Covered (pendingSpans base counted) offset := by
      intro first last
      refine Covered.of_mem (List.mem_map.mpr ⟨segment, ?_, rfl⟩) first last
      rw [countedPending]
      exact List.mem_of_getElem? found
    constructor
    · rintro (below | rest)
      · exact Or.inl (by omega)
      · exact Or.inr rest
    · rintro (below | rest)
      · by_cases old : offset < position
        · exact Or.inl old
        · exact Or.inr (inPending (by omega) below)
      · exact Or.inr rest
  have stillFound : counted.pending[index]? = some segment := by rwa [countedPending]
  have removed := removePendingAt_eq
    { counted with stream := stream, nextSequence := segment.segmentEnd } stillFound
  simp only [state_eq, success, if_true]
  refine ⟨_, rfl, extended.removePast stillFound le_rfl, ?_, ?_⟩
  · rw [removed, ← countedStream]
    exact capacity
  · rw [removed, ← countedPending]

/-- The tail does not fit: nothing of it is stored and the direction gives up. -/
theorem flushSegment_overflow (small : source.length < window)
    (tracks : Tracks source base start received position reach state)
    (found : state.pending[index]? = some segment)
    (begins : (segment.span base).start ≤ position) (ends : position < (segment.span base).stop)
    (overflow : state.stream.capacity < (segment.span base).stop - start) :
    ∃ flushed, flushSegment state index segment = (flushed, false) ∧ flushed.unusable = true ∧
      flushed.stream.readable = state.stream.readable := by
  have inside := (tracks.held segment (List.mem_of_getElem? found)).inside
  have ordered := tracks.ordered
  rw [flushSegment_tail small tracks found begins ends]
  have countedTracks := tracks.countOverlap (position - (segment.span base).start)
  have countedStream := countOverlap_stream state (position - (segment.span base).start)
  set counted := countOverlap state (position - (segment.span base).start)
  obtain ⟨stream, state_eq, _, _, success, readable⟩ :=
    appendStreamData_spec countedTracks.streamValid (slice source position (segment.span base).stop)
  have noRoom : ¬ counted.stream.readable.length +
      (slice source position (segment.span base).stop).length ≤ counted.stream.capacity := by
    rw [countedTracks.readable_eq, length_slice tracks.inside, length_slice inside, countedStream]
    omega
  rw [decide_eq_false noRoom] at success
  rw [if_neg noRoom, countedStream] at readable
  simp only [state_eq, success]
  exact ⟨_, rfl, rfl, readable⟩

/-- When no pending segment is reached, all of them lie beyond the stop. -/
theorem Tracks.settled_of_none (small : source.length < window) (reachSmall : reach < window)
    (tracks : Tracks source base start received position reach state)
    (none : state.pending.findIdx? (flushReaches state.nextSequence) = none) :
    Settled base position state := by
  intro segment member
  have unreached := List.findIdx?_eq_none_iff.mp none segment member
  rw [tracks.flushReaches_eq small reachSmall member] at unreached
  have beyond : ¬ (segment.span base).start ≤ reach := of_decide_eq_false unreached
  rcases tracks.reach_eq with equal | ⟨_, past⟩ <;> omega

/-- The flush loop ends with nothing left to flush, when the buffer can hold the whole stream. -/
theorem flushLoop_spec (small : source.length + 1 < window) {passes : Nat}
    (tracks : Tracks source base start received position reach state)
    (room : source.length ≤ start + state.stream.capacity)
    (enough : state.pending.length ≤ passes) :
    ∃ flushed newPosition newReach, flushLoop passes state = (flushed, true) ∧
      Tracks source base start received newPosition newReach flushed ∧
      Settled base newPosition flushed ∧ flushed.stream.capacity = state.stream.capacity := by
  induction passes generalizing state position reach with
  | zero =>
      have empty : state.pending = [] := List.length_eq_zero_iff.mp (by omega)
      refine ⟨state, position, reach, rfl, tracks, ?_, rfl⟩
      intro segment member
      simp [empty] at member
  | succ passes inductionHypothesis =>
      have reachSmall : reach < window := by
        have := tracks.inside
        rcases tracks.reach_eq with _ | ⟨_, _⟩ <;> omega
      rw [flushLoop]
      cases candidate : state.pending.findIdx? (flushReaches state.nextSequence) with
      | none =>
          exact ⟨state, position, reach, rfl, tracks,
            tracks.settled_of_none (by omega) reachSmall candidate, rfl⟩
      | some index =>
          obtain ⟨bound, reached, _⟩ := List.findIdx?_eq_some_iff_getElem.mp candidate
          have found : state.pending[index]? = some state.pending[index] :=
            List.getElem?_eq_getElem bound
          simp only [found]
          have holds := tracks.held _ (List.getElem_mem bound)
          rw [tracks.flushReaches_eq (by omega) reachSmall (List.getElem_mem bound),
            decide_eq_true_eq] at reached
          have inside := holds.inside
          obtain ⟨newPosition, newReach, flushed, equal, newTracks, capacity, pending⟩ :
              ∃ newPosition newReach flushed,
                flushSegment state index state.pending[index] = (flushed, true) ∧
                Tracks source base start received newPosition newReach flushed ∧
                flushed.stream.capacity = state.stream.capacity ∧
                flushed.pending = state.pending.eraseIdx index := by
            by_cases past : (state.pending[index].span base).stop ≤ position
            · exact ⟨_, _, flushSegment_past (by omega) reachSmall tracks found past⟩
            · have begins : (state.pending[index].span base).start ≤ position := by
                rcases tracks.reach_eq with _ | ⟨_, _⟩ <;> omega
              exact ⟨_, _, flushSegment_fits (by omega) tracks found begins (by omega) (by omega)⟩
          obtain ⟨final, finalPosition, finalReach, run, finalTracks, settled, finalCapacity⟩ :=
            inductionHypothesis newTracks (by rw [capacity]; exact room)
              (by rw [pending, List.length_eraseIdx_of_lt bound]; omega)
          rw [equal]
          exact ⟨final, finalPosition, finalReach, run, finalTracks, settled,
            finalCapacity.trans capacity⟩

theorem flushPendingSegments_spec (small : source.length + 1 < window)
    (tracks : Tracks source base start received position reach state)
    (room : source.length ≤ start + state.stream.capacity) :
    ∃ flushed newPosition newReach, flushPendingSegments state = (flushed, true) ∧
      Tracks source base start received newPosition newReach flushed ∧
      Settled base newPosition flushed ∧ flushed.stream.capacity = state.stream.capacity :=
  flushLoop_spec small tracks room le_rfl

end Flush

/-! ### Segments -/

section Segments

variable {source : List UInt8} {base : UInt32} {start position reach : Nat}
variable {received : List Span} {state : TcpReassemblyDirection} {flags : UInt8} {span : Span}

/-- The bytes up to the end of a span that touches the stop have joined the stream. -/
theorem Tracks.extend (tracks : Tracks source base start received position position state)
    (begins : span.start ≤ position) (ends : position < span.stop)
    (inside : span.stop ≤ source.length) {stream : StreamBuffer} (valid : stream.Valid)
    (readable : stream.readable = slice source start span.stop)
    (reached : reach = span.stop ∨ (span.stop = source.length ∧ reach = span.stop + 1)) :
    Tracks source base start (received ++ [span]) span.stop reach
      { state with stream := stream, nextSequence := advance base reach } := by
  have ordered := tracks.ordered
  refine { tracks with
    streamValid := valid, readable_eq := readable, ordered := by omega, inside := inside,
    next_eq := rfl, reach_eq := reached, covered_iff := ?_ }
  intro index after
  have old := tracks.covered_iff index after
  simp only [covered_append, covered_cons, not_covered_nil, or_false, old, pendingSpans]
  constructor
  · rintro ((below | waiting) | ⟨_, within⟩)
    · exact Or.inl (by omega)
    · exact Or.inr waiting
    · exact Or.inl within
  · rintro (below | waiting)
    · by_cases known : index < position
      · exact Or.inl (Or.inl known)
      · exact Or.inr ⟨by omega, below⟩
    · exact Or.inl (Or.inr waiting)

/-- In-order data: `span` starts at or before the stop of the stream and ends past it. -/
theorem appendInOrder_spec (small : source.length + 1 < window)
    (tracks : Tracks source base start received position position state)
    (room : source.length ≤ start + state.stream.capacity)
    (begins : span.start ≤ position) (ends : position < span.stop)
    (inside : span.stop ≤ source.length)
    (fin : hasFlag flags tcpFlagFin = true → span.stop = source.length) :
    ∃ after newPosition newReach,
      appendInOrder state (advance base position) flags (slice source position span.stop) =
        (after, .accepted) ∧
      Tracks source base start (received ++ [span]) newPosition newReach after ∧
      Settled base newPosition after ∧ after.stream.capacity = state.stream.capacity := by
  have ordered := tracks.ordered
  obtain ⟨stream, state_eq, stillValid, capacity, count, readable⟩ :=
    appendStreamBestEffort_spec tracks.streamValid (slice source position span.stop)
  have readLength : state.stream.readable.length = position - start := by
    rw [tracks.readable_eq, length_slice tracks.inside]
  have tailLength : (slice source position span.stop).length = span.stop - position :=
    length_slice inside
  rw [readLength, tailLength] at count
  rw [readLength, List.take_of_length_le (by rw [tailLength]; omega), tracks.readable_eq,
    slice_append_slice ordered (by omega)] at readable
  have whole : min (span.stop - position) (state.stream.capacity - (position - start)) =
      span.stop - position := by
    omega
  unfold appendInOrder
  simp only [state_eq, count, whole, tailLength, if_neg (lt_irrefl _)]
  rw [advance_add, advance_add_one]
  have stopEq : position + (span.stop - position) = span.stop := by omega
  rw [stopEq]
  -- The stream now stops at the end of the span, and a FIN there is one more sequence number.
  obtain ⟨newReach, nextEq, reachEq⟩ : ∃ newReach,
      (if hasFlag flags tcpFlagFin = true then advance base (span.stop + 1)
        else advance base span.stop) = advance base newReach ∧
      (newReach = span.stop ∨ (span.stop = source.length ∧ newReach = span.stop + 1)) := by
    split_ifs with hasFin
    · exact ⟨span.stop + 1, rfl, Or.inr ⟨fin hasFin, rfl⟩⟩
    · exact ⟨span.stop, rfl, Or.inl rfl⟩
  rw [nextEq]
  have advanced := tracks.extend begins ends inside stillValid readable reachEq
  obtain ⟨flushed, newPosition, finalReach, flushEq, newTracks, settled, flushCapacity⟩ :=
    flushPendingSegments_spec small advanced (by rw [capacity]; exact room)
  rw [flushEq]
  exact ⟨flushed, newPosition, finalReach, rfl, newTracks, settled, flushCapacity.trans capacity⟩

/-- A future segment either joins the pending store or is refused by its caps. -/
theorem storeOutOfOrderSegment_spec (small : source.length < window)
    (tracks : Tracks source base start received position reach state)
    (settled : Settled base position state) (beyond : position < span.start)
    (positive : 0 < span.length) (inside : span.stop ≤ source.length)
    {stored : TcpReassemblyDirection}
    (accepted : storeOutOfOrderSegment state (advance base span.start)
      (slice source span.start span.stop) = some stored) :
    Tracks source base start (received ++ [span]) position reach stored ∧
      Settled base position stored ∧ stored.stream.capacity = state.stream.capacity := by
  obtain ⟨-, -, -, -, rfl⟩ := storeOutOfOrderSegment_some accepted
  have spanStop : span.stop = span.start + span.length := rfl
  have spanEq := TcpOutOfOrderSegment.span_mk base
    (show span.start < 2 ^ 32 by unfold window at small; omega) inside
  refine ⟨{ tracks with held := ?_, covered_iff := ?_ }, ?_, rfl⟩
  · intro segment member
    rcases List.mem_append.mp member with old | new
    · exact tracks.held segment old
    · obtain rfl := List.mem_singleton.mp new
      exact ⟨by rw [spanEq]; exact positive, by rw [spanEq]; exact inside, by rw [spanEq]⟩
  · intro index after
    have old := tracks.covered_iff index after
    simp only [covered_append, covered_cons, not_covered_nil, or_false, old, pendingSpans,
      List.map_append, List.map_cons, List.map_nil, spanEq, or_assoc]
  · intro segment member
    rcases List.mem_append.mp member with old | new
    · exact settled segment old
    · obtain rfl := List.mem_singleton.mp new
      rw [spanEq]
      exact beyond

/-- What the code does with a data-bearing slice, in terms of positions: it is past, it waits, or
what lies beyond the stop of the stream is next in order. -/
theorem absorbSegment_place (small : source.length < window) (reachSmall : reach < window)
    (tracks : Tracks source base start received position reach state)
    (inside : span.stop ≤ source.length) (positive : 0 < span.length) :
    absorbSegment state (advance base span.start) flags (slice source span.start span.stop) =
      if span.stop ≤ position then
        ({ state with retransmissions := state.retransmissions + 1 }, .ignored)
      else if position < span.start then
        let counted :=
          { state with
            outOfOrderSegments := state.outOfOrderSegments + 1
            gaps := state.gaps + 1 }
        match storeOutOfOrderSegment counted (advance base span.start)
          (slice source span.start span.stop) with
        | none => (counted, .dropped)
        | some stored => (stored, .buffered)
      else
        appendInOrder
          (if span.start < position then
            { state with overlappingSegments := state.overlappingSegments + 1 }
          else state)
          (advance base position) flags (slice source position span.stop) := by
  have spanStop : span.stop = span.start + span.length := rfl
  have payloadLength : (slice source span.start span.stop).length = span.length := by
    rw [length_slice inside]
    omega
  have endBefore : beforeOrEqual (advance (advance base span.start) span.length)
      state.nextSequence = decide (span.stop ≤ reach) := by
    rw [advance_add, tracks.next_eq]
    exact beforeOrEqual_advance (by omega) reachSmall
  have nextBefore : before state.nextSequence (advance base span.start) =
      decide (reach < span.start) := by
    rw [tracks.next_eq]
    exact before_advance reachSmall (by omega)
  have startBefore : before (advance base span.start) state.nextSequence =
      decide (span.start < reach) := by
    rw [tracks.next_eq]
    exact before_advance (by omega) reachSmall
  unfold absorbSegment placeSegment
  rw [payloadLength, if_neg (by omega), if_neg (by unfold window at small; omega), endBefore,
    nextBefore, startBefore]
  by_cases past : span.stop ≤ position
  · have behind : span.stop ≤ reach := by
      rcases tracks.reach_eq with _ | ⟨_, _⟩ <;> omega
    rw [if_pos (decide_eq_true behind), if_pos past]
  obtain rfl : reach = position := by
    rcases tracks.reach_eq with equal | ⟨_, _⟩ <;> omega
  rw [if_neg (by simpa using past), if_neg past]
  by_cases future : reach < span.start
  · exact (if_pos (decide_eq_true future)).trans (if_pos future).symm
  rw [if_neg (by simpa using future), if_neg future]
  by_cases overlap : span.start < reach
  · have trim : (state.nextSequence - advance base span.start).toNat = reach - span.start := by
      rw [tracks.next_eq]
      exact toNat_advance_sub (by omega) (by unfold window at reachSmall; omega)
    simp only [decide_eq_true overlap, if_true, trim, if_pos overlap]
    rw [if_neg (by omega), drop_slice (by omega), tracks.next_eq]
  · obtain rfl : reach = span.start := by omega
    simp

/-- One data-bearing or empty slice, once flags and baseline are settled: unless it is refused, the
direction has rebuilt the contiguous coverage of everything received. -/
theorem absorbSegment_spec (small : source.length + 1 < window)
    (tracks : Tracks source base start received position reach state)
    (settled : Settled base position state)
    (room : source.length ≤ start + state.stream.capacity)
    (inside : span.stop ≤ source.length)
    (fin : hasFlag flags tcpFlagFin = true → span.stop = source.length)
    (accepted : (absorbSegment state (advance base span.start) flags
      (slice source span.start span.stop)).2 ≠ .dropped) :
    ∃ newPosition newReach,
      Tracks source base start (received ++ [span]) newPosition newReach
        (absorbSegment state (advance base span.start) flags
          (slice source span.start span.stop)).1 ∧
      Settled base newPosition (absorbSegment state (advance base span.start) flags
          (slice source span.start span.stop)).1 ∧
      (absorbSegment state (advance base span.start) flags
          (slice source span.start span.stop)).1.stream.capacity = state.stream.capacity := by
  have spanStop : span.stop = span.start + span.length := rfl
  have bounded := tracks.inside
  have reachSmall : reach < window := by
    rcases tracks.reach_eq with _ | ⟨_, _⟩ <;> omega
  by_cases empty : span.length = 0
  · have received := tracks.receive span (Or.inr empty)
    have payloadLength : (slice source span.start span.stop).length = 0 := by
      rw [length_slice inside]
      omega
    unfold absorbSegment
    rw [if_pos payloadLength]
    split_ifs with consumesFin
    · -- A bare FIN at the stop of the stream consumes one sequence number.
      simp only [Bool.and_eq_true, beq_iff_eq] at consumesFin
      have atEnd := fin consumesFin.1
      have atReach : reach = span.start := by
        have equal := consumesFin.2
        rw [tracks.next_eq] at equal
        exact (advance_inj reachSmall (by omega)).mp equal
      refine ⟨position, reach + 1, { received with next_eq := ?_, reach_eq := ?_ }, settled, rfl⟩
      · show state.nextSequence + 1 = _
        rw [tracks.next_eq, advance_add_one]
      · rcases tracks.reach_eq with _ | ⟨_, _⟩
        · exact Or.inr ⟨by omega, by omega⟩
        · omega
    · exact ⟨position, reach, received, settled, rfl⟩
  · rw [absorbSegment_place (by omega) reachSmall tracks inside (by omega)] at accepted ⊢
    by_cases past : span.stop ≤ position
    · rw [if_pos past]
      exact ⟨position, reach, (tracks.receive span (Or.inl past)).congr rfl rfl rfl rfl rfl,
        settled, rfl⟩
    rw [if_neg past] at accepted ⊢
    obtain rfl : reach = position :=
      tracks.reach_of_lt (span.stop - 1)
        (by rcases tracks.reach_eq with _ | ⟨_, _⟩ <;> omega) (by omega)
    by_cases future : reach < span.start
    · rw [if_pos future] at accepted ⊢
      have counted : Tracks source base start received reach reach
          { state with
            outOfOrderSegments := state.outOfOrderSegments + 1, gaps := state.gaps + 1 } :=
        tracks.congr rfl rfl rfl rfl rfl
      dsimp only at accepted ⊢
      split at accepted
      next => exact absurd rfl accepted
      next stored storedEq =>
        obtain ⟨newTracks, newSettled, capacity⟩ := storeOutOfOrderSegment_spec (by omega) counted
          settled future (by omega) inside storedEq
        exact ⟨reach, reach, newTracks, newSettled, capacity⟩
    rw [if_neg future]
    have counted : Tracks source base start received reach reach
        (if span.start < reach then
          { state with overlappingSegments := state.overlappingSegments + 1 }
        else state) := by
      split
      · exact tracks.congr rfl rfl rfl rfl rfl
      · exact tracks
    have sameStream : (if span.start < reach then
          { state with overlappingSegments := state.overlappingSegments + 1 }
        else state).stream = state.stream := by
      split <;> rfl
    obtain ⟨after, newPosition, newReach, equal, newTracks, newSettled, capacity⟩ :=
      appendInOrder_spec small counted (by rw [sameStream]; exact room) (by omega) (by omega)
        inside fin
    rw [equal]
    exact ⟨newPosition, newReach, newTracks, newSettled, by rw [capacity, sameStream]⟩

/-- Recording flags touches nothing the invariant reads. -/
theorem Tracks.trackFlags (tracks : Tracks source base start received position reach state)
    (flags : UInt8) :
    Tracks source base start received position reach (tcpReassemblyTrackFlags state flags) :=
  tracks.congr rfl rfl rfl rfl rfl

end Segments

/-! ### Whole runs -/

/-- The direction has rebuilt everything received from `start` on, and nothing that could be
delivered is still waiting. -/
structure Rebuilds (source : List UInt8) (base : UInt32) (start : Nat) (received : List Span)
    (capacity : Nat) (state : TcpReassemblyDirection) : Prop where
  tracked : ∃ position reach, Tracks source base start received position reach state ∧
    Settled base position state
  capacity_eq : state.stream.capacity = capacity

/-- One call of `tcp_reassembly_process_segment`. -/
structure TcpSegment where
  sequence : UInt32
  flags : UInt8
  payload : List UInt8
deriving DecidableEq, Repr

/-- A slice of the byte string, with the flags it is sent under. -/
structure SegmentSlice where
  span : Span
  flags : UInt8
deriving DecidableEq, Repr

/-- SYN precedes the first byte and FIN follows the last one. -/
structure SegmentSlice.Admissible (source : List UInt8) (piece : SegmentSlice) : Prop where
  inside : piece.span.stop ≤ source.length
  syn : hasFlag piece.flags tcpFlagSyn = true → piece.span.start = 0
  fin : hasFlag piece.flags tcpFlagFin = true → piece.span.stop = source.length

/-- The segment that carries a slice when the first byte has sequence number `base`. -/
def SegmentSlice.segment (source : List UInt8) (base : UInt32) (piece : SegmentSlice) :
    TcpSegment where
  sequence :=
    if hasFlag piece.flags tcpFlagSyn then base - 1 else advance base piece.span.start
  flags := piece.flags
  payload := slice source piece.span.start piece.span.stop

def tcpReassembly : Machine TcpReassemblyDirection TcpSegment TcpReassemblyResult where
  step state segment :=
    tcpReassemblyProcessSegment state segment.sequence segment.flags segment.payload

section Runs

variable {source : List UInt8} {base : UInt32} {start capacity : Nat} {received : List Span}
variable {state : TcpReassemblyDirection} {piece : SegmentSlice}

theorem SegmentSlice.Admissible.payloadSequence_eq (admissible : piece.Admissible source) :
    payloadSequence (piece.segment source base).sequence piece.flags =
      advance base piece.span.start := by
  unfold SegmentSlice.segment payloadSequence
  split_ifs with syn
  · rw [admissible.syn syn, advance_zero, UInt32.sub_add_cancel]
  · rfl

theorem learnBaseline_of_known (known : state.initialSequenceKnown = true) (sequence : UInt32)
    (flags : UInt8) : learnBaseline state sequence flags = state := by
  rw [learnBaseline, if_pos known]

/-- A direction that has seen no segment yet. -/
structure Fresh (capacity : Nat) (state : TcpReassemblyDirection) : Prop where
  usable : state.unusable = false
  unknown : state.initialSequenceKnown = false
  streamValid : state.stream.Valid
  unread : state.stream.readable = []
  capacity_eq : state.stream.capacity = capacity
  nothingPending : state.pending = []

theorem tcpReassemblyDirectionInit_fresh
    (initialized : tcpReassemblyDirectionInit capacity = some state) : Fresh capacity state := by
  obtain ⟨stream, streamEq, rfl⟩ := tcpReassemblyDirectionInit_some initialized
  obtain ⟨valid, unread, capacityEq, _⟩ := StreamBuffer.streamBufferInit_valid streamEq
  exact ⟨rfl, rfl, valid, unread, capacityEq, rfl⟩

/-- The first segment fixes where the stream starts. -/
theorem Fresh.learnBaseline_tracks (fresh : Fresh capacity state) (base : UInt32)
    (admissible : piece.Admissible source) :
    Tracks source base piece.span.start [] piece.span.start piece.span.start
      (learnBaseline (tcpReassemblyTrackFlags state piece.flags)
        (piece.segment source base).sequence piece.flags) := by
  have unknown : (tcpReassemblyTrackFlags state piece.flags).initialSequenceKnown = false :=
    fresh.unknown
  have inside := admissible.inside
  unfold Span.stop at inside
  rw [learnBaseline, if_neg (by simp [unknown]), admissible.payloadSequence_eq]
  refine ⟨fresh.usable, rfl, fresh.streamValid, ?_, le_rfl, by omega, rfl, Or.inl rfl, ?_, ?_⟩
  · rw [slice_self]
    exact fresh.unread
  · intro segment member
    simp [tcpReassemblyTrackFlags, fresh.nothingPending] at member
  · intro index after
    have nothing : pendingSpans base (tcpReassemblyTrackFlags state piece.flags) = [] := by
      simp [pendingSpans, tcpReassemblyTrackFlags, fresh.nothingPending]
    have notBelow : ¬ index < piece.span.start := by omega
    simp only [not_covered_nil, notBelow, false_or, false_iff]
    change ¬ Covered (pendingSpans base (tcpReassemblyTrackFlags state piece.flags)) index
    rw [nothing]
    exact not_covered_nil index

theorem tcpReassembly_first (small : source.length + 1 < window)
    (fresh : Fresh capacity state) (room : source.length ≤ capacity)
    (admissible : piece.Admissible source)
    (accepted : tcpReassembly.output state (piece.segment source base) ≠ .dropped) :
    Rebuilds source base piece.span.start [piece.span] capacity
      (tcpReassembly.next state (piece.segment source base)) := by
  have baseline := fresh.learnBaseline_tracks base admissible
  have settled : Settled base piece.span.start
      (learnBaseline (tcpReassemblyTrackFlags state piece.flags)
        (piece.segment source base).sequence piece.flags) := by
    intro segment member
    unfold learnBaseline at member
    split at member <;> simp [tcpReassemblyTrackFlags, fresh.nothingPending] at member
  have capacityEq : (learnBaseline (tcpReassemblyTrackFlags state piece.flags)
      (piece.segment source base).sequence piece.flags).stream.capacity = capacity := by
    unfold learnBaseline
    split <;> exact fresh.capacity_eq
  change (tcpReassemblyProcessSegment _ _ piece.flags _).2 ≠ _ at accepted
  change Rebuilds _ _ _ _ _ (tcpReassemblyProcessSegment _ _ piece.flags _).1
  unfold tcpReassemblyProcessSegment at accepted ⊢
  rw [if_neg (by simp [fresh.usable]), admissible.payloadSequence_eq] at accepted ⊢
  obtain ⟨position, reach, tracks, stillSettled, capacityKept⟩ :=
    absorbSegment_spec small baseline settled (by rw [capacityEq]; omega) admissible.inside
      admissible.fin accepted
  exact ⟨⟨position, reach, tracks, stillSettled⟩, capacityKept.trans capacityEq⟩

theorem tcpReassembly_next (small : source.length + 1 < window)
    (rebuilds : Rebuilds source base start received capacity state)
    (room : source.length ≤ capacity) (admissible : piece.Admissible source)
    (accepted : tcpReassembly.output state (piece.segment source base) ≠ .dropped) :
    Rebuilds source base start (received ++ [piece.span]) capacity
      (tcpReassembly.next state (piece.segment source base)) := by
  obtain ⟨⟨position, reach, tracks, settled⟩, capacityEq⟩ := rebuilds
  have flagged := tracks.trackFlags piece.flags
  change (tcpReassemblyProcessSegment _ _ piece.flags _).2 ≠ _ at accepted
  change Rebuilds _ _ _ _ _ (tcpReassemblyProcessSegment _ _ piece.flags _).1
  unfold tcpReassemblyProcessSegment at accepted ⊢
  rw [if_neg (by simp [tracks.usable]), admissible.payloadSequence_eq,
    learnBaseline_of_known flagged.known] at accepted ⊢
  have roomLeft : source.length ≤ start +
      (tcpReassemblyTrackFlags state piece.flags).stream.capacity := by
    change _ ≤ start + state.stream.capacity
    omega
  obtain ⟨newPosition, newReach, newTracks, stillSettled, capacityKept⟩ :=
    absorbSegment_spec small flagged settled roomLeft admissible.inside admissible.fin accepted
  exact ⟨⟨newPosition, newReach, newTracks, stillSettled⟩, capacityKept.trans capacityEq⟩

/-- A run of accepted slices rebuilds what its spans cover. -/
theorem tcpReassembly_run (small : source.length + 1 < window) (room : source.length ≤ capacity)
    (rebuilds : Rebuilds source base start received capacity state)
    {pieces : List SegmentSlice} (admissible : ∀ piece ∈ pieces, piece.Admissible source)
    (accepted : TcpReassemblyResult.dropped ∉
      tcpReassembly.outputs state (pieces.map (SegmentSlice.segment source base))) :
    Rebuilds source base start (received ++ pieces.map SegmentSlice.span) capacity
      (tcpReassembly.run state (pieces.map (SegmentSlice.segment source base))) := by
  induction pieces generalizing received state with
  | nil => simpa using rebuilds
  | cons piece pieces inductionHypothesis =>
      simp only [List.map_cons, Machine.outputs_cons, List.mem_cons, not_or] at accepted
      have head := tcpReassembly_next small rebuilds room (admissible piece (by simp))
        (Ne.symm accepted.1)
      have tail := inductionHypothesis head
        (fun other member => admissible other (by simp [member])) accepted.2
      simpa using tail

/-- TCP reassembly delivers, after every sequence of accepted slices in any order, exactly the
contiguous coverage of what it received from the first slice's offset on, and keeps waiting only
what lies beyond a gap. -/
theorem tcpReassembly_rebuilds_stream {initial : TcpReassemblyDirection}
    (initialized : tcpReassemblyDirectionInit capacity = some initial)
    (capacityCap : capacity ≤ 1048576) (room : source.length ≤ capacity)
    (first : SegmentSlice) (later : List SegmentSlice)
    (admissible : ∀ piece ∈ first :: later, piece.Admissible source)
    (accepted : TcpReassemblyResult.dropped ∉
      tcpReassembly.outputs initial ((first :: later).map (SegmentSlice.segment source base))) :
    ∃ stop, CoverageEnd ((first :: later).map SegmentSlice.span) first.span.start stop ∧
      (tcpReassembly.run initial
        ((first :: later).map (SegmentSlice.segment source base))).stream.readable =
          slice source first.span.start stop ∧
      ∀ waiting ∈ (tcpReassembly.run initial
        ((first :: later).map (SegmentSlice.segment source base))).pending,
          stop < (waiting.span base).start := by
  have small : source.length + 1 < window := by
    unfold window
    omega
  simp only [List.map_cons, Machine.outputs_cons, List.mem_cons, not_or] at accepted
  have head := tcpReassembly_first small (tcpReassemblyDirectionInit_fresh initialized) room
    (admissible first (by simp)) (Ne.symm accepted.1)
  obtain ⟨⟨position, reach, tracks, settled⟩, _⟩ :=
    tcpReassembly_run small room head (fun piece member => admissible piece (by simp [member]))
      accepted.2
  exact ⟨position, tracks.coverageEnd settled, tracks.readable_eq, settled⟩

/-- Four bytes whose numbers wrap past `2^32`, with the last one ahead of its gap. -/
theorem tcpReassembly_rebuilds_stream_wraparound :
    ∃ stop, CoverageEnd [⟨1, 1⟩, ⟨3, 1⟩, ⟨2, 2⟩] 1 stop ∧
      (tcpReassembly.run { stream := { data := some [], capacity := 8 }, pendingByteCap := 8 }
        [⟨0xFFFFFFFF, 0, [20]⟩, ⟨1, 0, [40]⟩, ⟨0, 1, [30, 40]⟩]).stream.readable =
          slice [10, 20, 30, 40] 1 stop ∧
      ∀ waiting ∈ (tcpReassembly.run
          { stream := { data := some [], capacity := 8 }, pendingByteCap := 8 }
          [⟨0xFFFFFFFF, 0, [20]⟩, ⟨1, 0, [40]⟩, ⟨0, 1, [30, 40]⟩]).pending,
        stop < (waiting.span 0xFFFFFFFE).start :=
  @tcpReassembly_rebuilds_stream [10, 20, 30, 40] 0xFFFFFFFE 8 _
    rfl (by decide) (by decide) ⟨⟨1, 1⟩, 0⟩ [⟨⟨3, 1⟩, 0⟩, ⟨⟨2, 2⟩, 1⟩]
    (by
      intro piece member
      simp only [List.mem_cons, List.not_mem_nil, or_false] at member
      rcases member with rfl | rfl | rfl <;> exact ⟨by decide, by decide, by decide⟩)
    (by decide)

end Runs

end MiniSniffer
