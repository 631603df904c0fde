import MiniSniffer.Tcp.StreamOrder

/-!
Contract: what the result of a call tells its caller.

Owns the four results of `tcp_reassembly_process_segment` read as a promise about the stream and
the pending store, for every direction that any calls lead to. Data that joins the stream can set
off a flush that stops for want of room; the call then answers that nothing was taken. Owns the
condition `FlushHasRoom` under which that does not happen, and the run theorem.

Reads nothing of the lifetime counters and does not own what the bytes mean: see
`Tcp.StreamOrder`.
-/

namespace MiniSniffer

open Foundation Foundation.SerialNumber

/-! ### Operations on a direction -/

inductive DirectionOperation where
  | segment (segment : TcpSegment)
  | trackFlags (flags : UInt8)
  | releaseBuffers
deriving DecidableEq, Repr

/-- The calls on one direction; only a segment is answered. -/
def directionOperations :
    Machine TcpReassemblyDirection DirectionOperation (Option TcpReassemblyResult) where
  step state operation :=
    match operation with
    | .segment segment =>
        let processed :=
          tcpReassemblyProcessSegment state segment.sequence segment.flags segment.payload
        (processed.1, some processed.2)
    | .trackFlags flags => (tcpReassemblyTrackFlags state flags, none)
    | .releaseBuffers => (tcpReassemblyDirectionReleaseBuffers state, none)

/-- Stream and pending store are the same. -/
structure SameStore (before after : TcpReassemblyDirection) : Prop where
  stream_eq : after.stream = before.stream
  pending_eq : after.pending = before.pending
  pendingBytes_eq : after.pendingBytes = before.pendingBytes

theorem SameStore.congr {before after other : TcpReassemblyDirection}
    (same : SameStore before after) (stream : other.stream = after.stream)
    (pending : other.pending = after.pending)
    (bytes : other.pendingBytes = after.pendingBytes) : SameStore before other :=
  ⟨stream.trans same.stream_eq, pending.trans same.pending_eq, bytes.trans same.pendingBytes_eq⟩

theorem SameStore.trans {before after other : TcpReassemblyDirection}
    (same : SameStore before after) (next : SameStore after other) : SameStore before other :=
  same.congr next.stream_eq next.pending_eq next.pendingBytes_eq

/-- What the answer to a segment with payload promises. -/
structure TellsWhatChanged (before : TcpReassemblyDirection) (segment : TcpSegment)
    (after : TcpReassemblyDirection) (result : TcpReassemblyResult) : Prop where
  accepted_iff : result = .accepted ↔
    before.stream.readable.length < after.stream.readable.length
  buffered_iff : result = .buffered ↔
    (∃ held, held.data = segment.payload ∧ after.pending = before.pending ++ [held]) ∧
      after.stream = before.stream ∧ after.nextSequence = before.nextSequence
  refused : result = .ignored ∨ result = .dropped → SameStore before after
  kept : before.stream.readable <+: after.stream.readable

/-- The promise of one call: an unusable direction refuses for good, and any other result tells
what changed. -/
def ResultTells (state : TcpReassemblyDirection) (operation : DirectionOperation) : Prop :=
  let after := directionOperations.next state operation
  (state.unusable = true → after.unusable = true) ∧
    match operation with
    | .segment segment =>
        let result :=
          (tcpReassemblyProcessSegment state segment.sequence segment.flags segment.payload).2
        (state.unusable = true → result = .dropped ∧ SameStore state after ∧
            after.nextSequence = state.nextSequence) ∧
          (segment.payload ≠ [] → TellsWhatChanged state segment after result)
    | _ => True

/-! ### Room for a flush -/

/-- The bytes of the stream buffer that are free. -/
def streamRoom (state : TcpReassemblyDirection) : Nat :=
  state.stream.capacity - state.stream.readable.length

/-- The flush from `nextSequence` on, with `room` bytes free: everything it takes fits. -/
def flushFits : Nat → UInt32 → Nat → List TcpOutOfOrderSegment → Bool
  | 0, _, _, _ => true
  | passes + 1, nextSequence, room, waiting =>
      match waiting.findIdx? (flushReaches nextSequence) with
      | none => true
      | some index =>
          match waiting[index]? with
          | none => true
          | some segment =>
              let tail := segment.data.length - (nextSequence - segment.sequence).toNat
              if beforeOrEqual segment.segmentEnd nextSequence then
                flushFits passes nextSequence room (waiting.eraseIdx index)
              else
                tail ≤ room &&
                  flushFits passes segment.segmentEnd (room - tail) (waiting.eraseIdx index)

/-- The sequence number that the next byte of the stream has, once the baseline is known. -/
def expectedSequence (state : TcpReassemblyDirection) (segment : TcpSegment) : UInt32 :=
  if state.initialSequenceKnown then state.nextSequence
  else payloadSequence segment.sequence segment.flags

/-- The part of a payload that continues the stream; empty for a segment that is old, early or
refused. -/
def inOrderTail (state : TcpReassemblyDirection) (segment : TcpSegment) : List UInt8 :=
  let start := payloadSequence segment.sequence segment.flags
  let expected := expectedSequence state segment
  if state.unusable = true ∨ segment.payload.length > 2 ^ 32 - 1 ∨
      beforeOrEqual (advance start segment.payload.length) expected = true ∨
      before expected start = true then
    []
  else segment.payload.drop (expected - start).toNat

/-- Data that joins the stream whole sets off a flush with room for all that it takes. -/
def FlushHasRoom (state : TcpReassemblyDirection) (operation : DirectionOperation) : Prop :=
  match operation with
  | .segment segment =>
      let tail := inOrderTail state segment
      let reached := advance (expectedSequence state segment) tail.length
      tail ≠ [] → tail.length ≤ streamRoom state →
        flushFits state.pending.length
          (if hasFlag segment.flags tcpFlagFin then reached + 1 else reached)
          (streamRoom state - tail.length) state.pending = true
  | _ => True

instance (state : TcpReassemblyDirection) (operation : DirectionOperation) :
    Decidable (FlushHasRoom state operation) := by
  unfold FlushHasRoom
  cases operation <;> infer_instance

/-! ### The flush -/

section Flush

variable {state : TcpReassemblyDirection} {segment : TcpOutOfOrderSegment} {index : Nat}

/-- A waiting segment that the stream has passed is dropped. -/
theorem flushSegment_passed (found : state.pending[index]? = some segment)
    (passed : beforeOrEqual segment.segmentEnd state.nextSequence = true) :
    ∃ flushed, flushSegment state index segment = (flushed, true) ∧
      flushed.stream = state.stream ∧ flushed.nextSequence = state.nextSequence ∧
      flushed.pending = state.pending.eraseIdx index := by
  have counted : ({ state with
      retransmissions := state.retransmissions + 1 } : TcpReassemblyDirection).pending[index]? =
        some segment := found
  rw [flushSegment, if_pos passed, removePendingAt_eq _ counted]
  exact ⟨_, rfl, rfl, rfl, rfl⟩

/-- A waiting segment that continues the stream is appended whole if there is room, and else
nothing is appended and the flush stops. -/
theorem flushSegment_continues {tail : Nat} (valid : state.stream.Valid)
    (found : state.pending[index]? = some segment)
    (continues : beforeOrEqual segment.segmentEnd state.nextSequence = false)
    (tailEq : tail = segment.data.length - (state.nextSequence - segment.sequence).toNat) :
    ∃ flushed, flushSegment state index segment = (flushed, decide (tail ≤ streamRoom state)) ∧
      flushed.stream.Valid ∧ state.stream.readable <+: flushed.stream.readable ∧
      (tail ≤ streamRoom state → streamRoom flushed = streamRoom state - tail ∧
        flushed.nextSequence = segment.segmentEnd ∧
        flushed.pending = state.pending.eraseIdx index) := by
  have inside := valid.readable_le
  unfold flushSegment
  rw [if_neg (by simp [continues])]
  dsimp only
  generalize (state.nextSequence - segment.sequence).toNat = trim at tailEq
  have validCounted : (countOverlap state trim).stream.Valid := by simpa using valid
  obtain ⟨stream, appended, stillValid, capacity, success, readable⟩ :=
    appendStreamData_spec validCounted (segment.data.drop trim)
  rw [countOverlap_stream] at capacity success readable
  have tailLength : (segment.data.drop trim).length = tail := by rw [List.length_drop, tailEq]
  have fits : state.stream.readable.length + tail ≤ state.stream.capacity ↔
      tail ≤ streamRoom state := by
    unfold streamRoom
    omega
  rw [tailLength] at success readable
  rw [success, appended]
  by_cases room : tail ≤ streamRoom state
  · rw [if_pos (decide_eq_true (fits.mpr room)), decide_eq_true room]
    rw [if_pos (fits.mpr room)] at readable
    have held : ({ countOverlap state trim with
        stream := stream, nextSequence := segment.segmentEnd } :
          TcpReassemblyDirection).pending[index]? = some segment := by
      rw [countOverlap_pending]
      exact found
    rw [removePendingAt_eq _ held]
    refine ⟨_, rfl, stillValid, ?_, fun _ => ⟨?_, rfl, ?_⟩⟩
    · show state.stream.readable <+: stream.readable
      rw [readable]
      exact List.prefix_append _ _
    · show stream.capacity - stream.readable.length = streamRoom state - tail
      rw [capacity, readable, List.length_append, tailLength, streamRoom]
      omega
    · show (countOverlap state trim).pending.eraseIdx index = state.pending.eraseIdx index
      rw [countOverlap_pending]
  · have refused : ¬ state.stream.readable.length + tail ≤ state.stream.capacity :=
      fun fitting => room (fits.mp fitting)
    rw [if_neg (by rw [decide_eq_true_eq]; exact refused), decide_eq_false room]
    rw [if_neg refused] at readable
    refine ⟨_, rfl, stillValid, ?_, fun fitting => absurd fitting room⟩
    show state.stream.readable <+: stream.readable
    exact readable ▸ List.prefix_refl _

/-- The flush only adds to the stream, and succeeds exactly when everything it takes fits. -/
theorem flushLoop_room (valid : state.stream.Valid) (passes : Nat) :
    (flushLoop passes state).2 =
        flushFits passes state.nextSequence (streamRoom state) state.pending ∧
      (flushLoop passes state).1.stream.Valid ∧
      state.stream.readable <+: (flushLoop passes state).1.stream.readable := by
  induction passes generalizing state with
  | zero => exact ⟨rfl, valid, List.prefix_refl _⟩
  | succ passes inductionHypothesis =>
      rw [flushLoop, flushFits]
      cases candidate : state.pending.findIdx? (flushReaches state.nextSequence) with
      | none => exact ⟨rfl, valid, List.prefix_refl _⟩
      | some index =>
          dsimp only
          cases found : state.pending[index]? with
          | none => exact ⟨rfl, valid, List.prefix_refl _⟩
          | some segment =>
              dsimp only
              cases passed : beforeOrEqual segment.segmentEnd state.nextSequence with
              | true =>
                  obtain ⟨flushed, equal, stream, next, pending⟩ := flushSegment_passed found passed
                  have flushedValid : flushed.stream.Valid := by
                    rw [stream]
                    exact valid
                  have rest := inductionHypothesis flushedValid
                  have room : streamRoom flushed = streamRoom state := by
                    rw [streamRoom, stream, streamRoom]
                  rw [next, pending, room, stream] at rest
                  rw [equal, if_pos rfl]
                  exact rest
              | false =>
                  obtain ⟨flushed, equal, stillValid, grown, fitting⟩ :=
                    flushSegment_continues valid found passed rfl
                  rw [equal, if_neg (by simp)]
                  by_cases fits : segment.data.length -
                      (state.nextSequence - segment.sequence).toNat ≤ streamRoom state
                  · obtain ⟨room, next, pending⟩ := fitting fits
                    have rest := inductionHypothesis stillValid
                    rw [next, pending, room] at rest
                    rw [decide_eq_true fits, Bool.true_and]
                    exact ⟨rest.1, rest.2.1, grown.trans rest.2.2⟩
                  · rw [decide_eq_false fits, Bool.false_and]
                    exact ⟨rfl, stillValid, grown⟩

end Flush

/-! ### A call -/

/-- A stream buffer in use, or one that was released. -/
def StreamHeld (buffer : StreamBuffer) : Prop :=
  buffer.Valid ∨ buffer = streamBufferCleanup buffer

/-- The call when no payload joins the stream: it is answered without a change, or it waits. -/
inductive LeavesStream (before : TcpReassemblyDirection) (segment : TcpSegment) :
    TcpReassemblyDirection × TcpReassemblyResult → Prop
  | unchanged {after : TcpReassemblyDirection} {result : TcpReassemblyResult}
      (same : SameStore before after) (refused : result = .ignored ∨ result = .dropped) :
      LeavesStream before segment (after, result)
  | waits {after : TcpReassemblyDirection} (held : TcpOutOfOrderSegment)
      (whole : held.data = segment.payload) (pending : after.pending = before.pending ++ [held])
      (stream : after.stream = before.stream) (next : after.nextSequence = before.nextSequence) :
      LeavesStream before segment (after, .buffered)

section Calls

variable {state : TcpReassemblyDirection} {segment : TcpSegment} {tail : List UInt8}

theorem StreamHeld.valid (held : StreamHeld state.stream) (room : 0 < streamRoom state) :
    state.stream.Valid := by
  rcases held with valid | released
  · exact valid
  · rw [streamRoom, released] at room
    exact absurd room (Nat.lt_irrefl 0)

theorem appendStreamBestEffort_full (full : streamRoom state = 0) (bytes : List UInt8) :
    appendStreamBestEffort state bytes = (state, 0) := by
  rw [streamRoom] at full
  unfold appendStreamBestEffort
  rw [state.stream.streamBufferLength_eq, full]
  simp

/-- In-order data that does not fit is cut to what fits. -/
theorem appendInOrder_cut (expected : UInt32) (flags : UInt8) (held : StreamHeld state.stream)
    (long : streamRoom state < tail.length) :
    ∃ after, appendInOrder state expected flags tail =
        (after, if streamRoom state > 0 then .accepted else .dropped) ∧
      after.stream.readable = state.stream.readable ++ tail.take (streamRoom state) ∧
      (streamRoom state = 0 → SameStore state after) ∧ StreamHeld after.stream := by
  unfold appendInOrder
  dsimp only
  rcases Nat.eq_zero_or_pos (streamRoom state) with full | room
  · have positive : 0 < tail.length := by omega
    rw [appendStreamBestEffort_full full, if_pos positive, full]
    exact ⟨_, rfl, (List.append_nil _).symm, fun _ => ⟨rfl, rfl, rfl⟩, held⟩
  · obtain ⟨stream, stored, valid, -, count, readable⟩ :=
      appendStreamBestEffort_spec (held.valid room) tail
    have cut : (appendStreamBestEffort state tail).2 = streamRoom state := by
      rw [count]
      exact Nat.min_eq_right (Nat.le_of_lt long)
    rw [cut, stored, if_pos long]
    exact ⟨_, rfl, readable, fun full => absurd full (Nat.pos_iff_ne_zero.mp room), Or.inl valid⟩

/-- In-order data that fits joins the stream whole, and the flush decides the answer. -/
theorem appendInOrder_whole (expected : UInt32) (flags : UInt8) (held : StreamHeld state.stream)
    (nonempty : tail ≠ []) (fits : tail.length ≤ streamRoom state) :
    ∃ after, appendInOrder state expected flags tail = (after,
        if flushFits state.pending.length
            (if hasFlag flags tcpFlagFin then advance expected tail.length + 1
              else advance expected tail.length)
            (streamRoom state - tail.length) state.pending then .accepted
        else .dropped) ∧
      state.stream.readable ++ tail <+: after.stream.readable ∧ StreamHeld after.stream := by
  have positive := List.length_pos_iff.mpr nonempty
  have valid := held.valid (positive.trans_le fits)
  unfold appendInOrder
  dsimp only
  obtain ⟨stream, stored, stillValid, capacity, count, readable⟩ :=
    appendStreamBestEffort_spec valid tail
  have whole : (appendStreamBestEffort state tail).2 = tail.length := by
    rw [count]
    exact Nat.min_eq_left fits
  have fitting : tail.length ≤ state.stream.capacity - state.stream.readable.length := fits
  rw [List.take_of_length_le fitting] at readable
  have room : stream.capacity - stream.readable.length = streamRoom state - tail.length := by
    rw [capacity, readable, List.length_append, streamRoom]
    omega
  rw [whole, stored, if_neg (Nat.lt_irrefl _)]
  generalize (if hasFlag flags tcpFlagFin then advance expected tail.length + 1
    else advance expected tail.length) = reached
  have flushed := @flushLoop_room { state with stream := stream, nextSequence := reached }
    stillValid state.pending.length
  rw [streamRoom, room, readable] at flushed
  unfold flushPendingSegments
  dsimp only at flushed ⊢
  -- The call leaves what the flush leaves, whatever it answers.
  revert flushed
  generalize flushLoop _ _ = outcome
  rcases outcome with ⟨after, succeeded⟩
  rintro ⟨rfl, flushedValid, grown⟩
  refine ⟨after, ?_, grown, Or.inl flushedValid⟩
  cases flushFits state.pending.length reached (streamRoom state - tail.length) state.pending <;>
    rfl

theorem learnBaseline_same (state : TcpReassemblyDirection) (sequence : UInt32) (flags : UInt8) :
    SameStore state (learnBaseline (tcpReassemblyTrackFlags state flags) sequence flags) := by
  unfold learnBaseline
  split <;> exact ⟨rfl, rfl, rfl⟩

theorem learnBaseline_nextSequence (state : TcpReassemblyDirection) (segment : TcpSegment) :
    (learnBaseline (tcpReassemblyTrackFlags state segment.flags) segment.sequence
      segment.flags).nextSequence = expectedSequence state segment := by
  unfold learnBaseline expectedSequence
  show (if state.initialSequenceKnown = true then _ else _ : TcpReassemblyDirection).nextSequence =
    if state.initialSequenceKnown = true then _ else _
  split_ifs <;> rfl

/-- An early segment has a baseline to be early to. -/
theorem expectedSequence_of_early
    (early : before (expectedSequence state segment)
      (payloadSequence segment.sequence segment.flags) = true) :
    expectedSequence state segment = state.nextSequence := by
  unfold expectedSequence at early ⊢
  split_ifs at early ⊢
  · rfl
  · rw [before_self] at early
    contradiction

theorem storeOutOfOrderSegment_waits {ready stored : TcpReassemblyDirection}
    (accepted : storeOutOfOrderSegment ready
      (payloadSequence segment.sequence segment.flags) segment.payload = some stored)
    (same : SameStore state ready) (next : ready.nextSequence = state.nextSequence) :
    LeavesStream state segment (stored, .buffered) := by
  obtain ⟨-, -, -, -, rfl⟩ := storeOutOfOrderSegment_some accepted
  exact .waits _ rfl (congrArg (· ++ _) same.pending_eq) same.stream_eq next

/-- The in-order tail of the payload is appended, or there is none and the stream is left alone. -/
def AppendsTail (state : TcpReassemblyDirection) (segment : TcpSegment)
    (processed : TcpReassemblyDirection × TcpReassemblyResult) : Prop :=
  (inOrderTail state segment = [] ∧ LeavesStream state segment processed) ∨
    (inOrderTail state segment ≠ [] ∧ ∃ counted, SameStore state counted ∧
      processed = appendInOrder counted (expectedSequence state segment) segment.flags
        (inOrderTail state segment))

/-- What a usable direction does once flags and baseline are settled. -/
theorem absorbSegment_outcome {ready : TcpReassemblyDirection} (nonempty : segment.payload ≠ [])
    (usable : state.unusable = false) (same : SameStore state ready)
    (next : ready.nextSequence = expectedSequence state segment) :
    AppendsTail state segment (absorbSegment ready
      (payloadSequence segment.sequence segment.flags) segment.flags segment.payload) := by
  have positive : segment.payload.length ≠ 0 := by
    rw [Ne, List.length_eq_zero_iff]
    exact nonempty
  unfold absorbSegment AppendsTail
  rw [if_neg positive]
  by_cases long : segment.payload.length > 2 ^ 32 - 1
  · have nothing : inOrderTail state segment = [] := if_pos (Or.inr (Or.inl long))
    rw [if_pos long]
    exact Or.inl ⟨nothing, .unchanged (same.congr rfl rfl rfl) (Or.inr rfl)⟩
  rw [if_neg long]
  unfold placeSegment
  rw [next]
  by_cases past : beforeOrEqual (advance (payloadSequence segment.sequence segment.flags)
      segment.payload.length) (expectedSequence state segment) = true
  · have nothing : inOrderTail state segment = [] := if_pos (Or.inr (Or.inr (Or.inl past)))
    rw [if_pos past]
    exact Or.inl ⟨nothing, .unchanged (same.congr rfl rfl rfl) (Or.inl rfl)⟩
  rw [if_neg past]
  by_cases early : before (expectedSequence state segment)
      (payloadSequence segment.sequence segment.flags) = true
  · have nothing : inOrderTail state segment = [] := if_pos (Or.inr (Or.inr (Or.inr early)))
    rw [if_pos early]
    refine Or.inl ⟨nothing, ?_⟩
    dsimp only
    split
    · exact .unchanged (same.congr rfl rfl rfl) (Or.inr rfl)
    next stored accepted =>
      exact storeOutOfOrderSegment_waits accepted (same.congr rfl rfl rfl)
        (expectedSequence_of_early early)
  rw [if_neg early]
  have tailEq : inOrderTail state segment = segment.payload.drop (expectedSequence state segment -
      payloadSequence segment.sequence segment.flags).toNat := by
    refine if_neg ?_
    rintro (unusable | tooLong | isPast | isEarly)
    · rw [usable] at unusable
      contradiction
    · exact long tooLong
    · exact past isPast
    · exact early isEarly
  rw [tailEq]
  by_cases overlaps : before (payloadSequence segment.sequence segment.flags)
      (expectedSequence state segment) = true
  · rw [if_pos overlaps]
    dsimp only
    split
    next covered =>
      exact Or.inl ⟨List.drop_eq_nil_of_le covered,
        .unchanged (same.congr rfl rfl rfl) (Or.inl rfl)⟩
    next longer =>
      refine Or.inr ⟨?_, _, ?_, rfl⟩
      · rw [Ne, List.drop_eq_nil_iff]
        omega
      · exact same.congr rfl rfl rfl
  · have exactly : expectedSequence state segment =
        payloadSequence segment.sequence segment.flags :=
      eq_of_not_before (Bool.eq_false_iff.mpr early) (Bool.eq_false_iff.mpr overlaps)
    rw [if_neg overlaps, exactly, UInt32.sub_self]
    exact Or.inr ⟨nonempty, ready, same, rfl⟩

theorem processSegment_outcome (nonempty : segment.payload ≠ []) :
    AppendsTail state segment
      (tcpReassemblyProcessSegment state segment.sequence segment.flags segment.payload) := by
  unfold tcpReassemblyProcessSegment
  cases unusable : state.unusable with
  | true =>
      have nothing : inOrderTail state segment = [] := if_pos (Or.inl unusable)
      exact Or.inl ⟨nothing, .unchanged ⟨rfl, rfl, rfl⟩ (Or.inr rfl)⟩
  | false =>
      rw [if_neg (by simp)]
      exact absorbSegment_outcome nonempty unusable
        (learnBaseline_same state segment.sequence segment.flags)
        (learnBaseline_nextSequence state segment)

theorem processSegment_empty (state : TcpReassemblyDirection) (sequence : UInt32)
    (flags : UInt8) :
    (tcpReassemblyProcessSegment state sequence flags []).1.stream = state.stream := by
  have kept := (learnBaseline_same state sequence flags).stream_eq
  unfold tcpReassemblyProcessSegment absorbSegment
  rw [if_pos List.length_nil]
  split_ifs
  · rfl
  · exact kept
  · exact kept

theorem processSegment_held (held : StreamHeld state.stream) (segment : TcpSegment) :
    StreamHeld (tcpReassemblyProcessSegment state segment.sequence segment.flags
      segment.payload).1.stream := by
  by_cases empty : segment.payload = []
  · rw [empty, processSegment_empty]
    exact held
  rcases @processSegment_outcome state segment empty with
    ⟨-, left⟩ | ⟨joins, counted, same, joined⟩
  · generalize tcpReassemblyProcessSegment state segment.sequence segment.flags
      segment.payload = processed at left
    cases left with
    | unchanged same refused =>
        rw [same.stream_eq]
        exact held
    | waits _ _ _ stream _ =>
        rw [stream]
        exact held
  · rw [← same.stream_eq] at held
    rw [joined]
    rcases Nat.lt_or_ge (streamRoom counted) (inOrderTail state segment).length with long | fits
    · obtain ⟨after, equal, -, -, kept⟩ := appendInOrder_cut (expectedSequence state segment)
        segment.flags held long
      rw [equal]
      exact kept
    · obtain ⟨after, equal, -, kept⟩ := appendInOrder_whole (expectedSequence state segment)
        segment.flags held joins fits
      rw [equal]
      exact kept

/-! ### The answers -/

theorem readable_lt_of_joined {after : TcpReassemblyDirection} {joined : List UInt8}
    (nonempty : joined ≠ []) (grown : state.stream.readable ++ joined <+: after.stream.readable) :
    state.stream.readable.length < after.stream.readable.length := by
  have positive := List.length_pos_iff.mpr nonempty
  have least := grown.length_le
  rw [List.length_append] at least
  omega

/-- Bytes that joined the stream are told by `accepted`. -/
theorem tells_accepted {after : TcpReassemblyDirection} {joined : List UInt8}
    (nonempty : joined ≠ []) (grown : state.stream.readable ++ joined <+: after.stream.readable) :
    TellsWhatChanged state segment after .accepted := by
  have longer := readable_lt_of_joined nonempty grown
  refine ⟨iff_of_true rfl longer, ?_, by simp, (List.prefix_append _ _).trans grown⟩
  refine iff_of_false (by simp) ?_
  rintro ⟨-, same, -⟩
  rw [same] at longer
  exact Nat.lt_irrefl _ longer

/-- A direction that is left alone is told by `ignored` or `dropped`. -/
theorem tells_refused {after : TcpReassemblyDirection} {result : TcpReassemblyResult}
    (same : SameStore state after) (refused : result = .ignored ∨ result = .dropped) :
    TellsWhatChanged state segment after result := by
  refine ⟨iff_of_false ?_ ?_, iff_of_false ?_ ?_, fun _ => same, ?_⟩
  · rcases refused with rfl | rfl <;> simp
  · rw [same.stream_eq]
    exact Nat.lt_irrefl _
  · rcases refused with rfl | rfl <;> simp
  · rintro ⟨⟨held, -, pending⟩, -⟩
    have lengths := congrArg List.length pending
    rw [same.pending_eq, List.length_append, List.length_singleton] at lengths
    omega
  · exact same.stream_eq ▸ List.prefix_refl _

theorem LeavesStream.tells {processed : TcpReassemblyDirection × TcpReassemblyResult}
    (left : LeavesStream state segment processed) :
    TellsWhatChanged state segment processed.1 processed.2 := by
  cases left with
  | unchanged same refused => exact tells_refused same refused
  | waits held whole pending stream next =>
      refine ⟨iff_of_false (by simp) ?_, iff_of_true rfl ⟨⟨held, whole, pending⟩, stream, next⟩,
        by simp, ?_⟩
      · rw [stream]
        exact Nat.lt_irrefl _
      · exact stream ▸ List.prefix_refl _

/-- An answer tells what changed unless a flush ran out of room after bytes had joined. -/
theorem tellsWhatChanged_iff (held : StreamHeld state.stream) (nonempty : segment.payload ≠ []) :
    TellsWhatChanged state segment
        (tcpReassemblyProcessSegment state segment.sequence segment.flags segment.payload).1
        (tcpReassemblyProcessSegment state segment.sequence segment.flags segment.payload).2 ↔
      FlushHasRoom state (.segment segment) := by
  rcases @processSegment_outcome state segment nonempty with
    ⟨nothing, left⟩ | ⟨joins, counted, same, joined⟩
  · exact iff_of_true left.tells (fun joins => absurd nothing joins)
  · rw [← same.stream_eq] at held
    have room : streamRoom counted = streamRoom state := by
      rw [streamRoom, same.stream_eq, streamRoom]
    rw [joined]
    rcases Nat.lt_or_ge (streamRoom counted) (inOrderTail state segment).length with long | fits
    · -- what does not fit is cut, and no flush follows
      obtain ⟨after, equal, readable, full, -⟩ := appendInOrder_cut (expectedSequence state segment)
        segment.flags held long
      rw [equal]
      refine iff_of_true ?_ (fun _ fits => absurd fits (by omega))
      rcases Nat.eq_zero_or_pos (streamRoom counted) with noRoom | someRoom
      · rw [if_neg (by omega)]
        exact tells_refused (same.trans (full noRoom)) (Or.inr rfl)
      · rw [if_pos someRoom]
        have head : (inOrderTail state segment).take (streamRoom counted) ≠ [] := by
          rw [Ne, List.take_eq_nil_iff]
          rintro (zero | empty)
          · omega
          · exact joins empty
        have grown : state.stream.readable ++ (inOrderTail state segment).take (streamRoom counted)
            <+: after.stream.readable := by
          simp only [readable, same.stream_eq, List.prefix_rfl]
        exact tells_accepted head grown
    · obtain ⟨after, equal, grown, -⟩ := appendInOrder_whole (expectedSequence state segment)
        segment.flags held joins fits
      rw [equal]
      rw [same.stream_eq] at grown
      have condition : FlushHasRoom state (.segment segment) ↔
          flushFits counted.pending.length
            (if hasFlag segment.flags tcpFlagFin then
              advance (expectedSequence state segment) (inOrderTail state segment).length + 1
            else advance (expectedSequence state segment) (inOrderTail state segment).length)
            (streamRoom counted - (inOrderTail state segment).length) counted.pending = true := by
        rw [same.pending_eq, room]
        exact ⟨fun holds => holds joins (room ▸ fits), fun holds _ _ => holds⟩
      rw [condition]
      cases flushFits counted.pending.length _ _ counted.pending with
      | true => exact iff_of_true (tells_accepted joins grown) rfl
      | false =>
          refine iff_of_false ?_ (by simp)
          intro tells
          have accepted := tells.accepted_iff.mpr (readable_lt_of_joined joins grown)
          contradiction

/-! ### Runs -/

theorem directionOperations_held (held : StreamHeld state.stream)
    (operation : DirectionOperation) :
    StreamHeld (directionOperations.next state operation).stream := by
  cases operation with
  | segment segment => exact processSegment_held held segment
  | trackFlags flags => exact held
  | releaseBuffers => exact Or.inr rfl

/-- An unusable direction stays as it is. -/
theorem processSegment_of_unusable (unusable : state.unusable = true) (sequence : UInt32)
    (flags : UInt8) (payload : List UInt8) :
    tcpReassemblyProcessSegment state sequence flags payload = (state, .dropped) := by
  rw [tcpReassemblyProcessSegment, if_pos unusable]

theorem inOrderTail_empty (empty : segment.payload = []) : inOrderTail state segment = [] := by
  unfold inOrderTail
  dsimp only
  rw [empty, List.drop_nil, ite_self]

theorem resultTells_iff (held : StreamHeld state.stream) (operation : DirectionOperation) :
    ResultTells state operation ↔ FlushHasRoom state operation := by
  cases operation with
  | trackFlags flags => exact iff_of_true ⟨id, trivial⟩ trivial
  | releaseBuffers => exact iff_of_true ⟨id, trivial⟩ trivial
  | segment segment =>
      have next : directionOperations.next state (.segment segment) =
          (tcpReassemblyProcessSegment state segment.sequence segment.flags segment.payload).1 :=
        rfl
      have refuses := fun unusable : state.unusable = true =>
        processSegment_of_unusable unusable segment.sequence segment.flags segment.payload
      unfold ResultTells
      rw [next]
      dsimp only
      constructor
      · rintro ⟨-, -, tells⟩
        by_cases empty : segment.payload = []
        · exact fun joins => absurd (inOrderTail_empty empty) joins
        · exact (tellsWhatChanged_iff held empty).mp (tells empty)
      · intro room
        refine ⟨?_, ?_, fun nonempty => (tellsWhatChanged_iff held nonempty).mpr room⟩
        · intro unusable
          rw [refuses unusable]
          exact unusable
        · intro unusable
          rw [refuses unusable]
          exact ⟨rfl, ⟨rfl, rfl, rfl⟩, rfl⟩

/-- Along a run every answer tells what changed exactly when no segment that joins the stream sets
off a flush that runs out of room. -/
theorem results_tell_what_changed {capacity : Nat} {initial : TcpReassemblyDirection}
    (initialized : tcpReassemblyDirectionInit capacity = some initial)
    (operations : List DirectionOperation) :
    directionOperations.AllSteps ResultTells initial operations ↔
      directionOperations.AllSteps FlushHasRoom initial operations := by
  have held : StreamHeld initial.stream :=
    Or.inl (tcpReassemblyDirectionInit_fresh initialized).streamValid
  have kept : ∀ (state : TcpReassemblyDirection) (operation : DirectionOperation),
      StreamHeld state.stream → StreamHeld (directionOperations.next state operation).stream :=
    fun _ operation held => directionOperations_held held operation
  exact Machine.allSteps_congr kept (fun _ operation held => resultTells_iff held operation) held
    operations

/-- Out of order data waits, and joins once the gap is closed. -/
theorem results_tell_what_changed_closedGap :
    directionOperations.AllSteps ResultTells
      { stream := { data := some [], capacity := 8 }, pendingByteCap := 8 }
      [.segment ⟨7, 0, [1]⟩, .segment ⟨10, 0, [4, 5]⟩, .segment ⟨8, 0, [2, 3]⟩] :=
  (@results_tell_what_changed 8 _ rfl _).mpr (by decide +kernel)

/-- With room for four bytes, the third segment adds two to the stream, the three that wait do not
fit any more, and the call answers `dropped`. -/
theorem dropped_after_joining :
    ∃ initial, tcpReassemblyDirectionInit 4 = some initial ∧
      ¬ directionOperations.AllSteps ResultTells initial
        [.segment ⟨7, 0, [1]⟩, .segment ⟨10, 0, [4, 5, 6]⟩, .segment ⟨8, 0, [2, 3]⟩] := by
  refine ⟨_, rfl, ?_⟩
  rintro ⟨-, -, ⟨-, -, tells⟩, -⟩
  have accepted := (tells (by decide)).accepted_iff.mpr (by decide +kernel)
  exact absurd accepted (by decide +kernel)

end Calls

end MiniSniffer
