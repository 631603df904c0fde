import MiniSniffer.Foundation.SerialNumber
import MiniSniffer.Tcp.StreamBuffer

/-!
Contract: one direction of a TCP conversation (`src/tcp_reassembly.c`).

Owns the per-direction state and every operation on it, as the source computes
them: in-order data is appended to the stream buffer, future data waits in the
bounded pending store, overlaps are trimmed, and the store is flushed whenever
the contiguous stream advances.

The compact pending array is a list and `pending_count` its length; a segment
owns its copied bytes, so its `length` is theirs. The 64-bit lifetime counters
are natural numbers. Allocation succeeds.

Does not own what the operations achieve together: see `Tcp.StreamOrder`.
-/

namespace MiniSniffer

open Foundation.SerialNumber

def tcpReassemblyMaxPendingSegments : Nat := 8

def tcpFlagFin : UInt8 := 0x01

def tcpFlagSyn : UInt8 := 0x02

def tcpFlagRst : UInt8 := 0x04

/-- `(flags & flag) != 0`. -/
def hasFlag (flags flag : UInt8) : Bool := flags &&& flag != 0

inductive TcpReassemblyResult where
  | accepted
  | buffered
  | ignored
  | dropped
deriving DecidableEq, Repr

structure TcpOutOfOrderSegment where
  sequence : UInt32
  data : List UInt8
deriving DecidableEq, Repr

structure TcpReassemblyDirection where
  nextSequence : UInt32 := 0
  initialSequenceKnown : Bool := false
  finSeen : Bool := false
  rstSeen : Bool := false
  unusable : Bool := false
  outOfOrderSegments : Nat := 0
  retransmissions : Nat := 0
  overlappingSegments : Nat := 0
  gaps : Nat := 0
  stream : StreamBuffer := {}
  pending : List TcpOutOfOrderSegment := []
  pendingBytes : Nat := 0
  pendingByteCap : Nat := 0
deriving DecidableEq, Repr

/-- Payload begins one sequence number after SYN. -/
def payloadSequence (sequence : UInt32) (flags : UInt8) : UInt32 :=
  if hasFlag flags tcpFlagSyn then sequence + 1 else sequence

/-- `segment->sequence + (uint32_t)segment->length`. -/
def TcpOutOfOrderSegment.segmentEnd (segment : TcpOutOfOrderSegment) : UInt32 :=
  advance segment.sequence segment.data.length

/-! ### The pending store -/

/-- The guarded subtraction of the source is truncated subtraction. -/
def removePendingAt (state : TcpReassemblyDirection) (index : Nat) : TcpReassemblyDirection :=
  match state.pending[index]? with
  | none => state
  | some segment =>
      { state with
        pendingBytes := state.pendingBytes - segment.data.length
        pending := state.pending.eraseIdx index }

/-- `none` when a cap refuses the segment. -/
def storeOutOfOrderSegment (state : TcpReassemblyDirection) (sequence : UInt32)
    (payload : List UInt8) : Option TcpReassemblyDirection :=
  if state.pending.length ≥ tcpReassemblyMaxPendingSegments ∨ payload.length = 0 ∨
      payload.length > state.pendingByteCap ∨
      payload.length > state.pendingByteCap - state.pendingBytes then
    none
  else
    some { state with
      pending := state.pending ++ [{ sequence := sequence, data := payload }]
      pendingBytes := state.pendingBytes + payload.length }

/-- A segment is stored behind the others, and within the caps. -/
theorem storeOutOfOrderSegment_some {state stored : TcpReassemblyDirection} {sequence : UInt32}
    {payload : List UInt8}
    (accepted : storeOutOfOrderSegment state sequence payload = some stored) :
    state.pending.length < tcpReassemblyMaxPendingSegments ∧ payload.length ≠ 0 ∧
      payload.length ≤ state.pendingByteCap ∧
      payload.length ≤ state.pendingByteCap - state.pendingBytes ∧
      stored = { state with
        pending := state.pending ++ [{ sequence := sequence, data := payload }]
        pendingBytes := state.pendingBytes + payload.length } := by
  unfold storeOutOfOrderSegment at accepted
  split at accepted
  · contradiction
  next fits =>
    simp only [not_or, ge_iff_le, Nat.not_le, gt_iff_lt, Nat.not_lt] at fits
    obtain ⟨few, nonempty, capped, room⟩ := fits
    exact ⟨few, nonempty, capped, room, (Option.some.inj accepted).symm⟩

/-! ### The contiguous stream -/

def appendStreamData (state : TcpReassemblyDirection) (bytes : List UInt8) :
    TcpReassemblyDirection × Bool :=
  let appended := streamBufferAppend state.stream bytes
  ({ state with stream := appended.1 }, appended.2)

/-- Appends the head of `bytes` that still fits and counts the bytes stored. -/
def appendStreamBestEffort (state : TcpReassemblyDirection) (bytes : List UInt8) :
    TcpReassemblyDirection × Nat :=
  let room := state.stream.capacity - streamBufferLength state.stream
  let take := if bytes.length < room then bytes.length else room
  if take = 0 then
    (state, 0)
  else
    let appended := appendStreamData state (bytes.take take)
    if appended.2 then (appended.1, take) else (appended.1, 0)

/-- The contiguous stream has reached this segment: it ends or starts at or before
`next_sequence`. -/
def flushReaches (nextSequence : UInt32) (segment : TcpOutOfOrderSegment) : Bool :=
  beforeOrEqual segment.segmentEnd nextSequence || beforeOrEqual segment.sequence nextSequence

def countOverlap (state : TcpReassemblyDirection) (trim : Nat) : TcpReassemblyDirection :=
  if trim > 0 then { state with overlappingSegments := state.overlappingSegments + 1 } else state

/-- One pass of the flush loop over the segment at `index`: drop it when it ends at or before
`next_sequence`, otherwise append what lies past `next_sequence`. -/
def flushSegment (state : TcpReassemblyDirection) (index : Nat) (segment : TcpOutOfOrderSegment) :
    TcpReassemblyDirection × Bool :=
  if beforeOrEqual segment.segmentEnd state.nextSequence then
    (removePendingAt { state with retransmissions := state.retransmissions + 1 } index, true)
  else
    let trim := (state.nextSequence - segment.sequence).toNat
    let appended := appendStreamData (countOverlap state trim) (segment.data.drop trim)
    if appended.2 then
      (removePendingAt { appended.1 with nextSequence := segment.segmentEnd } index, true)
    else
      ({ appended.1 with unusable := true }, false)

/-- The scan restarts after every removal, and every pass that continues removes one segment, so
as many passes as there are segments suffice. -/
def flushLoop : Nat → TcpReassemblyDirection → TcpReassemblyDirection × Bool
  | 0, state => (state, true)
  | passes + 1, state =>
      match state.pending.findIdx? (flushReaches state.nextSequence) with
      | none => (state, true)
      | some index =>
          match state.pending[index]? with
          | none => (state, true)
          | some segment =>
              match flushSegment state index segment with
              | (flushed, true) => flushLoop passes flushed
              | (flushed, false) => (flushed, false)

def flushPendingSegments (state : TcpReassemblyDirection) : TcpReassemblyDirection × Bool :=
  flushLoop state.pending.length state

/-! ### Lifecycle -/

def tcpReassemblyDirectionInit (streamBufferBytes : Nat) : Option TcpReassemblyDirection :=
  match streamBufferInit streamBufferBytes with
  | none => none
  | some stream => some { stream := stream, pendingByteCap := streamBufferBytes }

theorem tcpReassemblyDirectionInit_some {streamBufferBytes : Nat} {state : TcpReassemblyDirection}
    (initialized : tcpReassemblyDirectionInit streamBufferBytes = some state) :
    ∃ stream, streamBufferInit streamBufferBytes = some stream ∧
      state = { stream := stream, pendingByteCap := streamBufferBytes } := by
  unfold tcpReassemblyDirectionInit at initialized
  split at initialized
  · contradiction
  next stream created => exact ⟨stream, created, (Option.some.inj initialized).symm⟩

def tcpReassemblyDirectionCleanup (_ : TcpReassemblyDirection) : TcpReassemblyDirection := {}

def tcpReassemblyTrackFlags (state : TcpReassemblyDirection) (flags : UInt8) :
    TcpReassemblyDirection :=
  { state with
    rstSeen := state.rstSeen || hasFlag flags tcpFlagRst
    finSeen := state.finSeen || hasFlag flags tcpFlagFin }

def tcpReassemblyDirectionReleaseBuffers (state : TcpReassemblyDirection) :
    TcpReassemblyDirection :=
  { state with pending := [], pendingBytes := 0, stream := streamBufferCleanup state.stream }

/-! ### Segments -/

/-- The first segment becomes the sequencing baseline. -/
def learnBaseline (state : TcpReassemblyDirection) (sequence : UInt32) (flags : UInt8) :
    TcpReassemblyDirection :=
  if state.initialSequenceKnown then
    state
  else
    { state with nextSequence := payloadSequence sequence flags, initialSequenceKnown := true }

/-- The tail of `tcp_reassembly_process_segment`: `payload` starts at `dataSequence`, which is
`next_sequence`. -/
def appendInOrder (state : TcpReassemblyDirection) (dataSequence : UInt32) (flags : UInt8)
    (payload : List UInt8) : TcpReassemblyDirection × TcpReassemblyResult :=
  let stored := appendStreamBestEffort state payload
  if stored.2 < payload.length then
    ({ stored.1 with unusable := true }, if stored.2 > 0 then .accepted else .dropped)
  else
    let reached := advance dataSequence payload.length
    let advanced :=
      { stored.1 with
        nextSequence := if hasFlag flags tcpFlagFin then reached + 1 else reached }
    match flushPendingSegments advanced with
    | (flushed, true) => (flushed, .accepted)
    | (flushed, false) => (flushed, .dropped)

/-- A data-bearing segment: past, future, overlapping or next in order. -/
def placeSegment (state : TcpReassemblyDirection) (dataSequence : UInt32) (flags : UInt8)
    (payload : List UInt8) : TcpReassemblyDirection × TcpReassemblyResult :=
  if beforeOrEqual (advance dataSequence payload.length) state.nextSequence then
    ({ state with retransmissions := state.retransmissions + 1 }, .ignored)
  else if before state.nextSequence dataSequence then
    let counted :=
      { state with
        outOfOrderSegments := state.outOfOrderSegments + 1
        gaps := state.gaps + 1 }
    match storeOutOfOrderSegment counted dataSequence payload with
    | none => (counted, .dropped)
    | some stored => (stored, .buffered)
  else if before dataSequence state.nextSequence then
    let trim := (state.nextSequence - dataSequence).toNat
    let counted := { state with overlappingSegments := state.overlappingSegments + 1 }
    if trim ≥ payload.length then
      ({ counted with retransmissions := counted.retransmissions + 1 }, .ignored)
    else
      appendInOrder counted state.nextSequence flags (payload.drop trim)
  else
    appendInOrder state dataSequence flags payload

/-- What follows once flags and baseline are settled. A `NULL` payload with a non-zero length is
not a value of the model. -/
def absorbSegment (state : TcpReassemblyDirection) (dataSequence : UInt32) (flags : UInt8)
    (payload : List UInt8) : TcpReassemblyDirection × TcpReassemblyResult :=
  if payload.length = 0 then
    if hasFlag flags tcpFlagFin && state.nextSequence == dataSequence then
      ({ state with nextSequence := state.nextSequence + 1 }, .accepted)
    else
      (state, .accepted)
  else if payload.length > 2 ^ 32 - 1 then
    ({ state with unusable := true }, .dropped)
  else
    placeSegment state dataSequence flags payload

def tcpReassemblyProcessSegment (state : TcpReassemblyDirection) (sequence : UInt32)
    (flags : UInt8) (payload : List UInt8) : TcpReassemblyDirection × TcpReassemblyResult :=
  if state.unusable then
    (state, .dropped)
  else
    absorbSegment (learnBaseline (tcpReassemblyTrackFlags state flags) sequence flags)
      (payloadSequence sequence flags) flags payload

end MiniSniffer
