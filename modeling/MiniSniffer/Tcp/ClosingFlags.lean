import MiniSniffer.Tcp.Reassembly

/-!
Contract: what a segment does to a direction's FIN and RST facts.

Owns the two facts as one family and the frame of segment processing: the store,
the stream and the sequence state move, the facts do not, and an allocated stream
stays allocated. What is recorded is decided before any of that, by the segment's
flags and by whether the direction is still usable.

Does not own which segments reach a direction: see `Capture.FlagTracking`.
-/

namespace MiniSniffer

/-- The two flags that close a connection. -/
inductive ClosingFlag where
  | fin
  | rst
deriving DecidableEq, Repr

namespace ClosingFlag

def mask : ClosingFlag → UInt8
  | fin => tcpFlagFin
  | rst => tcpFlagRst

/-- `fin_seen` or `rst_seen`. -/
def seen (flag : ClosingFlag) (state : TcpReassemblyDirection) : Bool :=
  match flag with
  | fin => state.finSeen
  | rst => state.rstSeen

/-- The segment carries the flag. -/
def carried (flag : ClosingFlag) (flags : UInt8) : Bool := hasFlag flags flag.mask

end ClosingFlag

/-- The closing facts are the same and the stream is allocated on both sides or on neither. -/
structure SameFacts (before after : TcpReassemblyDirection) : Prop where
  seen_eq : ∀ flag : ClosingFlag, flag.seen after = flag.seen before
  allocated_iff : after.stream.data = none ↔ before.stream.data = none

namespace SameFacts

variable {first second third : TcpReassemblyDirection}

theorem refl (state : TcpReassemblyDirection) : SameFacts state state := ⟨fun _ => rfl, Iff.rfl⟩

theorem trans (left : SameFacts first second) (right : SameFacts second third) :
    SameFacts first third :=
  ⟨fun flag => (right.seen_eq flag).trans (left.seen_eq flag),
    right.allocated_iff.trans left.allocated_iff⟩

/-- Updates of other fields. -/
theorem of_fields (fin : second.finSeen = first.finSeen) (rst : second.rstSeen = first.rstSeen)
    (stream : second.stream = first.stream) : SameFacts first second := by
  refine ⟨fun flag => ?_, by rw [stream]⟩
  cases flag
  · exact fin
  · exact rst

/-- An operation run on a state with other fields updated first. -/
theorem after_update (rest : SameFacts second third) (fin : second.finSeen = first.finSeen)
    (rst : second.rstSeen = first.rstSeen) (stream : second.stream = first.stream) :
    SameFacts first third :=
  (of_fields fin rst stream).trans rest

end SameFacts

theorem streamBufferAppend_allocated (buffer : StreamBuffer) (bytes : List UInt8) :
    (streamBufferAppend buffer bytes).1.data = none ↔ buffer.data = none := by
  have compacted : (compactBuffer buffer).data = none ↔ buffer.data = none := by
    unfold compactBuffer
    split_ifs <;> simp
  simp only [streamBufferAppend]
  split_ifs <;> simp_all

section Frame

variable (state : TcpReassemblyDirection)

theorem appendStreamData_facts (bytes : List UInt8) :
    SameFacts state (appendStreamData state bytes).1 :=
  ⟨fun flag => by cases flag <;> rfl, streamBufferAppend_allocated state.stream bytes⟩

theorem appendStreamBestEffort_facts (bytes : List UInt8) :
    SameFacts state (appendStreamBestEffort state bytes).1 := by
  simp only [appendStreamBestEffort]
  split_ifs
  · exact SameFacts.refl state
  · exact appendStreamData_facts state _
  · exact appendStreamData_facts state _
  · exact SameFacts.refl state
  · exact appendStreamData_facts state _
  · exact appendStreamData_facts state _

theorem removePendingAt_facts (index : Nat) : SameFacts state (removePendingAt state index) := by
  unfold removePendingAt
  split <;> exact SameFacts.of_fields rfl rfl rfl

theorem countOverlap_facts (trim : Nat) : SameFacts state (countOverlap state trim) := by
  unfold countOverlap
  split <;> exact SameFacts.of_fields rfl rfl rfl

theorem flushSegment_facts (index : Nat) (segment : TcpOutOfOrderSegment) :
    SameFacts state (flushSegment state index segment).1 := by
  simp only [flushSegment]
  split_ifs
  · exact (removePendingAt_facts _ index).after_update rfl rfl rfl
  · exact ((countOverlap_facts state _).trans (appendStreamData_facts _ _)).trans
      ((removePendingAt_facts _ index).after_update rfl rfl rfl)
  · exact ((countOverlap_facts state _).trans (appendStreamData_facts _ _)).trans
      (SameFacts.of_fields rfl rfl rfl)

theorem flushLoop_facts (passes : Nat) : SameFacts state (flushLoop passes state).1 := by
  induction passes generalizing state with
  | zero => exact SameFacts.refl state
  | succ passes inductionHypothesis =>
      rw [flushLoop]
      split
      · exact SameFacts.refl state
      next index _ =>
        split
        · exact SameFacts.refl state
        next segment _ =>
          have step := flushSegment_facts state index segment
          split
          next flushed flushedEq =>
            rw [flushedEq] at step
            exact step.trans (inductionHypothesis flushed)
          next flushed flushedEq =>
            rw [flushedEq] at step
            exact step

theorem learnBaseline_facts (sequence : UInt32) (flags : UInt8) :
    SameFacts state (learnBaseline state sequence flags) := by
  unfold learnBaseline
  split <;> exact SameFacts.of_fields rfl rfl rfl

theorem storeOutOfOrderSegment_facts {sequence : UInt32} {payload : List UInt8}
    {stored : TcpReassemblyDirection}
    (accepted : storeOutOfOrderSegment state sequence payload = some stored) :
    SameFacts state stored := by
  obtain ⟨-, -, -, -, rfl⟩ := storeOutOfOrderSegment_some accepted
  exact SameFacts.of_fields rfl rfl rfl

theorem appendInOrder_facts (dataSequence : UInt32) (flags : UInt8) (payload : List UInt8) :
    SameFacts state (appendInOrder state dataSequence flags payload).1 := by
  have stored := appendStreamBestEffort_facts state payload
  simp only [appendInOrder]
  split
  · exact stored.trans (SameFacts.of_fields rfl rfl rfl)
  · split <;>
      next equal =>
        have flushed := congrArg Prod.fst equal
        dsimp only at flushed
        rw [← flushed]
        exact stored.trans ((flushLoop_facts _ _).after_update rfl rfl rfl)

theorem absorbSegment_facts (dataSequence : UInt32) (flags : UInt8) (payload : List UInt8) :
    SameFacts state (absorbSegment state dataSequence flags payload).1 := by
  unfold absorbSegment
  split_ifs
  · exact SameFacts.of_fields rfl rfl rfl
  · exact SameFacts.refl state
  · exact SameFacts.of_fields rfl rfl rfl
  · simp only [placeSegment]
    split_ifs
    · exact SameFacts.of_fields rfl rfl rfl
    · split
      · exact SameFacts.of_fields rfl rfl rfl
      next stored accepted =>
        exact (storeOutOfOrderSegment_facts _ accepted).after_update rfl rfl rfl
    · exact SameFacts.of_fields rfl rfl rfl
    · exact (appendInOrder_facts _ _ _ _).after_update rfl rfl rfl
    · exact appendInOrder_facts _ _ _ _

end Frame

/-! ### What is recorded -/

section Recorded

variable (flag : ClosingFlag) (state : TcpReassemblyDirection) (sequence : UInt32) (flags : UInt8)
variable (payload : List UInt8)

@[simp] theorem seen_trackFlags :
    flag.seen (tcpReassemblyTrackFlags state flags) = (flag.seen state || flag.carried flags) := by
  cases flag <;> rfl

@[simp] theorem seen_releaseBuffers :
    flag.seen (tcpReassemblyDirectionReleaseBuffers state) = flag.seen state := by
  cases flag <;> rfl

/-- A usable direction records the segment's flags, an unusable one changes nothing. -/
theorem seen_processSegment :
    flag.seen (tcpReassemblyProcessSegment state sequence flags payload).1 =
      (flag.seen state || (!state.unusable && flag.carried flags)) := by
  unfold tcpReassemblyProcessSegment
  split_ifs with unusable
  · simp [unusable]
  · rw [(absorbSegment_facts _ _ _ _).seen_eq, (learnBaseline_facts _ _ _).seen_eq,
      seen_trackFlags]
    simp [unusable]

theorem allocated_processSegment :
    (tcpReassemblyProcessSegment state sequence flags payload).1.stream.data = none ↔
      state.stream.data = none := by
  unfold tcpReassemblyProcessSegment
  split_ifs
  · rfl
  · rw [(absorbSegment_facts _ _ _ _).allocated_iff, (learnBaseline_facts _ _ _).allocated_iff]
    rfl

/-- A fresh direction has seen nothing and is usable. -/
theorem tcpReassemblyDirectionInit_eq {streamBufferBytes : Nat}
    (positive : 0 < streamBufferBytes) :
    tcpReassemblyDirectionInit streamBufferBytes =
      some { stream := { data := some [], capacity := streamBufferBytes },
             pendingByteCap := streamBufferBytes } := by
  simp [tcpReassemblyDirectionInit, streamBufferInit, Nat.pos_iff_ne_zero.mp positive]

end Recorded

end MiniSniffer
