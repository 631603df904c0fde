import MiniSniffer.Foundation.BoundedQueue
import MiniSniffer.Tcp.StreamBuffer

/-!
Contract: a stream buffer is a bounded queue of bytes.

Owns runs of calls on an initialised buffer and their meaning: along every run each call answers as
on a queue of the buffer's capacity, and the readable window is that queue. When the front of the
store is reclaimed cannot be observed.

Does not own what is appended: see `Tcp.Reassembly`.
-/

namespace MiniSniffer

open Foundation

/-! ### Calls -/

/-- The calls on a buffer with all their arguments; data may be a null pointer with any length. -/
inductive BufferCall where
  | append (bytes : List UInt8)
  | appendNull (count : Nat)
  | consume (count : Nat)
  | clear
deriving DecidableEq, Repr

/-- `stream_buffer_append` of a null pointer: only no bytes at all can be taken from there. -/
def streamBufferAppendNull (buffer : StreamBuffer) (count : Nat) : Bool :=
  if buffer.data = none then false else count = 0

/-- What the caller sees of a call: what it returned, and the window that is readable then. -/
structure BufferAnswer where
  returned : Option Bool
  data : Option (List UInt8)
  length : Nat
deriving DecidableEq, Repr

/-- The buffer after a call and what the call returns. -/
def bufferCall (buffer : StreamBuffer) : BufferCall → StreamBuffer × Option Bool
  | .append bytes =>
      let appended := streamBufferAppend buffer bytes
      (appended.1, some appended.2)
  | .appendNull count => (buffer, some (streamBufferAppendNull buffer count))
  | .consume count => (streamBufferConsume buffer count, none)
  | .clear => (streamBufferClear buffer, none)

def bufferCalls : Machine StreamBuffer BufferCall BufferAnswer where
  step buffer call :=
    let called := bufferCall buffer call
    (called.1, ⟨called.2, streamBufferData called.1, streamBufferLength called.1⟩)

/-! ### The queue -/

/-- The queue's window: its bytes, and no pointer when there are none. -/
def queueWindow (bytes : List UInt8) : Option (List UInt8) :=
  if bytes = [] then none else some bytes

def queueCall {capacity : Nat} (queue : BoundedQueue UInt8 capacity) :
    BufferCall → BoundedQueue UInt8 capacity × Option Bool
  | .append bytes =>
      let appended := queue.append bytes
      (appended.1, some appended.2)
  | .appendNull count => (queue, some (count = 0))
  | .consume count => (queue.consume count, none)
  | .clear => (.empty, none)

def queueCalls (capacity : Nat) :
    Machine (BoundedQueue UInt8 capacity) BufferCall BufferAnswer where
  step queue call :=
    let called := queueCall queue call
    (called.1, ⟨called.2, queueWindow called.1.elements, called.1.elements.length⟩)

/-! ### Refinement -/

/-- The buffer keeps the queue in its store. -/
structure KeepsQueue {capacity : Nat} (queue : BoundedQueue UInt8 capacity)
    (buffer : StreamBuffer) : Prop where
  valid : buffer.Valid
  capacity_eq : buffer.capacity = capacity
  readable_eq : buffer.readable = queue.elements

section Refinement

variable {capacity : Nat} {queue : BoundedQueue UInt8 capacity} {buffer : StreamBuffer}

theorem KeepsQueue.window (keeps : KeepsQueue queue buffer) :
    streamBufferData buffer = queueWindow queue.elements ∧
      streamBufferLength buffer = queue.elements.length := by
  rw [StreamBuffer.streamBufferData_eq, StreamBuffer.streamBufferLength_eq, keeps.readable_eq]
  exact ⟨rfl, rfl⟩

/-- Every call returns what it returns on the queue, and keeps the queue. -/
theorem bufferCall_queue (keeps : KeepsQueue queue buffer) (call : BufferCall) :
    (bufferCall buffer call).2 = (queueCall queue call).2 ∧
      KeepsQueue (queueCall queue call).1 (bufferCall buffer call).1 := by
  cases call with
  | append bytes =>
      obtain ⟨valid, capacityEq, returned, readable⟩ :=
        StreamBuffer.streamBufferAppend_spec keeps.valid bytes
      rw [keeps.readable_eq, keeps.capacity_eq] at returned readable
      exact ⟨congrArg some (returned.trans (queue.append_accepts bytes).symm), valid,
        capacityEq.trans keeps.capacity_eq, readable.trans (queue.elements_append bytes).symm⟩
  | appendNull count =>
      exact ⟨congrArg some (if_neg keeps.valid.allocated), keeps⟩
  | consume count =>
      obtain ⟨valid, capacityEq, readable⟩ :=
        StreamBuffer.streamBufferConsume_spec keeps.valid count
      rw [keeps.readable_eq] at readable
      exact ⟨rfl, valid, capacityEq.trans keeps.capacity_eq, readable⟩
  | clear =>
      obtain ⟨valid, capacityEq, readable⟩ := StreamBuffer.streamBufferClear_spec keeps.valid
      exact ⟨rfl, valid, capacityEq.trans keeps.capacity_eq, readable⟩

theorem bufferCalls_related (queue : BoundedQueue UInt8 capacity) (buffer : StreamBuffer)
    (call : BufferCall) (keeps : KeepsQueue queue buffer) :
    bufferCalls.output buffer call = (queueCalls capacity).output queue call ∧
      KeepsQueue ((queueCalls capacity).next queue call) (bufferCalls.next buffer call) := by
  obtain ⟨returned, kept⟩ := bufferCall_queue keeps call
  obtain ⟨data, length⟩ := kept.window
  refine ⟨?_, kept⟩
  show BufferAnswer.mk _ _ _ = BufferAnswer.mk _ _ _
  rw [returned, data, length]

/-- Along every run of calls on an initialised buffer, each call answers as on the bounded queue;
the readable window is the queue, and the fields are in order. -/
theorem streamBuffer_refines_queue {initial : StreamBuffer}
    (initialized : streamBufferInit capacity = some initial) (calls : List BufferCall) :
    let queue := (queueCalls capacity).run .empty calls
    let buffer := bufferCalls.run initial calls
    bufferCalls.outputs initial calls = (queueCalls capacity).outputs .empty calls ∧
      streamBufferData buffer = queueWindow queue.elements ∧
      streamBufferLength buffer = queue.elements.length ∧
      buffer.consumed ≤ buffer.length ∧ buffer.length ≤ buffer.capacity := by
  obtain ⟨valid, readable, capacityEq, -⟩ := StreamBuffer.streamBufferInit_valid initialized
  have start : KeepsQueue (.empty : BoundedQueue UInt8 capacity) initial :=
    ⟨valid, capacityEq, readable⟩
  obtain ⟨answers, keeps⟩ := Machine.related_runs bufferCalls_related start calls
  exact ⟨answers, keeps.window.1, keeps.window.2, keeps.valid.consumed_le, keeps.valid.length_le⟩

/-- Three bytes, one of them read, then two more and two that do not fit. -/
theorem streamBuffer_refines_queue_reclaimed :
    ∃ initial, streamBufferInit 4 = some initial ∧
      bufferCalls.outputs initial [.append [1, 2, 3], .consume 1, .append [4, 5], .append [6, 7]] =
        (queueCalls 4).outputs .empty
          [.append [1, 2, 3], .consume 1, .append [4, 5], .append [6, 7]] :=
  ⟨_, rfl, (streamBuffer_refines_queue rfl _).1⟩

end Refinement

end MiniSniffer
