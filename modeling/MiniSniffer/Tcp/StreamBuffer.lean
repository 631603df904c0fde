import Mathlib.Data.List.Basic

/-!
Contract: the bounded byte window of one flow direction (`src/stream_buffer.c`).

Owns the buffer operations and their meaning on the readable window: append adds
its bytes at the end when the result fits the capacity and otherwise changes
nothing readable, consume drops from the front, clear empties.

`data` holds the bytes written so far, so the source's `length` is the length of
that list; bytes past it are never read before they are written. A `NULL`
backing store is `none`. Allocation succeeds.

Does not own sequence numbers or segments.
-/

namespace MiniSniffer

structure StreamBuffer where
  data : Option (List UInt8) := none
  consumed : Nat := 0
  capacity : Nat := 0
deriving DecidableEq, Repr

namespace StreamBuffer

/-- The `length` field: how many bytes the backing store holds. -/
def length (buffer : StreamBuffer) : Nat := (buffer.data.getD []).length

/-- The unread bytes. -/
def readable (buffer : StreamBuffer) : List UInt8 :=
  (buffer.data.getD []).drop buffer.consumed

end StreamBuffer

/-! ### Operations -/

def compactBuffer (buffer : StreamBuffer) : StreamBuffer :=
  if buffer.consumed = 0 then
    buffer
  else if buffer.consumed ≥ buffer.length then
    { buffer with data := buffer.data.map fun _ => [], consumed := 0 }
  else
    { buffer with data := buffer.data.map (·.drop buffer.consumed), consumed := 0 }

def streamBufferInit (capacity : Nat) : Option StreamBuffer :=
  if capacity = 0 then none else some { data := some [], consumed := 0, capacity := capacity }

def streamBufferCleanup (_ : StreamBuffer) : StreamBuffer := {}

/-- Compacts at most once, then refuses what still does not fit. -/
def streamBufferAppend (buffer : StreamBuffer) (bytes : List UInt8) : StreamBuffer × Bool :=
  if buffer.data = none then
    (buffer, false)
  else if bytes.length = 0 then
    (buffer, true)
  else if bytes.length > buffer.capacity then
    (buffer, false)
  else
    let compacted :=
      if bytes.length > buffer.capacity - buffer.length then compactBuffer buffer else buffer
    if bytes.length > compacted.capacity - compacted.length then
      (compacted, false)
    else
      ({ compacted with data := compacted.data.map (· ++ bytes) }, true)

/-- Length of the readable window. -/
def streamBufferLength (buffer : StreamBuffer) : Nat :=
  if buffer.consumed ≥ buffer.length then 0 else buffer.length - buffer.consumed

/-- The readable window; `none` is the `NULL` of a missing or fully read store. -/
def streamBufferData (buffer : StreamBuffer) : Option (List UInt8) :=
  match buffer.data with
  | none => none
  | some bytes =>
      if buffer.consumed ≥ buffer.length then none else some (bytes.drop buffer.consumed)

def streamBufferConsume (buffer : StreamBuffer) (count : Nat) : StreamBuffer :=
  if count ≥ streamBufferLength buffer then
    { buffer with data := buffer.data.map fun _ => [], consumed := 0 }
  else
    let advanced := { buffer with consumed := buffer.consumed + count }
    if advanced.consumed > advanced.capacity / 2 then compactBuffer advanced else advanced

def streamBufferClear (buffer : StreamBuffer) : StreamBuffer :=
  { buffer with data := buffer.data.map fun _ => [], consumed := 0 }

/-! ### The readable window -/

namespace StreamBuffer

/-- An allocated buffer with `consumed ≤ length ≤ capacity`. -/
structure Valid (buffer : StreamBuffer) : Prop where
  allocated : buffer.data ≠ none
  consumed_le : buffer.consumed ≤ buffer.length
  length_le : buffer.length ≤ buffer.capacity

theorem length_readable (buffer : StreamBuffer) :
    buffer.readable.length = buffer.length - buffer.consumed := by
  simp [readable, length]

theorem streamBufferLength_eq (buffer : StreamBuffer) :
    streamBufferLength buffer = buffer.readable.length := by
  rw [streamBufferLength, length_readable]
  split <;> omega

/-- The pointer that decoders get denotes the readable bytes, and is `NULL` exactly when there
are none. -/
theorem streamBufferData_eq (buffer : StreamBuffer) :
    streamBufferData buffer = if buffer.readable = [] then none else some buffer.readable := by
  cases stored : buffer.data with
  | none => simp [streamBufferData, readable, stored]
  | some bytes =>
      by_cases spent : bytes.length ≤ buffer.consumed
      · simp [streamBufferData, readable, length, stored, spent]
      · simp [streamBufferData, readable, length, stored, spent]

theorem streamBufferInit_valid {capacity : Nat} {buffer : StreamBuffer}
    (initialized : streamBufferInit capacity = some buffer) :
    buffer.Valid ∧ buffer.readable = [] ∧ buffer.capacity = capacity ∧ 0 < capacity := by
  unfold streamBufferInit at initialized
  split at initialized
  next => contradiction
  next positive =>
    obtain rfl := Option.some.inj initialized
    exact ⟨⟨by simp, by simp, by simp [length]⟩, rfl, rfl, by omega⟩

theorem compactBuffer_spec {buffer : StreamBuffer} (valid : buffer.Valid) :
    (compactBuffer buffer).Valid ∧ (compactBuffer buffer).readable = buffer.readable ∧
      (compactBuffer buffer).capacity = buffer.capacity ∧
      (compactBuffer buffer).length = buffer.readable.length := by
  obtain ⟨bytes, stored⟩ := Option.ne_none_iff_exists'.mp valid.allocated
  have consumedLe := valid.consumed_le
  have lengthLe := valid.length_le
  simp only [length, stored, Option.getD_some] at consumedLe lengthLe
  unfold compactBuffer
  split_ifs with unread spent
  · exact ⟨valid, rfl, rfl, by simp [length_readable, unread]⟩
  · have all : bytes.length = buffer.consumed := by
      simp only [length, stored, Option.getD_some] at spent
      omega
    refine ⟨⟨by simp [stored], by simp, by simp [length, stored]⟩, ?_, rfl, ?_⟩
    · simp [readable, stored, ← all]
    · simp [readable, length, stored, ← all]
  · refine ⟨⟨by simp [stored], by simp, ?_⟩, ?_, rfl, ?_⟩
    · simp only [length, stored, Option.map_some, Option.getD_some, List.length_drop]
      omega
    · simp [readable, stored]
    · simp [length, readable, stored]

/-- Append succeeds exactly when the readable bytes and the new ones fit together, and then adds
the new ones at the end; a refusal changes nothing readable. -/
theorem streamBufferAppend_spec {buffer : StreamBuffer} (valid : buffer.Valid)
    (bytes : List UInt8) :
    (streamBufferAppend buffer bytes).1.Valid ∧
      (streamBufferAppend buffer bytes).1.capacity = buffer.capacity ∧
      (streamBufferAppend buffer bytes).2 =
        decide (buffer.readable.length + bytes.length ≤ buffer.capacity) ∧
      (streamBufferAppend buffer bytes).1.readable =
        if buffer.readable.length + bytes.length ≤ buffer.capacity then buffer.readable ++ bytes
        else buffer.readable := by
  have windowLe : buffer.readable.length ≤ buffer.capacity := by
    rw [length_readable]
    exact Nat.le_trans (Nat.sub_le _ _) valid.length_le
  unfold streamBufferAppend
  rw [if_neg valid.allocated]
  by_cases empty : bytes.length = 0
  · obtain rfl := List.length_eq_zero_iff.mp empty
    simp [valid, windowLe]
  by_cases oversize : bytes.length > buffer.capacity
  · rw [if_neg empty, if_pos oversize, if_neg (by omega)]
    exact ⟨valid, rfl, by rw [decide_eq_false (by omega)], rfl⟩
  rw [if_neg empty, if_neg oversize]
  -- Whether or not the front is reclaimed, the store that takes the bytes reads the same.
  obtain ⟨store, storeEq, storeValid, storeReadable, storeCapacity, tight⟩ :
      ∃ store, (if bytes.length > buffer.capacity - buffer.length then compactBuffer buffer
          else buffer) = store ∧ store.Valid ∧ store.readable = buffer.readable ∧
        store.capacity = buffer.capacity ∧
        (bytes.length > store.capacity - store.length ↔
          ¬ buffer.readable.length + bytes.length ≤ buffer.capacity) := by
    obtain ⟨compactValid, compactReadable, compactCapacity, compactLength⟩ :=
      compactBuffer_spec valid
    have lengthLe := valid.length_le
    split_ifs with full
    · refine ⟨_, rfl, compactValid, compactReadable, compactCapacity, ?_⟩
      rw [compactCapacity, compactLength]
      omega
    · refine ⟨_, rfl, valid, rfl, rfl, ?_⟩
      rw [length_readable]
      omega
  simp only [storeEq]
  by_cases fits : buffer.readable.length + bytes.length ≤ buffer.capacity
  · rw [if_neg (by rw [tight]; exact not_not_intro fits)]
    obtain ⟨held, stored⟩ := Option.ne_none_iff_exists'.mp storeValid.allocated
    have consumedLe := storeValid.consumed_le
    have lengthLe := storeValid.length_le
    have room : ¬ bytes.length > store.capacity - store.length := by
      rw [tight]
      exact not_not_intro fits
    refine ⟨⟨by simp [stored], ?_, ?_⟩, storeCapacity, by rw [decide_eq_true fits], ?_⟩
    · simp only [length, stored, Option.map_some, Option.getD_some, List.length_append] at *
      omega
    · simp only [length, stored, Option.map_some, Option.getD_some, List.length_append] at *
      omega
    · rw [if_pos fits, ← storeReadable]
      simp only [length, stored, Option.getD_some] at consumedLe
      simp [readable, stored, List.drop_append_of_le_length consumedLe]
  · rw [if_pos (tight.mpr fits), if_neg fits]
    exact ⟨storeValid, storeCapacity, by rw [decide_eq_false fits], storeReadable⟩

theorem streamBufferClear_spec {buffer : StreamBuffer} (valid : buffer.Valid) :
    (streamBufferClear buffer).Valid ∧ (streamBufferClear buffer).capacity = buffer.capacity ∧
      (streamBufferClear buffer).readable = [] := by
  obtain ⟨bytes, stored⟩ := Option.ne_none_iff_exists'.mp valid.allocated
  refine ⟨⟨?_, ?_, ?_⟩, rfl, ?_⟩
  · simp [streamBufferClear, stored]
  · simp [streamBufferClear]
  · simp [streamBufferClear, length, stored]
  · simp [streamBufferClear, readable, stored]

/-- Consume drops from the front, whether or not it reclaims the space. -/
theorem streamBufferConsume_spec {buffer : StreamBuffer} (valid : buffer.Valid) (count : Nat) :
    (streamBufferConsume buffer count).Valid ∧
      (streamBufferConsume buffer count).capacity = buffer.capacity ∧
      (streamBufferConsume buffer count).readable = buffer.readable.drop count := by
  unfold streamBufferConsume
  rw [streamBufferLength_eq]
  by_cases everything : count ≥ buffer.readable.length
  · rw [if_pos everything, List.drop_eq_nil_of_le everything]
    exact streamBufferClear_spec valid
  · rw [if_neg everything]
    extract_lets advanced
    have advancedValid : advanced.Valid := by
      rw [length_readable] at everything
      refine ⟨valid.allocated, ?_, valid.length_le⟩
      show buffer.consumed + count ≤ buffer.length
      omega
    have advancedReadable : advanced.readable = buffer.readable.drop count :=
      List.drop_drop.symm
    split_ifs with far
    · obtain ⟨compactValid, compactReadable, compactCapacity, -⟩ :=
        compactBuffer_spec advancedValid
      exact ⟨compactValid, compactCapacity, compactReadable.trans advancedReadable⟩
    · exact ⟨advancedValid, rfl, advancedReadable⟩

end StreamBuffer

end MiniSniffer
