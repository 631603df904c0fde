import MiniSniffer.Foundation.ByteOrder

/-!
Contract: reads that fail past the end of a buffer.

Owns the reads of a byte, of a word and of a run of bytes, each with its bound checked, and that a
read inside the buffer returns what is there.

Does not own which reads a program makes.
-/

namespace MiniSniffer.Foundation

def checkedByte (packet : List UInt8) (index : Nat) : Option UInt8 := packet[index]?

def checkedU16 (packet : List UInt8) (offset : Nat) : Option UInt16 := do
  let high ← checkedByte packet offset
  let low ← checkedByte packet (offset + 1)
  return joinBytes high low

/-- Bytes handed on as a pointer that is read for `length` bytes. -/
def checkedBytes (packet : List UInt8) (offset length : Nat) : Option (List UInt8) :=
  if offset + length ≤ packet.length then some ((packet.drop offset).take length) else none

def checkedU32 (packet : List UInt8) (offset : Nat) : Option UInt32 := do
  let word ← checkedBytes packet offset 4
  return readU32 word 0

section Reads

variable {packet : List UInt8} {index offset length : Nat}

/-- A read that succeeds goes on with its value. -/
theorem checked_bind {α β : Type} (value : α) (next : α → Option β) :
    (some value >>= next) = next value := rfl

theorem checkedByte_inside (inside : index < packet.length) :
    checkedByte packet index = some (byteAt packet index) := by
  rw [checkedByte, byteAt, List.getD_eq_getElem?_getD, List.getElem?_eq_getElem inside]
  rfl

theorem checkedU16_inside (inside : offset + 1 < packet.length) :
    checkedU16 packet offset = some (readU16 packet offset) := by
  rw [checkedU16, checkedByte_inside (by omega), checkedByte_inside inside]
  rfl

theorem checkedBytes_inside (inside : offset + length ≤ packet.length) :
    checkedBytes packet offset length = some ((packet.drop offset).take length) := if_pos inside

theorem readU32_slice (packet : List UInt8) (offset : Nat) :
    readU32 ((packet.drop offset).take 4) 0 = readU32 packet offset := by
  rw [readU32_take (by omega)]
  simp only [readU32, byteAt, List.getD_eq_getElem?_getD, List.getElem?_drop, Nat.add_zero,
    Nat.zero_add]

theorem checkedU32_inside (inside : offset + 4 ≤ packet.length) :
    checkedU32 packet offset = some (readU32 packet offset) := by
  rw [checkedU32, checkedBytes_inside inside, ← readU32_slice]
  rfl

end Reads

end MiniSniffer.Foundation
