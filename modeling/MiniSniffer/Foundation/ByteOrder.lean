import Mathlib.Data.List.Basic
import Mathlib.Data.List.TakeWhile
import Mathlib.Data.Nat.Bitwise

/-!
Contract: bytes, network-order words and the text of C character arrays.

Owns reads and writes of big-endian words at an offset of a byte string, the law
that reading back a written word returns it, and the small text functions that
fixed-size character arrays need: the string a C reader sees, truncation to an
array's size, and hexadecimal and decimal digits.

Does not own any packet or message format.
-/

namespace MiniSniffer.Foundation

/-! ### Words -/

/-- `data[index]`; a position past the end reads as zero. -/
def byteAt (data : List UInt8) (index : Nat) : UInt8 := data.getD index 0

/-- `(high << 8) | low`. -/
def joinBytes (high low : UInt8) : UInt16 := (high.toUInt16 <<< 8) ||| low.toUInt16

def readU16 (data : List UInt8) (offset : Nat) : UInt16 :=
  joinBytes (byteAt data offset) (byteAt data (offset + 1))

def readU32 (data : List UInt8) (offset : Nat) : UInt32 :=
  ((byteAt data offset).toUInt32 <<< 24) ||| ((byteAt data (offset + 1)).toUInt32 <<< 16) |||
    ((byteAt data (offset + 2)).toUInt32 <<< 8) ||| (byteAt data (offset + 3)).toUInt32

def highByte (value : UInt16) : UInt8 := (value >>> 8).toUInt8

def lowByte (value : UInt16) : UInt8 := value.toUInt8

/-- Overwrites two bytes in place. -/
def writeU16 (data : List UInt8) (offset : Nat) (value : UInt16) : List UInt8 :=
  (data.set offset (highByte value)).set (offset + 1) (lowByte value)

section Words

theorem toNat_joinBytes (high low : UInt8) :
    (joinBytes high low).toNat = high.toNat * 256 + low.toNat := by
  have highSmall : high.toNat < 2 ^ 8 := high.toNat_lt
  have lowSmall : low.toNat < 2 ^ 8 := low.toNat_lt
  have shifted : high.toNat <<< 8 % 2 ^ 16 = high.toNat <<< 8 := by
    rw [Nat.mod_eq_of_lt]
    rw [Nat.shiftLeft_eq]
    omega
  rw [joinBytes, UInt16.toNat_or, UInt16.toNat_shiftLeft, UInt8.toNat_toUInt16,
    UInt8.toNat_toUInt16]
  change high.toNat <<< 8 % 2 ^ 16 ||| low.toNat = _
  rw [shifted, ← Nat.shiftLeft_add_eq_or_of_lt lowSmall, Nat.shiftLeft_eq]

theorem toNat_highByte (value : UInt16) : (highByte value).toNat = value.toNat / 256 := by
  have small : value.toNat < 2 ^ 16 := value.toNat_lt
  rw [highByte, UInt16.toNat_toUInt8, UInt16.toNat_shiftRight]
  change value.toNat >>> 8 % 2 ^ 8 = _
  rw [Nat.shiftRight_eq_div_pow]
  omega

theorem toNat_lowByte (value : UInt16) : (lowByte value).toNat = value.toNat % 256 := by
  rw [lowByte, UInt16.toNat_toUInt8]

@[simp] theorem joinBytes_highByte_lowByte (value : UInt16) :
    joinBytes (highByte value) (lowByte value) = value := by
  apply UInt16.toNat_inj.mp
  rw [toNat_joinBytes, toNat_highByte, toNat_lowByte]
  omega

@[simp] theorem length_writeU16 (data : List UInt8) (offset : Nat) (value : UInt16) :
    (writeU16 data offset value).length = data.length := by
  simp [writeU16]

theorem byteAt_append_left {data : List UInt8} (extra : List UInt8) {index : Nat}
    (inside : index < data.length) : byteAt (data ++ extra) index = byteAt data index := by
  simp only [byteAt, List.getD_eq_getElem?_getD, List.getElem?_append_left inside]

/-- Trailing zeros read as what lies past the end. -/
theorem byteAt_append_zeros (data : List UInt8) (count index : Nat) :
    byteAt (data ++ List.replicate count 0) index = byteAt data index := by
  by_cases inside : index < data.length
  · exact byteAt_append_left _ inside
  · rw [byteAt, byteAt, List.getD_eq_getElem?_getD, List.getD_eq_getElem?_getD,
      List.getElem?_append_right (Nat.le_of_not_lt inside), List.getElem?_replicate,
      List.getElem?_eq_none (Nat.le_of_not_lt inside)]
    split <;> rfl

/-- A byte that arrives late was read as zero before. -/
theorem byteAt_le_append (data extra : List UInt8) (index : Nat) :
    (byteAt data index).toNat ≤ (byteAt (data ++ extra) index).toNat := by
  by_cases inside : index < data.length
  · rw [byteAt_append_left extra inside]
  · rw [byteAt, List.getD_eq_getElem?_getD, List.getElem?_eq_none (Nat.le_of_not_lt inside)]
    exact Nat.zero_le _

theorem length_of_byteAt {data : List UInt8} {index : Nat} (present : byteAt data index ≠ 0) :
    index < data.length := by
  by_contra outside
  apply present
  rw [byteAt, List.getD_eq_getElem?_getD, List.getElem?_eq_none (Nat.le_of_not_lt outside)]
  rfl

theorem readU16_append_zeros (data : List UInt8) (count offset : Nat) :
    readU16 (data ++ List.replicate count 0) offset = readU16 data offset := by
  rw [readU16, byteAt_append_zeros, byteAt_append_zeros]
  rfl

theorem byteAt_append_right (before data : List UInt8) (index : Nat) :
    byteAt (before ++ data) (before.length + index) = byteAt data index := by
  rw [byteAt, byteAt, List.getD_eq_getElem?_getD, List.getD_eq_getElem?_getD,
    List.getElem?_append_right (Nat.le_add_right _ _), Nat.add_sub_cancel_left]

theorem readU16_append_right (before data : List UInt8) (offset : Nat) :
    readU16 (before ++ data) (before.length + offset) = readU16 data offset := by
  rw [readU16, readU16, Nat.add_assoc, byteAt_append_right, byteAt_append_right]

theorem byteAt_take {data : List UInt8} {length index : Nat} (inside : index < length) :
    byteAt (data.take length) index = byteAt data index := by
  simp only [byteAt, List.getD_eq_getElem?_getD, List.getElem?_take_of_lt inside]

theorem readU16_take {data : List UInt8} {length offset : Nat} (inside : offset + 1 < length) :
    readU16 (data.take length) offset = readU16 data offset := by
  rw [readU16, readU16, byteAt_take (by omega), byteAt_take inside]

theorem readU32_take {data : List UInt8} {length offset : Nat} (inside : offset + 3 < length) :
    readU32 (data.take length) offset = readU32 data offset := by
  rw [readU32, readU32, byteAt_take (by omega), byteAt_take (by omega), byteAt_take (by omega),
    byteAt_take inside]

theorem readU16_append_left {data : List UInt8} (extra : List UInt8) {offset : Nat}
    (inside : offset + 1 < data.length) : readU16 (data ++ extra) offset = readU16 data offset := by
  rw [readU16, readU16, byteAt_append_left extra (by omega), byteAt_append_left extra inside]

theorem readU16_writeU16 {data : List UInt8} {offset : Nat} (value : UInt16)
    (inside : offset + 1 < data.length) : readU16 (writeU16 data offset value) offset = value := by
  have high : byteAt (writeU16 data offset value) offset = highByte value := by
    rw [byteAt, writeU16, List.getD_eq_getElem?_getD, List.getElem?_set_ne (by omega),
      List.getElem?_set_self (by omega)]
    rfl
  have low : byteAt (writeU16 data offset value) (offset + 1) = lowByte value := by
    rw [byteAt, writeU16, List.getD_eq_getElem?_getD,
      List.getElem?_set_self (by simpa using inside)]
    rfl
  rw [readU16, high, low, joinBytes_highByte_lowByte]

theorem writeU16_append_left {data : List UInt8} (extra : List UInt8) {offset : Nat}
    (value : UInt16) (inside : offset + 1 < data.length) :
    writeU16 (data ++ extra) offset value = writeU16 data offset value ++ extra := by
  rw [writeU16, writeU16, List.set_append_left _ _ (by omega),
    List.set_append_left _ _ (by simpa using inside)]

theorem byteAt_writeU16_apart {data : List UInt8} {offset index : Nat} (value : UInt16)
    (notHigh : index ≠ offset) (notLow : index ≠ offset + 1) :
    byteAt (writeU16 data offset value) index = byteAt data index := by
  rw [byteAt, byteAt, writeU16, List.getD_eq_getElem?_getD, List.getD_eq_getElem?_getD,
    List.getElem?_set_ne (Ne.symm notLow), List.getElem?_set_ne (Ne.symm notHigh)]

/-- Reading past what was written. -/
theorem readU16_writeU16_apart {data : List UInt8} {written offset : Nat} (value : UInt16)
    (apart : written + 1 < offset ∨ offset + 1 < written) :
    readU16 (writeU16 data written value) offset = readU16 data offset := by
  rw [readU16, readU16, byteAt_writeU16_apart _ (by omega) (by omega),
    byteAt_writeU16_apart _ (by omega) (by omega)]

end Words

/-! ### Text -/

/-- The bytes of an ASCII literal. -/
def ascii (literal : String) : List UInt8 :=
  literal.toList.map fun character => UInt8.ofNat character.toNat

/-- A literal by its characters, which evaluates without decoding the string. -/
theorem ascii_ofList (characters : List Char) :
    ascii (String.ofList characters) =
      characters.map fun character => UInt8.ofNat character.toNat := by
  rw [ascii, String.toList_ofList]

/-- What a reader of a NUL-terminated array sees. -/
def cString (text : List UInt8) : List UInt8 := text.takeWhile (· != 0)

theorem zero_not_mem_cString (text : List UInt8) : 0 ∉ cString text := by
  intro zero
  simpa using List.mem_takeWhile_imp zero

theorem cString_of_nulFree {text : List UInt8} (nulFree : 0 ∉ text) : cString text = text :=
  List.takeWhile_eq_self_iff.mpr fun _ member =>
    bne_iff_ne.mpr fun zero => nulFree (zero ▸ member)

theorem cString_take (text : List UInt8) (length : Nat) :
    cString (text.take length) = (cString text).take length := List.take_takeWhile.symm

theorem cString_append {text : List UInt8} (nulFree : 0 ∉ text) (more : List UInt8) :
    cString (text ++ more) = text ++ cString more :=
  List.takeWhile_append_of_pos fun _ member =>
    bne_iff_ne.mpr fun zero => nulFree (zero ▸ member)

/-- The text that fits an array of `size` bytes together with its terminator. -/
def fitText (size : Nat) (text : List UInt8) : List UInt8 := text.take (size - 1)

def hexDigit (value : Nat) : UInt8 :=
  if value < 10 then UInt8.ofNat (48 + value) else UInt8.ofNat (87 + value)

/-- Zero-padded lower-case hexadecimal of a fixed number of digits. -/
def hexText : Nat → Nat → List UInt8
  | 0, _ => []
  | digits + 1, value => hexText digits (value / 16) ++ [hexDigit (value % 16)]

def decimalText (value : Nat) : List UInt8 :=
  (Nat.toDigits 10 value).map fun character => UInt8.ofNat character.toNat

end MiniSniffer.Foundation
