import MiniSniffer.Common

/-!
Contract: bounded reads shared by the application decoders (`src/byte_reader.c` and the
`read_*_at` helpers of `src/app_tls.c` and `src/app_quic.c`).

Owns the cursor reader over one buffer, the offset readers over a bounded vector
of it, and the verdict type of every decoder.

A failed read returns `none` and the caller keeps its own cursor, as the source
leaves the reader unchanged. Readers are never built over a `NULL` pointer.
-/

namespace MiniSniffer

open Foundation

inductive AppDecodeResult where
  | noMatch
  | ok
  | needMore
  | malformed
deriving DecidableEq, Repr

/-! ### The cursor reader -/

structure ByteReader where
  data : List UInt8
  offset : Nat
deriving DecidableEq, Repr

def brInit (data : List UInt8) : ByteReader := { data := data, offset := 0 }

def brRemaining (reader : ByteReader) (needed : Nat) : Bool :=
  if reader.offset > reader.data.length then false
  else needed ≤ reader.data.length - reader.offset

def brReadU8 (reader : ByteReader) : Option (UInt8 × ByteReader) :=
  if brRemaining reader 1 then
    some (byteAt reader.data reader.offset, { reader with offset := reader.offset + 1 })
  else none

def brReadU16Be (reader : ByteReader) : Option (UInt16 × ByteReader) :=
  if brRemaining reader 2 then
    some (readU16 reader.data reader.offset, { reader with offset := reader.offset + 2 })
  else none

def brReadU32Be (reader : ByteReader) : Option (UInt32 × ByteReader) :=
  if brRemaining reader 4 then
    some (readU32 reader.data reader.offset, { reader with offset := reader.offset + 4 })
  else none

def brSkip (reader : ByteReader) (count : Nat) : Option ByteReader :=
  if brRemaining reader count then some { reader with offset := reader.offset + count } else none

section Inside

variable {data : List UInt8} {offset needed : Nat}

theorem brRemaining_inside (inside : offset + needed ≤ data.length) :
    brRemaining { data := data, offset := offset } needed = true := by
  rw [brRemaining, if_neg (by simp only; omega)]
  simp only [decide_eq_true_eq]
  omega

theorem brReadU8_inside (inside : offset + 1 ≤ data.length) :
    brReadU8 { data := data, offset := offset } =
      some (byteAt data offset, { data := data, offset := offset + 1 }) :=
  if_pos (brRemaining_inside inside)

theorem brReadU16Be_inside (inside : offset + 2 ≤ data.length) :
    brReadU16Be { data := data, offset := offset } =
      some (readU16 data offset, { data := data, offset := offset + 2 }) :=
  if_pos (brRemaining_inside inside)

theorem brReadU32Be_inside (inside : offset + 4 ≤ data.length) :
    brReadU32Be { data := data, offset := offset } =
      some (readU32 data offset, { data := data, offset := offset + 4 }) :=
  if_pos (brRemaining_inside inside)

theorem brSkip_inside (inside : offset + needed ≤ data.length) :
    brSkip { data := data, offset := offset } needed =
      some { data := data, offset := offset + needed } :=
  if_pos (brRemaining_inside inside)

end Inside

/-! ### Offset readers

`length` is the end of the vector being read, which may lie before the end of `data`. -/

def remaining (length offset needed : Nat) : Bool :=
  offset ≤ length && needed ≤ length - offset

def readU8At (data : List UInt8) (length offset : Nat) : Option (UInt8 × Nat) :=
  if remaining length offset 1 then some (byteAt data offset, offset + 1) else none

def readU16At (data : List UInt8) (length offset : Nat) : Option (UInt16 × Nat) :=
  if remaining length offset 2 then some (readU16 data offset, offset + 2) else none

def readU24At (data : List UInt8) (length offset : Nat) : Option (Nat × Nat) :=
  if remaining length offset 3 then
    some (((byteAt data offset).toNat <<< 16) ||| ((byteAt data (offset + 1)).toNat <<< 8) |||
      (byteAt data (offset + 2)).toNat, offset + 3)
  else none

def readU32At (data : List UInt8) (length offset : Nat) : Option (UInt32 × Nat) :=
  if remaining length offset 4 then some (readU32 data offset, offset + 4) else none

end MiniSniffer
