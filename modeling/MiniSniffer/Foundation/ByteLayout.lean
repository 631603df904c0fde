import Mathlib.Tactic.IntervalCases
import MiniSniffer.Foundation.ByteOrder

/-!
Contract: what stands where in a byte string, and runs of entries.

Owns the relation of a byte string to what it holds at an offset, the encodings of words and of
length-prefixed vectors with the law that says where their parts stand, and the scan of a run of
entries up to a stop: it succeeds exactly on encoded entries that fill the run, and then is their
fold.

Does not own any format.
-/

namespace MiniSniffer.Foundation

/-! ### Encodings -/

def encodeU16 (value : UInt16) : List UInt8 := [highByte value, lowByte value]

def encodeU32 (value : UInt32) : List UInt8 :=
  [(value >>> 24).toUInt8, (value >>> 16).toUInt8, (value >>> 8).toUInt8, value.toUInt8]

/-- The low 24 bits. -/
def encodeU24 (value : Nat) : List UInt8 :=
  [UInt8.ofNat (value / 65536), UInt8.ofNat (value / 256), UInt8.ofNat value]

/-- Content behind its length in one byte. -/
def vector8 (content : List UInt8) : List UInt8 := UInt8.ofNat content.length :: content

/-- Content behind its length in two bytes. -/
def vector16 (content : List UInt8) : List UInt8 :=
  encodeU16 (UInt16.ofNat content.length) ++ content

@[simp] theorem length_encodeU16 (value : UInt16) : (encodeU16 value).length = 2 := rfl

@[simp] theorem length_encodeU32 (value : UInt32) : (encodeU32 value).length = 4 := rfl

@[simp] theorem length_encodeU24 (value : Nat) : (encodeU24 value).length = 3 := rfl

@[simp] theorem length_vector8 (content : List UInt8) :
    (vector8 content).length = content.length + 1 := rfl

@[simp] theorem length_vector16 (content : List UInt8) :
    (vector16 content).length = content.length + 2 := by
  rw [vector16, List.length_append, length_encodeU16, Nat.add_comm]

/-! ### Bytes at an offset -/

/-- `data` holds `bytes` from `offset` on. -/
def HoldsAt (data : List UInt8) (offset : Nat) (bytes : List UInt8) : Prop :=
  bytes <+: data.drop offset

section Holds

variable {data first second bytes content : List UInt8} {offset : Nat}

theorem holdsAt_nil (data : List UInt8) (offset : Nat) : HoldsAt data offset [] :=
  List.nil_prefix

theorem holdsAt_iff_slice :
    HoldsAt data offset bytes ↔ (data.drop offset).take bytes.length = bytes := by
  rw [HoldsAt, List.prefix_iff_eq_take]
  exact eq_comm

theorem HoldsAt.length_le (holds : HoldsAt data offset bytes) (nonempty : bytes ≠ []) :
    offset + bytes.length ≤ data.length := by
  have bound := List.IsPrefix.length_le holds
  have positive := List.length_pos_iff.mpr nonempty
  rw [List.length_drop] at bound
  omega

theorem holdsAt_slice (length : Nat) (inside : offset + length ≤ data.length) :
    HoldsAt data offset ((data.drop offset).take length) ∧
      ((data.drop offset).take length).length = length := by
  refine ⟨List.take_prefix _ _, ?_⟩
  rw [List.length_take, List.length_drop]
  omega

theorem holdsAt_append : HoldsAt data offset (first ++ second) ↔
    HoldsAt data offset first ∧ HoldsAt data (offset + first.length) second := by
  constructor
  · rintro ⟨rest, same⟩
    rw [List.append_assoc] at same
    refine ⟨⟨_, same⟩, rest, ?_⟩
    rw [← List.drop_drop, ← same, List.drop_left]
  · rintro ⟨⟨rest, same⟩, holds⟩
    rw [HoldsAt, ← List.drop_drop, ← same, List.drop_left] at holds
    rw [HoldsAt, ← same]
    exact (List.prefix_append_right_inj first).mpr holds

theorem holdsAt_byte {byte : UInt8} :
    HoldsAt data offset [byte] ↔ offset < data.length ∧ byteAt data offset = byte := by
  rw [HoldsAt, byteAt, List.getD_eq_getElem?_getD]
  by_cases inside : offset < data.length
  · rw [List.drop_eq_getElem_cons inside, List.getElem?_eq_getElem inside, List.cons_prefix_cons]
    simp [inside, eq_comm]
  · rw [List.drop_eq_nil_of_le (Nat.le_of_not_lt inside)]
    simp [inside]

theorem holdsAt_cons {byte : UInt8} : HoldsAt data offset (byte :: bytes) ↔
    (offset < data.length ∧ byteAt data offset = byte) ∧ HoldsAt data (offset + 1) bytes := by
  have split : HoldsAt data offset ([byte] ++ bytes) ↔
      HoldsAt data offset [byte] ∧ HoldsAt data (offset + 1) bytes := holdsAt_append
  rw [holdsAt_byte] at split
  exact split

theorem joinBytes_eq_iff {high low : UInt8} {value : UInt16} :
    joinBytes high low = value ↔ high = highByte value ∧ low = lowByte value := by
  constructor
  · rintro rfl
    have lowSmall : low.toNat < 256 := low.toNat_lt
    constructor
    · apply UInt8.toNat_inj.mp
      rw [toNat_highByte, toNat_joinBytes]
      omega
    · apply UInt8.toNat_inj.mp
      rw [toNat_lowByte, toNat_joinBytes]
      omega
  · rintro ⟨rfl, rfl⟩
    exact joinBytes_highByte_lowByte value

theorem holdsAt_u16 {value : UInt16} : HoldsAt data offset (encodeU16 value) ↔
    offset + 2 ≤ data.length ∧ readU16 data offset = value := by
  rw [encodeU16, holdsAt_cons, holdsAt_byte, readU16, joinBytes_eq_iff]
  constructor
  · rintro ⟨⟨_, high⟩, inside, low⟩
    exact ⟨inside, high, low⟩
  · rintro ⟨inside, high, low⟩
    exact ⟨⟨by omega, high⟩, by omega, low⟩

/-- Bit by bit, the four bytes of a word are the word. -/
theorem joinBytes_encodeU32 (value : UInt32) :
    (value >>> 24).toUInt8.toUInt32 <<< 24 ||| (value >>> 16).toUInt8.toUInt32 <<< 16 |||
      (value >>> 8).toUInt8.toUInt32 <<< 8 ||| value.toUInt8.toUInt32 = value := by
  apply UInt32.eq_of_toBitVec_eq
  apply BitVec.eq_of_getLsbD_eq
  intro bit inside
  simp only [UInt32.toBitVec_or, UInt32.toBitVec_shiftLeft, UInt8.toBitVec_toUInt32,
    UInt32.toBitVec_toUInt8, UInt32.toBitVec_shiftRight, BitVec.getLsbD_or]
  interval_cases bit <;> simp

theorem readU32_of_holdsAt {value : UInt32} (holds : HoldsAt data offset (encodeU32 value)) :
    readU32 data offset = value := by
  rw [encodeU32, holdsAt_cons, holdsAt_cons, holdsAt_cons, holdsAt_byte] at holds
  obtain ⟨⟨_, first⟩, ⟨_, second⟩, ⟨_, third⟩, _, fourth⟩ := holds
  rw [readU32, first, second, third, fourth]
  exact joinBytes_encodeU32 value

/-- What stands before the end of the first part stands in the first part. -/
theorem holdsAt_append_left (following : List UInt8)
    (inside : offset + bytes.length ≤ data.length) :
    HoldsAt (data ++ following) offset bytes ↔ HoldsAt data offset bytes := by
  rw [holdsAt_iff_slice, holdsAt_iff_slice, List.drop_append_of_le_length (by omega),
    List.take_append_of_le_length (by rw [List.length_drop]; omega)]

theorem ofNat_eq_iff_toNat {byte : UInt8} {length : Nat} (short : length < 256) :
    byte = UInt8.ofNat length ↔ byte.toNat = length := by
  rw [← UInt8.toNat_inj, UInt8.toNat_ofNat_of_lt' short]

theorem ofNat_eq_iff_toNat16 {word : UInt16} {length : Nat} (short : length < 65536) :
    word = UInt16.ofNat length ↔ word.toNat = length := by
  rw [← UInt16.toNat_inj, UInt16.toNat_ofNat_of_lt' short]

theorem holdsAt_u24 {value : Nat} (small : value < 2 ^ 24) :
    HoldsAt data offset (encodeU24 value) ↔
      offset + 3 ≤ data.length ∧
        (byteAt data offset).toNat * 65536 + (byteAt data (offset + 1)).toNat * 256 +
          (byteAt data (offset + 2)).toNat = value := by
  have highSmall : (byteAt data offset).toNat < 256 := UInt8.toNat_lt _
  have middleSmall : (byteAt data (offset + 1)).toNat < 256 := UInt8.toNat_lt _
  have lowSmall : (byteAt data (offset + 2)).toNat < 256 := UInt8.toNat_lt _
  rw [encodeU24, holdsAt_cons, holdsAt_cons, holdsAt_byte, ← UInt8.toNat_inj,
    ← UInt8.toNat_inj, ← UInt8.toNat_inj, UInt8.toNat_ofNat', UInt8.toNat_ofNat',
    UInt8.toNat_ofNat', show offset + 1 + 1 = offset + 2 from rfl]
  omega

theorem holdsAt_vector8 (short : content.length < 256) :
    HoldsAt data offset (vector8 content) ↔
      offset < data.length ∧ (byteAt data offset).toNat = content.length ∧
        HoldsAt data (offset + 1) content := by
  rw [vector8, holdsAt_cons, ofNat_eq_iff_toNat short, and_assoc]

theorem holdsAt_vector16 (short : content.length < 65536) :
    HoldsAt data offset (vector16 content) ↔
      offset + 2 ≤ data.length ∧ (readU16 data offset).toNat = content.length ∧
        HoldsAt data (offset + 2) content := by
  rw [vector16, holdsAt_append, holdsAt_u16, ofNat_eq_iff_toNat16 short, length_encodeU16,
    and_assoc]

/-- What a byte string begins with, and what follows. -/
theorem holdsAt_zero : HoldsAt data 0 bytes ↔ ∃ following, data = bytes ++ following := by
  rw [HoldsAt, List.drop_zero]
  constructor
  · rintro ⟨following, same⟩
    exact ⟨following, same.symm⟩
  · rintro ⟨following, rfl⟩
    exact List.prefix_append bytes following

end Holds

/-! ### Runs of entries -/

section Runs

variable {Entry State : Type} {read : Nat → Option (Entry × Nat)}
variable {apply : State → Entry → Option State} {stop passes offset : Nat} {entries : List Entry}

/-- Entries read and applied one after another until `stop` is met exactly. -/
def scanEntries (read : Nat → Option (Entry × Nat)) (apply : State → Entry → Option State)
    (stop : Nat) : Nat → Nat → State → Option State
  | 0, _, _ => none
  | passes + 1, offset, state =>
      if offset < stop then
        match read offset with
        | none => none
        | some (entry, next) =>
            match apply state entry with
            | none => none
            | some applied => scanEntries read apply stop passes next applied
      else if offset = stop then some state
      else none

/-- The entries that a scan meets from an offset to its stop. -/
inductive EntriesRead (read : Nat → Option (Entry × Nat)) (stop : Nat) : Nat → List Entry → Prop
  | done : EntriesRead read stop stop []
  | entry {offset next : Nat} {head : Entry} {tail : List Entry} (before : offset < stop)
      (first : read offset = some (head, next)) (rest : EntriesRead read stop next tail) :
      EntriesRead read stop offset (head :: tail)

/-- A scan over entries that are all there is their fold. -/
theorem scanEntries_eq_foldlM
    (advances : ∀ offset entry next, read offset = some (entry, next) → offset < next)
    (met : EntriesRead read stop offset entries) (enough : stop - offset < passes)
    (state : State) :
    scanEntries read apply stop passes offset state = entries.foldlM apply state := by
  induction met generalizing passes state with
  | done =>
      obtain ⟨passes, rfl⟩ := Nat.exists_eq_succ_of_ne_zero (Nat.ne_zero_of_lt enough)
      rw [scanEntries, if_neg (Nat.lt_irrefl stop), if_pos rfl]
      rfl
  | @entry offset next head tail before first rest inductionHypothesis =>
      obtain ⟨passes, rfl⟩ := Nat.exists_eq_succ_of_ne_zero (Nat.ne_zero_of_lt enough)
      have forward := advances _ _ _ first
      rw [scanEntries, if_pos before, first, List.foldlM_cons]
      cases applied : apply state head with
      | none => simp [applied]
      | some next => simpa [applied] using inductionHypothesis (by omega) next

/-- A scan that succeeds has met entries, and is their fold. -/
theorem entriesRead_of_scan {state final : State}
    (scanned : scanEntries read apply stop passes offset state = some final) :
    ∃ entries, EntriesRead read stop offset entries ∧
      entries.foldlM apply state = some final := by
  induction passes generalizing offset state with
  | zero => contradiction
  | succ passes inductionHypothesis =>
      rw [scanEntries] at scanned
      split_ifs at scanned with before met
      · cases first : read offset with
        | none =>
            rw [first] at scanned
            contradiction
        | some found =>
            obtain ⟨head, next⟩ := found
            rw [first] at scanned
            dsimp only at scanned
            cases applied : apply state head with
            | none =>
                rw [applied] at scanned
                contradiction
            | some between =>
                rw [applied] at scanned
                obtain ⟨tail, rest, folded⟩ := inductionHypothesis scanned
                refine ⟨head :: tail, .entry before first rest, ?_⟩
                rw [List.foldlM_cons, applied]
                exact folded
      · subst met
        exact ⟨[], .done, scanned⟩

/-- A reader of encoded entries: it returns exactly the valid entry that stands at an offset and
ends by `stop`. -/
def ReadsEncoded (data : List UInt8) (Valid : Entry → Prop) (encode : Entry → List UInt8)
    (stop : Nat) (read : Nat → Option (Entry × Nat)) : Prop :=
  ∀ offset entry next, read offset = some (entry, next) ↔
    Valid entry ∧ HoldsAt data offset (encode entry) ∧ next = offset + (encode entry).length ∧
      next ≤ stop

variable {data : List UInt8} {Valid : Entry → Prop} {encode : Entry → List UInt8}

theorem ReadsEncoded.advances (reads : ReadsEncoded data Valid encode stop read)
    (nonempty : ∀ entry, encode entry ≠ []) {offset next : Nat} {entry : Entry}
    (found : read offset = some (entry, next)) : offset < next := by
  obtain ⟨_, _, rfl, _⟩ := (reads offset entry next).mp found
  have positive := List.length_pos_iff.mpr (nonempty entry)
  omega

/-- The entries met are those encoded between the offset and the stop. -/
theorem entriesRead_iff (reads : ReadsEncoded data Valid encode stop read)
    (nonempty : ∀ entry, encode entry ≠ []) :
    EntriesRead read stop offset entries ↔
      (∀ entry ∈ entries, Valid entry) ∧ HoldsAt data offset (entries.flatMap encode) ∧
        offset + (entries.flatMap encode).length = stop := by
  induction entries generalizing offset with
  | nil =>
      constructor
      · intro met
        cases met
        exact ⟨by simp, holdsAt_nil data _, rfl⟩
      · rintro ⟨_, _, rfl⟩
        exact .done
  | cons head tail inductionHypothesis =>
      rw [List.flatMap_cons, holdsAt_append, List.length_append]
      constructor
      · intro met
        cases met with
        | entry before first rest =>
            obtain ⟨valid, holds, rfl, _⟩ := (reads _ _ _).mp first
            obtain ⟨tailValid, tailHolds, tailStop⟩ := inductionHypothesis.mp rest
            refine ⟨?_, ⟨holds, tailHolds⟩, by omega⟩
            intro entry member
            rcases List.mem_cons.mp member with rfl | member
            · exact valid
            · exact tailValid entry member
      · rintro ⟨valid, ⟨holds, tailHolds⟩, ends⟩
        have positive := List.length_pos_iff.mpr (nonempty head)
        refine .entry (by omega) ((reads _ _ _).mpr ⟨valid head List.mem_cons_self, holds, rfl,
          by omega⟩) (inductionHypothesis.mpr ⟨?_, tailHolds, by omega⟩)
        intro entry member
        exact valid entry (List.mem_cons_of_mem head member)

/-- Entries met up to the end of the data are all of it. -/
theorem drop_of_entriesRead (reads : ReadsEncoded data Valid encode data.length read)
    (nonempty : ∀ entry, encode entry ≠ []) (met : EntriesRead read data.length offset entries) :
    (∀ entry ∈ entries, Valid entry) ∧ data.drop offset = entries.flatMap encode := by
  obtain ⟨valid, placed, ends⟩ := (entriesRead_iff reads nonempty).mp met
  refine ⟨valid, (List.IsPrefix.eq_of_length placed ?_).symm⟩
  rw [List.length_drop]
  omega

end Runs

end MiniSniffer.Foundation
