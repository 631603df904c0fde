import MiniSniffer.Cli.Values

/-!
Contract: which texts `--payload-hex` takes, and for which bytes (`src/cli.c`).

Owns the grammar of hexadecimal byte lists, the texts that are taken beside it because a separator
stands between the two digits of a byte, and that the parser takes exactly one or the other.

Does not own how the bytes are searched for.
-/

namespace MiniSniffer

open Foundation

/-- Bytes of two digits each, with separators before, between and after them. -/
inductive HexList : List UInt8 → List UInt8 → Prop
  | separators {text : List UInt8} (separate : text.all isSeparator = true) : HexList text []
  | byte {front rest bytes : List UInt8} {high low : UInt8} {first second : Nat}
      (separate : front.all isSeparator = true) (highDigit : hexValue high = some first)
      (lowDigit : hexValue low = some second) (more : HexList rest bytes) :
      HexList (front ++ high :: low :: rest) (UInt8.ofNat (16 * first + second) :: bytes)

/-- What is left of a text without its separators. -/
def hexDigits (text : List UInt8) : List UInt8 := text.filter fun byte => !isSeparator byte

/-- A separator stands behind an odd number of digits. -/
def SeparatesDigits (text : List UInt8) : Prop :=
  ∃ front separator rest, text = front ++ separator :: rest ∧ isSeparator separator = true ∧
    (hexDigits front).length % 2 = 1

/-- The digits of 1 to 128 bytes and separators, of which one parts the digits of a byte. -/
structure SplitByteText (text : List UInt8) : Prop where
  known : (hexDigits text).all (fun byte => (hexValue byte).isSome) = true
  paired : (hexDigits text).length % 2 = 0
  positive : 2 ≤ (hexDigits text).length
  few : (hexDigits text).length ≤ 256
  parted : SeparatesDigits text

/-! ### Digits -/

section Digits

variable {text bytes digits : List UInt8} {byte : UInt8} {value : Nat}

theorem hexValue_eq : hexValue byte = hexDigitValue byte :=
  @forall_byte (fun byte => hexValue byte = hexDigitValue byte) (by decide +kernel) byte

theorem hexValue_lt (known : hexValue byte = some value) : value < 16 := by
  have small : ∀ byte : UInt8, (hexValue byte).all (· < 16) = true :=
    forall_byte (by decide +kernel)
  have held := small byte
  rw [known] at held
  exact of_decide_eq_true held

theorem not_separator (known : hexValue byte = some value) : isSeparator byte = false := by
  have apart : ∀ byte : UInt8, (hexValue byte).isSome = true → isSeparator byte = false :=
    forall_byte (by decide +kernel)
  exact apart byte (by rw [known]; rfl)

theorem hexDigits_append (front rest : List UInt8) :
    hexDigits (front ++ rest) = hexDigits front ++ hexDigits rest := List.filter_append _ _

theorem hexDigits_separators (separate : text.all isSeparator = true) : hexDigits text = [] := by
  rw [hexDigits, List.filter_eq_nil_iff]
  intro byte member
  rw [List.all_eq_true.mp separate byte member]
  decide

theorem hexDigits_digit (known : hexValue byte = some value) (rest : List UInt8) :
    hexDigits (byte :: rest) = byte :: hexDigits rest := by
  rw [hexDigits, List.filter_cons_of_pos (by simp [not_separator known])]
  rfl

end Digits

/-! ### The parser -/

section Parser

variable {text bytes digits : List UInt8}

/-- The bytes of a row of digits, with those before them, if there are 1 to 128. -/
def boundedBytes (bytes digits : List UInt8) : Option (List UInt8) :=
  match hexBytes digits with
  | none => none
  | some more =>
      if bytes ++ more ≠ [] ∧ (bytes ++ more).length ≤ minisnifferMaxPayloadPatternBytes then
        some (bytes ++ more)
      else none

theorem packed_byte {first second : Nat} (small : second < 16) :
    UInt8.ofNat ((first <<< 4) ||| second) = UInt8.ofNat (16 * first + second) := by
  rw [← Nat.shiftLeft_add_eq_or_of_lt (show second < 2 ^ 4 from small), Nat.shiftLeft_eq,
    Nat.mul_comm]

theorem boundedBytes_cons {high low : UInt8} {first second : Nat}
    (highDigit : hexValue high = some first) (lowDigit : hexValue low = some second)
    (bytes rest : List UInt8) :
    boundedBytes bytes (high :: low :: rest) =
      boundedBytes (bytes ++ [UInt8.ofNat (16 * first + second)]) rest := by
  rw [hexValue_eq] at highDigit lowDigit
  rw [boundedBytes, boundedBytes, hexBytes_cons highDigit lowDigit]
  cases hexBytes rest with
  | none => rfl
  | some more => simp only [Option.map_some, List.append_assoc, List.singleton_append]

theorem boundedBytes_full (full : minisnifferMaxPayloadPatternBytes < bytes.length)
    (digits : List UInt8) : boundedBytes bytes digits = none := by
  rw [boundedBytes]
  cases hexBytes digits with
  | none => rfl
  | some more =>
      dsimp only
      rw [if_neg]
      rintro ⟨-, few⟩
      rw [List.length_append] at few
      omega

/-- The loop reads the digits and nothing of the separators, with or without a digit that waits. -/
theorem parsePayloadHexLoop_eq (few : bytes.length ≤ minisnifferMaxPayloadPatternBytes) :
    parsePayloadHexLoop text none bytes = boundedBytes bytes (hexDigits text) ∧
      ∀ high first, hexValue high = some first →
        parsePayloadHexLoop text (some first) bytes =
          boundedBytes bytes (high :: hexDigits text) := by
  induction text generalizing bytes with
  | nil =>
      refine ⟨?_, fun high first known => rfl⟩
      rw [parsePayloadHexLoop, hexDigits, List.filter_nil, boundedBytes]
      simp only [hexBytes, List.append_nil, few, and_true]
      cases bytes <;> rfl
  | cons byte text inductionHypothesis =>
      by_cases separator : isSeparator byte = true
      · have skipped : hexDigits (byte :: text) = hexDigits text :=
          List.filter_cons_of_neg (by simp [separator])
        have rest := inductionHypothesis few
        rw [skipped]
        refine ⟨?_, fun high first known => ?_⟩
        · rw [parsePayloadHexLoop, if_pos separator]
          exact rest.1
        · rw [parsePayloadHexLoop, if_pos separator]
          exact rest.2 high first known
      · have kept : hexDigits (byte :: text) = byte :: hexDigits text :=
          List.filter_cons_of_pos (by simp [separator])
        rw [kept]
        cases value : hexValue byte with
        | none =>
            have unknown : hexDigitValue byte = none := hexValue_eq ▸ value
            refine ⟨?_, fun high first known => ?_⟩
            · rw [parsePayloadHexLoop, if_neg separator, value, boundedBytes,
                hexBytes_unknown_high unknown]
            · rw [parsePayloadHexLoop, if_neg separator, value, boundedBytes,
                hexBytes_unknown_low unknown]
        | some second =>
            refine ⟨?_, fun high first known => ?_⟩
            · rw [parsePayloadHexLoop, if_neg separator, value]
              exact (inductionHypothesis few).2 byte second value
            · rw [parsePayloadHexLoop, if_neg separator, value, boundedBytes_cons known value]
              simp only
              rw [packed_byte (hexValue_lt value)]
              split
              next full =>
                refine (boundedBytes_full ?_ _).symm
                rw [List.length_append, List.length_singleton]
                omega
              next room =>
                refine (inductionHypothesis ?_).1
                rw [List.length_append, List.length_singleton]
                omega

/-- The parser takes the bytes of the digits, 1 to 128 of them. -/
theorem parsePayloadHexPattern_some_iff : parsePayloadHexPattern text = some bytes ↔
    hexBytes (hexDigits text) = some bytes ∧ 1 ≤ bytes.length ∧ bytes.length ≤ 128 := by
  have parsed : parsePayloadHexPattern text = boundedBytes [] (hexDigits text) := by
    rw [parsePayloadHexPattern]
    split
    next empty => rw [empty]; rfl
    next => exact (parsePayloadHexLoop_eq (Nat.zero_le _)).1
  rw [parsed, boundedBytes]
  cases hexBytes (hexDigits text) with
  | none => simp
  | some more =>
      dsimp only
      constructor
      · intro taken
        split at taken
        next known =>
          obtain rfl := Option.some.inj taken
          exact ⟨rfl, List.length_pos_iff.mpr known.1, known.2⟩
        next => contradiction
      · rintro ⟨same, positive, few⟩
        obtain rfl := Option.some.inj same
        exact if_pos ⟨List.length_pos_iff.mp positive, few⟩

end Parser

/-! ### The grammar -/

section Grammar

variable {text bytes : List UInt8}

theorem HexList.digits (spelled : HexList text bytes) :
    hexBytes (hexDigits text) = some bytes := by
  induction spelled with
  | separators separate => rw [hexDigits_separators separate]; rfl
  | byte separate highDigit lowDigit more inductionHypothesis =>
      rw [hexDigits_append, hexDigits_separators separate, hexDigits_digit highDigit,
        hexDigits_digit lowDigit]
      rw [hexValue_eq] at highDigit lowDigit
      rw [List.nil_append, hexBytes_cons highDigit lowDigit, inductionHypothesis]
      rfl

/-- The digits of a byte stand together. -/
theorem HexList.together (spelled : HexList text bytes) : ¬ SeparatesDigits text := by
  induction spelled with
  | @separators text separate =>
      rintro ⟨front, separator, rest, rfl, -, odd⟩
      rw [List.all_append, Bool.and_eq_true] at separate
      rw [hexDigits_separators separate.1] at odd
      exact absurd odd (by decide)
  | @byte spaces rest bytes high low first second separate highDigit lowDigit more
      inductionHypothesis =>
      rintro ⟨front, separator, behind, words, separates, odd⟩
      rcases List.append_eq_append_iff.mp words with ⟨later, rfl, tail⟩ | ⟨later, rfl, -⟩
      · rw [hexDigits_append, hexDigits_separators separate, List.nil_append] at odd
        -- no separator stands in front of the first digit, nor of the second
        rcases later with _ | ⟨head, _ | ⟨next, later⟩⟩
        · exact absurd odd (by decide)
        · obtain ⟨-, tail⟩ := List.cons.inj tail
          rw [← (List.cons.inj tail).1, not_separator lowDigit] at separates
          contradiction
        · obtain ⟨rfl, behindHigh⟩ := List.cons.inj tail
          obtain ⟨rfl, behindLow⟩ := List.cons.inj behindHigh
          rw [hexDigits_digit highDigit, hexDigits_digit lowDigit, List.length_cons,
            List.length_cons] at odd
          exact inductionHypothesis ⟨later, separator, behind, behindLow, separates, by omega⟩
      · rw [List.all_append, Bool.and_eq_true] at separate
        rw [hexDigits_separators separate.1] at odd
        exact absurd odd (by decide)

/-- Digits that stand together in pairs spell their bytes. -/
theorem hexList_of_together (spelled : hexBytes (hexDigits text) = some bytes)
    (together : ¬ SeparatesDigits text) : HexList text bytes := by
  induction bytes generalizing text with
  | nil =>
      refine .separators (List.all_eq_true.mpr fun byte member => ?_)
      have none := List.filter_eq_nil_iff.mp (hexBytes_eq_nil spelled) byte member
      simpa using none
  | cons byte bytes inductionHypothesis =>
      obtain ⟨high, low, digits, first, second, split, highDigit, lowDigit, rfl, more⟩ :=
        hexBytes_eq_cons spelled
      obtain ⟨front, behind, rfl, noDigit, -, splitLow⟩ := List.filter_eq_cons_iff.mp split
      obtain ⟨between, rest, rfl, noDigitBetween, -, splitRest⟩ :=
        List.filter_eq_cons_iff.mp splitLow
      rw [← hexValue_eq] at highDigit lowDigit
      have separate : front.all isSeparator = true :=
        List.all_eq_true.mpr fun byte member => by simpa using noDigit byte member
      have adjacent : between = [] := by
        cases between with
        | nil => rfl
        | cons separator between =>
            refine absurd ⟨front ++ [high], separator, between ++ low :: rest, by simp,
              by simpa using noDigitBetween separator List.mem_cons_self, ?_⟩ together
            rw [hexDigits_append, hexDigits_separators separate, hexDigits_digit highDigit]
            rfl
      subst adjacent
      refine .byte separate highDigit lowDigit (inductionHypothesis ?_ ?_)
      · rw [hexDigits, splitRest]
        exact more
      · rintro ⟨later, separator, behind, rfl, separates, odd⟩
        refine together ⟨front ++ high :: low :: later, separator, behind, by simp, separates, ?_⟩
        rw [hexDigits_append, hexDigits_separators separate, hexDigits_digit highDigit,
          hexDigits_digit lowDigit, List.nil_append, List.length_cons, List.length_cons]
        omega

/-! ### Main results -/

/-- The parser takes exactly the byte lists, each for its bytes, unless a separator parts the digits
of a byte. -/
theorem payloadHexPattern_iff (text : List UInt8) :
    (∀ bytes, parsePayloadHexPattern text = some bytes ↔
        HexList text bytes ∧ 1 ≤ bytes.length ∧ bytes.length ≤ 128) ↔ ¬ SplitByteText text := by
  constructor
  · intro exact split
    obtain ⟨count, paired⟩ := Nat.dvd_of_mod_eq_zero split.paired
    have known : (hexDigits text).all (fun byte => (hexDigitValue byte).isSome) = true := by
      simpa only [hexValue_eq] using split.known
    obtain ⟨bytes, spelled⟩ := exists_hexBytes paired known
    have length := (hexBytes_known spelled).1
    have positive := split.positive
    have few := split.few
    have taken := parsePayloadHexPattern_some_iff.mpr ⟨spelled, by omega, by omega⟩
    exact ((exact bytes).mp taken).1.together split.parted
  · intro together bytes
    rw [parsePayloadHexPattern_some_iff]
    constructor
    · rintro ⟨spelled, positive, few⟩
      refine ⟨hexList_of_together spelled fun parted => together ?_, positive, few⟩
      obtain ⟨length, known⟩ := hexBytes_known spelled
      exact ⟨by simpa only [hexValue_eq] using known, by omega, by omega, by omega, parted⟩
    · rintro ⟨spelled, positive, few⟩
      exact ⟨spelled.digits, positive, few⟩

/-- A blank between the digits of a byte goes unnoticed. -/
theorem separator_splits_byte : ¬ ∀ text bytes, parsePayloadHexPattern text = some bytes ↔
    HexList text bytes ∧ 1 ≤ bytes.length ∧ bytes.length ≤ 128 := by
  intro exact
  have taken : parsePayloadHexPattern (ascii "4 7") = some [0x47] := by decide +kernel
  exact ((exact _ _).mp taken).1.together ⟨ascii "4", 32, ascii "7", rfl, rfl, rfl⟩

/-- Printed bytes with separators in front of and behind each are read back. -/
theorem parsePayloadHexPattern_printed {lead : List UInt8} {items : List (UInt8 × List UInt8)}
    (separateLead : lead.all isSeparator = true)
    (separate : ∀ item ∈ items, item.2.all isSeparator = true)
    (positive : 1 ≤ items.length) (few : items.length ≤ 128) :
    parsePayloadHexPattern
        (lead ++ items.flatMap fun item => hexText 2 item.1.toNat ++ item.2) =
      some (items.map Prod.fst) := by
  rw [parsePayloadHexPattern_some_iff, List.length_map]
  refine ⟨?_, positive, few⟩
  have kept : ∀ byte : UInt8, hexDigits (hexText 2 byte.toNat) = hexText 2 byte.toNat := by
    intro byte
    refine List.filter_eq_self.mpr fun digit member => ?_
    have apart : ∀ digit : UInt8, lowerHexDigit digit = true → isSeparator digit = false :=
      forall_byte (by decide +kernel)
    rw [apart digit (lowerHexDigit_of_mem_hexText member)]
    rfl
  rw [hexDigits_append, hexDigits_separators separateLead, List.nil_append]
  clear positive few separateLead
  induction items with
  | nil => rfl
  | cons item items inductionHypothesis =>
      have rest := inductionHypothesis fun other member =>
        separate other (List.mem_cons_of_mem item member)
      rw [List.flatMap_cons, hexDigits_append, hexDigits_append, kept,
        hexDigits_separators (separate item List.mem_cons_self), List.append_nil, hexBytes_pair,
        rest]
      rfl

end Grammar

end MiniSniffer
