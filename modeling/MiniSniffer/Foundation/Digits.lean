import Mathlib.Tactic.IntervalCases
import MiniSniffer.Foundation.ByteOrder

/-!
Contract: what decimal and hexadecimal text is made of.

Owns the digits of a printed number, its value read back, that only zero is printed with a leading
zero, and bytes read back from two hexadecimal digits each.

Does not own how a format delimits numbers.
-/

namespace MiniSniffer.Foundation

def decimalDigit (byte : UInt8) : Bool := 48 ≤ byte && byte ≤ 57

def lowerHexDigit (byte : UInt8) : Bool := decimalDigit byte || (97 ≤ byte && byte ≤ 102)

def hexDigitValue (digit : UInt8) : Option Nat :=
  if decimalDigit digit then some (digit.toNat - 48)
  else if 97 ≤ digit && digit ≤ 102 then some (digit.toNat - 87)
  else if 65 ≤ digit && digit ≤ 70 then some (digit.toNat - 55)
  else none

/-- The bytes that pairs of hexadecimal digits stand for. -/
def hexBytes : List UInt8 → Option (List UInt8)
  | [] => some []
  | [_] => none
  | high :: low :: rest =>
      match hexDigitValue high, hexDigitValue low, hexBytes rest with
      | some high, some low, some bytes => some (UInt8.ofNat (16 * high + low) :: bytes)
      | _, _, _ => none

/-- The number that a row of digits stands for. -/
def decimalValue (digits : List UInt8) : Nat :=
  digits.foldl (fun value digit => 10 * value + (digit.toNat - 48)) 0

/-- A property of bytes is checked byte by byte. -/
theorem forall_byte {P : UInt8 → Prop} (known : ∀ value < 256, P (UInt8.ofNat value))
    (byte : UInt8) : P byte := by
  have case := known byte.toNat byte.toNat_lt
  rwa [UInt8.ofNat_toNat] at case

section Digits

variable {value : Nat} {byte : UInt8}

theorem lowerHexDigit_hexDigit (small : value < 16) : lowerHexDigit (hexDigit value) = true := by
  interval_cases value <;> rfl

theorem lowerHexDigit_of_mem_hexText {digits : Nat} (member : byte ∈ hexText digits value) :
    lowerHexDigit byte = true := by
  induction digits generalizing value with
  | zero => exact absurd member List.not_mem_nil
  | succ digits inductionHypothesis =>
      rcases List.mem_append.mp member with earlier | last
      · exact inductionHypothesis earlier
      · rw [List.mem_singleton.mp last]
        exact lowerHexDigit_hexDigit (Nat.mod_lt _ (by decide))

theorem hexDigitValue_hexDigit (small : value < 16) :
    hexDigitValue (hexDigit value) = some value := by
  interval_cases value <;> rfl

theorem hexBytes_pair (byte : UInt8) (rest : List UInt8) :
    hexBytes (hexText 2 byte.toNat ++ rest) = (hexBytes rest).map (byte :: ·) := by
  have small : byte.toNat < 256 := byte.toNat_lt
  have value : UInt8.ofNat (16 * (byte.toNat / 16 % 16) + byte.toNat % 16) = byte := by
    rw [show 16 * (byte.toNat / 16 % 16) + byte.toNat % 16 = byte.toNat by omega,
      UInt8.ofNat_toNat]
  show hexBytes (hexDigit (byte.toNat / 16 % 16) :: hexDigit (byte.toNat % 16) :: rest) = _
  rw [hexBytes, hexDigitValue_hexDigit (Nat.mod_lt _ (by decide)),
    hexDigitValue_hexDigit (Nat.mod_lt _ (by decide))]
  cases hexBytes rest with
  | none => rfl
  | some bytes => exact congrArg (fun first => some (first :: bytes)) value

/-- Bytes are read back from their digits. -/
theorem hexBytes_flatMap (bytes : List UInt8) :
    hexBytes (bytes.flatMap fun byte => hexText 2 byte.toNat) = some bytes := by
  induction bytes with
  | nil => rfl
  | cons byte bytes inductionHypothesis =>
      rw [List.flatMap_cons, hexBytes_pair, inductionHypothesis]
      rfl

theorem hexText_two_inj {byte other : UInt8}
    (same : hexText 2 byte.toNat = hexText 2 other.toNat) : byte = other := by
  have known := hexBytes_pair byte []
  rw [same, hexBytes_pair] at known
  exact (List.head_eq_of_cons_eq (Option.some.inj known)).symm

theorem toDigits_toNat {character : Char} (member : character ∈ Nat.toDigits 10 value) :
    48 ≤ character.toNat ∧ character.toNat ≤ 57 := by
  have digit := Nat.isDigit_of_mem_toDigits (by decide) le_rfl member
  rw [Char.isDigit, Bool.and_eq_true, decide_eq_true_eq, decide_eq_true_eq] at digit
  exact digit

theorem decimalDigit_of_mem_decimalText (member : byte ∈ decimalText value) :
    decimalDigit byte = true := by
  obtain ⟨character, inside, rfl⟩ := List.mem_map.mp member
  obtain ⟨lower, upper⟩ := toDigits_toNat inside
  interval_cases character.toNat <;> rfl

theorem decimalText_ne_nil (value : Nat) : decimalText value ≠ [] := by
  rw [decimalText, ne_eq, List.map_eq_nil_iff]
  exact Nat.toDigits_ne_nil

theorem decimalValue_decimalText (value : Nat) : decimalValue (decimalText value) = value := by
  rw [decimalValue, decimalText, List.foldl_map]
  refine Eq.trans ?_ (Nat.ofDigitChars_ten_toDigits (n := value))
  rw [Nat.ofDigitChars_eq_foldl]
  refine List.foldl_ext _ _ _ fun sofar character member => ?_
  obtain ⟨lower, upper⟩ := toDigits_toNat member
  have fits : (UInt8.ofNat character.toNat).toNat = character.toNat := by
    rw [UInt8.toNat_ofNat']
    omega
  rw [fits]
  rfl

theorem decimalText_of_lt_ten (small : value < 10) :
    decimalText value = [UInt8.ofNat (48 + value)] := by
  rw [decimalText, Nat.toDigits_of_lt_base small]
  interval_cases value <;> rfl

theorem decimalText_of_ten_le (large : 10 ≤ value) :
    decimalText value = decimalText (value / 10) ++ decimalText (value % 10) := by
  rw [decimalText, decimalText, decimalText, Nat.toDigits_of_base_le (by decide) large,
    Nat.toDigits_of_lt_base (Nat.mod_lt value (by decide)), List.map_append]

/-- Only zero is printed with a leading zero. -/
theorem head?_decimalText (positive : 0 < value) : (decimalText value).head? ≠ some 48 := by
  induction value using Nat.strong_induction_on with
  | h value inductionHypothesis =>
      rcases Nat.lt_or_ge value 10 with small | large
      · rw [decimalText_of_lt_ten small]
        interval_cases value <;> decide
      · rw [decimalText_of_ten_le large, List.head?_append_of_ne_nil _ (decimalText_ne_nil _)]
        exact inductionHypothesis (value / 10) (by omega) (by omega)

end Digits

/-! ### Pairs of digits -/

section Pairs

variable {digits rest bytes : List UInt8} {high low byte : UInt8} {first second : Nat}

theorem hexBytes_cons (highDigit : hexDigitValue high = some first)
    (lowDigit : hexDigitValue low = some second) (rest : List UInt8) :
    hexBytes (high :: low :: rest) =
      (hexBytes rest).map (UInt8.ofNat (16 * first + second) :: ·) := by
  rw [hexBytes, highDigit, lowDigit]
  cases hexBytes rest <;> rfl

theorem hexBytes_unknown_high (unknown : hexDigitValue high = none) (rest : List UInt8) :
    hexBytes (high :: rest) = none := by
  cases rest with
  | nil => rfl
  | cons low rest => rw [hexBytes, unknown]

theorem hexBytes_unknown_low (unknown : hexDigitValue low = none) (high : UInt8)
    (rest : List UInt8) : hexBytes (high :: low :: rest) = none := by
  rw [hexBytes, unknown]
  cases hexDigitValue high <;> rfl

theorem hexBytes_eq_nil (spelled : hexBytes digits = some []) : digits = [] := by
  match digits with
  | [] => rfl
  | [_] => contradiction
  | high :: low :: rest =>
      rw [hexBytes] at spelled
      split at spelled
      next => exact absurd (Option.some.inj spelled) (List.cons_ne_nil _ _)
      next => contradiction

theorem hexBytes_eq_cons (spelled : hexBytes digits = some (byte :: bytes)) :
    ∃ high low rest first second, digits = high :: low :: rest ∧
      hexDigitValue high = some first ∧ hexDigitValue low = some second ∧
      byte = UInt8.ofNat (16 * first + second) ∧ hexBytes rest = some bytes := by
  match digits with
  | [] => exact absurd (Option.some.inj spelled) (List.cons_ne_nil _ _).symm
  | [_] => contradiction
  | high :: low :: rest =>
      rw [hexBytes] at spelled
      split at spelled
      next first second more highDigit lowDigit rest =>
        obtain ⟨rfl, rfl⟩ := List.cons.inj (Option.some.inj spelled)
        exact ⟨high, low, _, first, second, rfl, highDigit, lowDigit, rfl, rest⟩
      next => contradiction

/-- Only rows of digits stand for bytes, two digits for each. -/
theorem hexBytes_known (spelled : hexBytes digits = some bytes) :
    digits.length = 2 * bytes.length ∧
      digits.all (fun byte => (hexDigitValue byte).isSome) = true := by
  induction bytes generalizing digits with
  | nil =>
      rw [hexBytes_eq_nil spelled]
      exact ⟨rfl, rfl⟩
  | cons byte bytes inductionHypothesis =>
      obtain ⟨high, low, rest, first, second, rfl, highDigit, lowDigit, -, more⟩ :=
        hexBytes_eq_cons spelled
      obtain ⟨length, known⟩ := inductionHypothesis more
      refine ⟨?_, ?_⟩
      · simp only [List.length_cons]
        omega
      · rw [List.all_cons, List.all_cons, highDigit, lowDigit, known]
        rfl

/-- Every even row of digits stands for bytes. -/
theorem exists_hexBytes {count : Nat} (length : digits.length = 2 * count)
    (known : digits.all (fun byte => (hexDigitValue byte).isSome) = true) :
    ∃ bytes, hexBytes digits = some bytes := by
  induction count generalizing digits with
  | zero => exact ⟨[], by rw [List.length_eq_zero_iff.mp length]; rfl⟩
  | succ count inductionHypothesis =>
      match digits with
      | [] => simp at length
      | [_] =>
          simp only [List.length_cons, List.length_nil] at length
          omega
      | high :: low :: rest =>
          rw [List.all_cons, List.all_cons, Bool.and_eq_true, Bool.and_eq_true,
            Option.isSome_iff_exists, Option.isSome_iff_exists] at known
          obtain ⟨⟨first, highDigit⟩, ⟨second, lowDigit⟩, known⟩ := known
          simp only [List.length_cons] at length
          obtain ⟨bytes, spelled⟩ := @inductionHypothesis rest (by omega) known
          exact ⟨_, by rw [hexBytes_cons highDigit lowDigit, spelled]; rfl⟩

end Pairs

end MiniSniffer.Foundation
