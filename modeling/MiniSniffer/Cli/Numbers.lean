import Mathlib.Data.List.Induction
import MiniSniffer.Cli.Values

/-!
Contract: which texts the numeric options take, and for which numbers (`src/cli.c`).

Owns the notations that the options document, what each number parser takes beside them, and when a
parser stores the number that its text denotes.

Does not own the conversions of the C library: see `Foundation.NumberText`.
-/

namespace MiniSniffer

open Foundation

/-! ### Notations -/

/-- White space and a plus sign or none, as a conversion skips them. -/
def PlainLead (lead : List UInt8) : Prop :=
  ∃ (spaces : List UInt8) (sign : NumberSign), lead = spaces ++ sign.text ∧
    spaces.all isSpace = true ∧ sign ≠ .minus

/-- Nothing at all. -/
def NoLead (lead : List UInt8) : Prop := lead = []

structure DecimalNumeral (digits : List UInt8) (value : Nat) : Prop where
  nonempty : digits ≠ []
  decimal : digits.all decimalDigit = true
  value_eq : decimalValue digits = value

/-- `0x` or `0X` and hexadecimal digits. -/
structure HexNumeral (numeral : List UInt8) (value : Nat) : Prop where
  marked : ∃ mark digits, numeral = 48 :: mark :: digits ∧ (mark = 120 ∨ mark = 88) ∧
    DigitsOf 16 digits ∧ numeralValue 16 digits = value

/-- The text denotes a positive decimal integer; there is no minus sign in it. -/
def DenotesPositive (text : List UInt8) (value : Nat) : Prop :=
  ∃ lead digits, text = lead ++ digits ∧ PlainLead lead ∧ DecimalNumeral digits value ∧ 0 < value

/-- What is taken is a positive decimal integer in range, and is stored as that. -/
def MeansPositive (parsed : Option Nat) (largest : Nat) (text : List UInt8) : Prop :=
  ∀ value, parsed = some value → DenotesPositive text value ∧ value ≤ largest

/-- What is taken is a decimal or hexadecimal numeral behind a lead, and is stored as that. -/
def MeansVersion (Lead : List UInt8 → Prop) (text : List UInt8) : Prop :=
  ∀ version, parseQuicVersion text = some version →
    ∃ lead numeral, text = lead ++ numeral ∧ Lead lead ∧
      (DecimalNumeral numeral version.toNat ∨ HexNumeral numeral version.toNat)

/-- White space, a minus sign and a decimal numeral. -/
def NegatedNumeral (text : List UInt8) (magnitude : Nat) : Prop :=
  ∃ spaces digits, text = spaces ++ 45 :: digits ∧ spaces ≠ [] ∧ spaces.all isSpace = true ∧
    DecimalNumeral digits magnitude

/-- A negated numeral that the unsigned conversion brings into the range. -/
def WrapsInto (largest : Nat) (text : List UInt8) : Prop :=
  ∃ magnitude, NegatedNumeral text magnitude ∧ 2 ^ 64 - largest ≤ magnitude ∧
    magnitude < 2 ^ 64

/-- An octal numeral of which more than the last digit counts. -/
structure LongOctal (numeral : List UInt8) : Prop where
  zero : numeral.head? = some 48
  octal : numeral.all (digitBelow 8) = true
  counts : ∃ digit ∈ numeral.dropLast, digit ≠ 48

/-- A numeral that `strtoul` brings into range, though it is negated, octal or behind another
lead. -/
def MisreadVersion (Lead : List UInt8 → Prop) (text : List UInt8) : Prop :=
  ∃ spaces sign body magnitude, NumberText cLocale .detected text spaces sign body magnitude ∧
    magnitude < 2 ^ 64 ∧
    (if sign = .minus then (2 ^ 64 - magnitude) % 2 ^ 64 else magnitude) ≤ uint32Max ∧
    (sign = .minus ∨ ¬ Lead (spaces ++ sign.text) ∨ LongOctal body)

/-! ### Digits -/

section Digits

variable {digits text body : List UInt8} {byte : UInt8} {value magnitude : Nat}

theorem digitBelow_ten : digitBelow 10 byte = decimalDigit byte :=
  @forall_byte (fun byte => digitBelow 10 byte = decimalDigit byte) (by decide +kernel) byte

theorem decimalValue_append (digits : List UInt8) (last : UInt8) :
    decimalValue (digits ++ [last]) = 10 * decimalValue digits + (last.toNat - 48) := by
  rw [decimalValue, List.foldl_append]
  rfl

theorem decimalDigit_value (decimal : decimalDigit byte = true) :
    (hexDigitValue byte).getD 0 = byte.toNat - 48 := by
  rw [hexDigitValue, if_pos decimal]
  rfl

theorem numeralValue_ten (decimal : digits.all decimalDigit = true) :
    numeralValue 10 digits = decimalValue digits := by
  induction digits using List.reverseRecOn with
  | nil => rfl
  | append_singleton digits last inductionHypothesis =>
      rw [List.all_append, Bool.and_eq_true, List.all_cons, Bool.and_eq_true] at decimal
      rw [numeralValue_append, decimalValue_append, inductionHypothesis decimal.1,
        decimalDigit_value decimal.2.1]

theorem numeral_ten_iff : Numeral .ten digits value ↔ DecimalNumeral digits value := by
  have same : ∀ digits : List UInt8, digits.all (digitBelow 10) = digits.all decimalDigit :=
    fun digits => congrArg digits.all (funext fun _ => digitBelow_ten)
  constructor
  · rintro ⟨row⟩
    have decimal := (same digits).symm.trans row.below
    exact ⟨row.nonempty, decimal, (numeralValue_ten decimal).symm⟩
  · rintro ⟨nonempty, decimal, rfl⟩
    rw [← numeralValue_ten decimal]
    exact .ten ⟨nonempty, (same digits).trans decimal⟩

/-- An octal digit is the decimal digit of the same value. -/
theorem octalDigit_value (octal : digitBelow 8 byte = true) :
    decimalDigit byte = true ∧ (hexDigitValue byte).getD 0 = byte.toNat - 48 ∧
      (byte.toNat - 48 = 0 ↔ byte = 48) := by
  have decimal : decimalDigit byte = true := digitBelow_ten ▸ digitBelow_mono octal (by decide)
  refine ⟨decimal, decimalDigit_value decimal, ?_⟩
  rw [decimalDigit, Bool.and_eq_true, decide_eq_true_eq, decide_eq_true_eq, UInt8.le_iff_toNat_le]
    at decimal
  rw [← UInt8.toNat_inj]
  have fortyEight : (48 : UInt8).toNat = 48 := rfl
  omega

theorem octal_decimal (octal : digits.all (digitBelow 8) = true) :
    digits.all decimalDigit = true :=
  List.all_eq_true.mpr fun byte member =>
    (octalDigit_value (List.all_eq_true.mp octal byte member)).1

/-- Octal digits count for no more than decimal ones, and for nothing only when all are zero. -/
theorem numeralValue_eight_le (octal : digits.all (digitBelow 8) = true) :
    numeralValue 8 digits ≤ decimalValue digits ∧
      (decimalValue digits = 0 ↔ ∀ digit ∈ digits, digit = 48) := by
  induction digits using List.reverseRecOn with
  | nil => simp [numeralValue, decimalValue]
  | append_singleton digits last inductionHypothesis =>
      rw [List.all_append, Bool.and_eq_true, List.all_cons, Bool.and_eq_true] at octal
      obtain ⟨less, zeros⟩ := inductionHypothesis octal.1
      obtain ⟨-, value, zero⟩ := octalDigit_value octal.2.1
      rw [numeralValue_append, decimalValue_append, value]
      refine ⟨by omega, ?_⟩
      rw [List.forall_mem_append, ← zeros, List.forall_mem_singleton, ← zero]
      omega

/-- An octal numeral is misread as soon as a digit before its last one counts. -/
theorem numeralValue_eight_eq_iff (octal : digits.all (digitBelow 8) = true) :
    numeralValue 8 digits = decimalValue digits ↔ ∀ digit ∈ digits.dropLast, digit = 48 := by
  induction digits using List.reverseRecOn with
  | nil => simp [numeralValue, decimalValue]
  | append_singleton digits last _ =>
      rw [List.all_append, Bool.and_eq_true, List.all_cons, Bool.and_eq_true] at octal
      obtain ⟨less, zeros⟩ := numeralValue_eight_le octal.1
      obtain ⟨-, value, -⟩ := octalDigit_value octal.2.1
      rw [numeralValue_append, decimalValue_append, value, List.dropLast_concat, ← zeros]
      omega

end Digits

/-! ### Numbers of 32 bits -/

theorem toNat_ofNat_of_fits {value : Nat} (fits : value ≤ uint32Max) :
    (UInt32.ofNat value).toNat = value := by
  rw [uint32Max] at fits
  rw [UInt32.toNat_ofNat', Nat.mod_eq_of_lt (by omega)]

theorem toNat_le_uint32Max (value : UInt32) : value.toNat ≤ uint32Max := by
  have bound : value.toNat < 2 ^ 32 := value.toNat_lt
  rw [uint32Max]
  omega

/-! ### Positive numbers -/

section Positive

variable {text : List UInt8} {value : Nat}

theorem parsePositiveInt_some (parsed : parsePositiveInt text = some value) :
    DenotesPositive text value ∧ value ≤ intMax := by
  rw [parsePositiveInt] at parsed
  split at parsed
  next => contradiction
  next =>
    dsimp only at parsed
    split at parsed
    next => contradiction
    next taken =>
      simp only [not_or, Bool.not_eq_true, Decidable.not_not, Int.not_le, Int.not_lt] at taken
      obtain ⟨inRange, converted, whole, positive, fits⟩ := taken
      obtain ⟨spaces, sign, digits, magnitude, written, signed, -, -⟩ :=
        strtol_whole_iff.mp ⟨inRange, converted, whole, rfl⟩
      rw [signed] at positive fits parsed
      obtain ⟨words, spaced, numeral⟩ := written
      have plain : sign ≠ .minus := by
        rintro rfl
        rw [if_pos rfl] at positive
        omega
      rw [if_neg plain] at positive fits parsed
      obtain rfl := Option.some.inj parsed
      rw [Int.toNat_natCast]
      refine ⟨⟨spaces ++ sign.text, digits, ?_, ⟨spaces, sign, rfl, spaced, plain⟩,
        numeral_ten_iff.mp numeral, by omega⟩, by omega⟩
      rw [words, List.append_assoc]

theorem DenotesPositive.noMinus (denotes : DenotesPositive text value) : 45 ∉ text := by
  obtain ⟨lead, digits, rfl, ⟨spaces, sign, rfl, spaced, plain⟩, numeral, -⟩ := denotes
  rw [List.mem_append, List.mem_append]
  rintro ((space | minus) | digit)
  · exact absurd (List.all_eq_true.mp spaced 45 space) (by decide)
  · cases sign with
    | absent => exact absurd minus List.not_mem_nil
    | plus => exact absurd minus (by decide)
    | minus => exact plain rfl
  · exact absurd (List.all_eq_true.mp numeral.decimal 45 digit) (by decide)

theorem parsePositiveSize_some_iff : parsePositiveSize text = some value ↔
    ∃ spaces sign digits magnitude, NumberText cLocale .ten text spaces sign digits magnitude ∧
      text.head? ≠ some 45 ∧ magnitude < 2 ^ 64 ∧
      value = (if sign = .minus then (2 ^ 64 - magnitude) % 2 ^ 64 else magnitude) ∧
      0 < value := by
  rw [parsePositiveSize]
  constructor
  · intro parsed
    split at parsed
    next => contradiction
    next allowed =>
      dsimp only at parsed
      split at parsed
      next => contradiction
      next taken =>
        simp only [not_or, Bool.not_eq_true, Decidable.not_not] at taken
        obtain ⟨inRange, converted, whole, positive, -⟩ := taken
        obtain rfl := Option.some.inj parsed
        obtain ⟨spaces, sign, digits, magnitude, written, small, known⟩ :=
          strtoull_whole_iff.mp ⟨inRange, converted, whole, rfl⟩
        exact ⟨spaces, sign, digits, magnitude, written, (not_or.mp allowed).2, small, known,
          Nat.pos_of_ne_zero positive⟩
  · rintro ⟨spaces, sign, digits, magnitude, written, allowed, small, known, positive⟩
    have nonempty := written.read.2.1
    obtain ⟨inRange, converted, whole, rfl⟩ := strtoull_whole_iff.mpr
      ⟨spaces, sign, digits, magnitude, written, small, known⟩
    have fits : (strtoull cLocale text .ten).value ≤ sizeMax := by
      rw [known, sizeMax]
      split_ifs <;> omega
    rw [if_neg (not_or.mpr ⟨nonempty, allowed⟩)]
    dsimp only
    rw [if_neg]
    simp only [not_or, Bool.not_eq_true, Decidable.not_not]
    exact ⟨inRange, converted, whole, Nat.ne_of_gt positive, Nat.not_lt.mpr fits⟩

theorem NegatedNumeral.written {magnitude : Nat} (negated : NegatedNumeral text magnitude) :
    text.head? ≠ some 45 ∧ 45 ∈ text ∧ ∃ spaces digits,
      NumberText cLocale .ten text spaces .minus digits magnitude := by
  obtain ⟨spaces, digits, rfl, nonempty, spaced, numeral⟩ := negated
  refine ⟨?_, by simp, spaces, digits, rfl, spaced, numeral_ten_iff.mpr numeral⟩
  cases spaces with
  | nil => contradiction
  | cons space spaces =>
      intro minus
      obtain rfl := Option.some.inj minus
      rw [List.all_cons, Bool.and_eq_true] at spaced
      exact absurd spaced.1 (by decide)

/-- Within a range, a size is what its text denotes unless a negated numeral wraps into the
range. -/
theorem parsePositiveSize_within {largest : Nat} (bound : largest ≤ sizeMax) :
    (∀ value, parsePositiveSize text = some value → value ≤ largest →
      DenotesPositive text value) ↔ ¬ WrapsInto largest text := by
  rw [sizeMax] at bound
  constructor
  · rintro means ⟨magnitude, negated, large, small⟩
    obtain ⟨allowed, minus, spaces, digits, written⟩ := negated.written
    have taken := parsePositiveSize_some_iff.mpr ⟨spaces, .minus, digits, magnitude, written,
      allowed, small, rfl, by rw [if_pos rfl]; omega⟩
    rw [if_pos rfl] at taken
    exact (means _ taken (by omega)).noMinus minus
  · intro unwrapped value parsed fits
    obtain ⟨spaces, sign, digits, magnitude, ⟨words, spaced, numeral⟩, allowed, small, known,
      positive⟩ := parsePositiveSize_some_iff.mp parsed
    have plain : sign ≠ .minus := by
      rintro rfl
      rw [if_pos rfl] at known
      refine unwrapped ⟨magnitude, ⟨spaces, digits, words, ?_, spaced, numeral_ten_iff.mp numeral⟩,
        by omega, small⟩
      rintro rfl
      exact allowed (words ▸ rfl)
    rw [if_neg plain] at known
    subst known
    refine ⟨spaces ++ sign.text, digits, ?_, ⟨spaces, sign, rfl, spaced, plain⟩,
      numeral_ten_iff.mp numeral, positive⟩
    rw [words, List.append_assoc]

theorem parsePositiveUint32_some_iff :
    (parsePositiveUint32 text).map UInt32.toNat = some value ↔
      parsePositiveSize text = some value ∧ value ≤ uint32Max := by
  rw [parsePositiveUint32]
  cases parsePositiveSize text with
  | none => simp
  | some parsed =>
      dsimp only
      constructor
      · intro taken
        split at taken
        next => contradiction
        next fits =>
          have small := Nat.not_lt.mp fits
          rw [Option.map_some, toNat_ofNat_of_fits small] at taken
          obtain rfl := Option.some.inj taken
          exact ⟨rfl, small⟩
      · rintro ⟨same, fits⟩
        obtain rfl := Option.some.inj same
        rw [if_neg (Nat.not_lt.mpr fits), Option.map_some, toNat_ofNat_of_fits fits]

end Positive

/-! ### Versions -/

section Versions

variable {text spaces otherSpaces body other : List UInt8} {sign otherSign : NumberSign}
variable {version : UInt32} {value magnitude : Nat} {Lead : List UInt8 → Prop}

theorem parseQuicVersion_some_iff : parseQuicVersion text = some version ↔
    ∃ spaces sign body magnitude,
      NumberText cLocale .detected text spaces sign body magnitude ∧ magnitude < 2 ^ 64 ∧
      version.toNat = if sign = .minus then (2 ^ 64 - magnitude) % 2 ^ 64 else magnitude := by
  rw [parseQuicVersion]
  constructor
  · intro parsed
    split at parsed
    next => contradiction
    next =>
      dsimp only at parsed
      split at parsed
      next => contradiction
      next taken =>
        simp only [not_or, Bool.not_eq_true, Decidable.not_not, Nat.not_lt] at taken
        obtain ⟨inRange, converted, whole, fits⟩ := taken
        obtain rfl := Option.some.inj parsed
        rw [toNat_ofNat_of_fits fits]
        exact strtoull_whole_iff.mp ⟨inRange, converted, whole, rfl⟩
  · rintro ⟨spaces, sign, body, magnitude, written, small, known⟩
    have nonempty := written.read.2.1
    obtain ⟨inRange, converted, whole, same⟩ := strtoull_whole_iff.mpr
      ⟨spaces, sign, body, magnitude, written, small, known⟩
    have fits := toNat_le_uint32Max version
    rw [if_neg nonempty]
    dsimp only [strtoul]
    rw [if_neg]
    · rw [same, UInt32.ofNat_toNat]
    · simp only [not_or, Bool.not_eq_true, Decidable.not_not, same]
      exact ⟨inRange, converted, whole, Nat.not_lt.mpr fits⟩

/-- White space, sign and numeral of a text are unique. -/
theorem parts_unique {first otherFirst : UInt8} {rest otherRest : List UInt8}
    (spaced : spaces.all isSpace = true) (otherSpaced : otherSpaces.all isSpace = true)
    (digit : (hexDigitValue first).isSome = true)
    (otherDigit : (hexDigitValue otherFirst).isSome = true)
    (same : spaces ++ (sign.text ++ first :: rest) =
      otherSpaces ++ (otherSign.text ++ otherFirst :: otherRest)) :
    spaces = otherSpaces ∧ sign = otherSign ∧ first :: rest = otherFirst :: otherRest := by
  obtain ⟨taken, left⟩ := @spaces_taken cLocale _ _ spaced (sign.stops cLocale digit)
  obtain ⟨otherTaken, otherLeft⟩ :=
    @spaces_taken cLocale _ _ otherSpaced (otherSign.stops cLocale otherDigit)
  rw [same] at taken left
  have behind := left.symm.trans otherLeft
  have signs := congrArg readSign behind
  rw [readSign_text sign digit, readSign_text otherSign otherDigit] at signs
  subst signs
  exact ⟨taken.symm.trans otherTaken, rfl, List.append_cancel_left behind⟩

theorem DecimalNumeral.starts (numeral : DecimalNumeral body value) :
    ∃ first rest, body = first :: rest ∧ (hexDigitValue first).isSome = true :=
  (numeral_ten_iff.mpr numeral).starts

theorem HexNumeral.starts (numeral : HexNumeral body value) :
    ∃ first rest, body = first :: rest ∧ (hexDigitValue first).isSome = true := by
  obtain ⟨mark, digits, rfl, -, -, -⟩ := numeral.marked
  exact ⟨48, _, rfl, rfl⟩

theorem LongOctal.not_hex (octal : LongOctal body) : ¬ HexNumeral body value := by
  rintro ⟨mark, digits, rfl, marked, -, -⟩
  have below := octal.octal
  rw [List.all_cons, List.all_cons, Bool.and_eq_true, Bool.and_eq_true] at below
  rcases marked with rfl | rfl
  · exact absurd below.2.1 (by decide)
  · exact absurd below.2.1 (by decide)

/-- An octal numeral with digits that count is read as what it does not denote in decimal. -/
theorem LongOctal.misread (octal : LongOctal body) (numeral : Numeral .detected body magnitude) :
    ¬ DecimalNumeral body magnitude := by
  intro decimal
  obtain ⟨digit, member, counts⟩ := octal.counts
  cases numeral with
  | decimal row lead => exact lead octal.zero
  | octal row =>
      exact counts ((numeralValue_eight_eq_iff row.below).mp decimal.value_eq.symm digit member)
  | hexadecimal row marked => exact octal.not_hex ⟨_, _, rfl, marked, row, rfl⟩

/-- Any other numeral is read as what it denotes. -/
theorem numeral_denotes (numeral : Numeral .detected body magnitude)
    (short : ¬ LongOctal body) : DecimalNumeral body magnitude ∨ HexNumeral body magnitude := by
  cases numeral with
  | decimal row lead => exact Or.inl (numeral_ten_iff.mp (.ten row))
  | hexadecimal row marked => exact Or.inr ⟨_, _, rfl, marked, row, rfl⟩
  | octal row =>
      refine Or.inl ⟨row.nonempty, octal_decimal row.below, ?_⟩
      refine ((numeralValue_eight_eq_iff row.below).mpr fun digit member => ?_).symm
      by_contra counts
      exact short ⟨rfl, row.below, digit, member, counts⟩

/-- Whatever may stand in front of a numeral, the version is what its text denotes unless it is
misread. -/
theorem meansVersion_iff (plain : ∀ lead, Lead lead → PlainLead lead) :
    MeansVersion Lead text ↔ ¬ MisreadVersion Lead text := by
  constructor
  · rintro means ⟨spaces, sign, body, magnitude, written, small, fits, misread⟩
    obtain ⟨words, spaced, numeral⟩ := written
    obtain ⟨first, rest, rfl, digit⟩ := numeral.starts
    have stored := toNat_ofNat_of_fits fits
    obtain ⟨lead, written, sameWords, leads, denotes⟩ := means _ (parseQuicVersion_some_iff.mpr
      ⟨spaces, sign, _, magnitude, ⟨words, spaced, numeral⟩, small, stored⟩)
    rw [stored] at denotes
    obtain ⟨otherSpaces, otherSign, rfl, otherSpaced, unsigned⟩ := plain lead leads
    obtain ⟨otherFirst, otherRest, rfl, otherDigit⟩ :
        ∃ first rest, written = first :: rest ∧ (hexDigitValue first).isSome = true :=
      denotes.elim DecimalNumeral.starts HexNumeral.starts
    rw [words, List.append_assoc] at sameWords
    obtain ⟨rfl, rfl, sameNumeral⟩ := parts_unique spaced otherSpaced digit otherDigit sameWords
    rw [if_neg unsigned, ← sameNumeral] at denotes
    rcases misread with minus | notLead | octal
    · exact unsigned minus
    · exact notLead leads
    · exact denotes.elim (octal.misread numeral) octal.not_hex
  · intro read version parsed
    obtain ⟨spaces, sign, body, magnitude, ⟨words, spaced, numeral⟩, small, known⟩ :=
      parseQuicVersion_some_iff.mp parsed
    have fits := toNat_le_uint32Max version
    have right : ¬ (sign = .minus ∨ ¬ Lead (spaces ++ sign.text) ∨ LongOctal body) :=
      fun misread => read ⟨spaces, sign, body, magnitude, ⟨words, spaced, numeral⟩, small,
        known ▸ fits, misread⟩
    rw [not_or, not_or, not_not] at right
    obtain ⟨unsigned, leads, short⟩ := right
    rw [if_neg unsigned] at known
    rw [known]
    exact ⟨spaces ++ sign.text, body, words.trans (List.append_assoc _ _ _).symm, leads,
      numeral_denotes numeral short⟩

end Versions

/-! ### Main results -/

/-- Counts are always what they say; sizes, timeouts and versions unless the text is one of the
further notations that the unsigned conversions bring into range. -/
theorem numeric_options_iff (text : List UInt8) :
    MeansPositive (parsePositiveInt text) intMax text ∧
    (MeansPositive (parsePositiveSize text) sizeMax text ↔ ¬ WrapsInto sizeMax text) ∧
    (MeansPositive ((parsePositiveUint32 text).map UInt32.toNat) uint32Max text ↔
      ¬ WrapsInto uint32Max text) ∧
    (MeansVersion PlainLead text ↔ ¬ MisreadVersion PlainLead text) ∧
    (MeansVersion NoLead text ↔ ¬ MisreadVersion NoLead text) := by
  refine ⟨fun _ => parsePositiveInt_some, ?_, ?_, meansVersion_iff fun _ => id,
    meansVersion_iff ?_⟩
  · rw [← parsePositiveSize_within (Nat.le_refl _), MeansPositive]
    have bounded : ∀ value, parsePositiveSize text = some value → value ≤ sizeMax := by
      intro value parsed
      obtain ⟨spaces, sign, digits, magnitude, -, -, small, known, -⟩ :=
        parsePositiveSize_some_iff.mp parsed
      rw [known, sizeMax]
      split_ifs <;> omega
    constructor
    · exact fun means value parsed _ => (means value parsed).1
    · exact fun means value parsed => ⟨means value parsed (bounded value parsed),
        bounded value parsed⟩
  · rw [← parsePositiveSize_within (show uint32Max ≤ sizeMax by decide), MeansPositive]
    constructor
    · intro means value parsed fits
      exact (means value (parsePositiveUint32_some_iff.mpr ⟨parsed, fits⟩)).1
    · intro means value parsed
      obtain ⟨size, fits⟩ := parsePositiveUint32_some_iff.mp parsed
      exact ⟨means value size fits, fits⟩
  · rintro lead rfl
    exact ⟨[], .absent, rfl, rfl, by decide⟩

/-- A blank hides the minus sign, and the negated size wraps to one. -/
theorem negated_size_accepted : ¬ ∀ text, MeansPositive (parsePositiveSize text) sizeMax text := by
  intro means
  have taken : parsePositiveSize (ascii " -18446744073709551615") = some 1 := by decide +kernel
  exact (means _ 1 taken).1.noMinus (by decide +kernel)

/-- A leading zero makes a version octal. -/
theorem octal_version_accepted : ¬ MeansVersion PlainLead (ascii "010") := by
  rw [meansVersion_iff fun _ => id, not_not]
  refine ⟨[], .absent, ascii "010", 8, ⟨rfl, rfl, ?_⟩, by decide, by decide, Or.inr (Or.inr ?_)⟩
  · exact .octal ⟨by decide, by decide +kernel⟩
  · exact ⟨rfl, by decide +kernel, 49, by decide, by decide⟩

end MiniSniffer
