import MiniSniffer.Foundation.Digits

/-!
Contract: the conversions of texts to integers in the C library (`strtol` and its family), where
`long` and `long long` have 64 bits.

Owns what a conversion reads off the front of a text in base 10 and with a detected base, what the
signed and the unsigned conversion make of it, the grammar of the texts that are converted whole,
and that a conversion takes a text whole exactly when the grammar has it, with the same sign and
magnitude.

Does not own which numbers a caller lets through.
-/

namespace MiniSniffer.Foundation

/-! ### Texts -/

/-- What `isspace` says; no locale counts a sign or a digit as white space. -/
structure TextLocale where
  isSpace : UInt8 → Bool
  noPlus : isSpace 43 = false
  noMinus : isSpace 45 = false
  noDigit : ∀ byte, (hexDigitValue byte).isSome = true → isSpace byte = false

/-- The `base` argument: 10, or 0 for a base that the text itself shows. -/
inductive NumberBase where
  | ten
  | detected
deriving DecidableEq, Repr

inductive NumberSign where
  | absent
  | plus
  | minus
deriving DecidableEq, Repr

def NumberSign.text : NumberSign → List UInt8
  | .absent => []
  | .plus => [43]
  | .minus => [45]

def digitBelow (base : Nat) (byte : UInt8) : Bool := (hexDigitValue byte).any (· < base)

/-- The number that a row of digits stands for in a base up to 16. -/
def numeralValue (base : Nat) (digits : List UInt8) : Nat :=
  digits.foldl (fun value digit => base * value + (hexDigitValue digit).getD 0) 0

theorem numeralValue_append (base : Nat) (digits : List UInt8) (last : UInt8) :
    numeralValue base (digits ++ [last]) =
      base * numeralValue base digits + (hexDigitValue last).getD 0 := by
  rw [numeralValue, List.foldl_append]
  rfl

/-! ### Conversions -/

def readSign (text : List UInt8) : NumberSign :=
  if text.head? = some 43 then .plus else if text.head? = some 45 then .minus else .absent

/-- The base of the digits, and the length of the mark in front of them: `0x` with a digit behind it
is hexadecimal, any other `0` octal. -/
def chosenBase : NumberBase → List UInt8 → Nat × Nat
  | .ten, _ => (10, 0)
  | .detected, body =>
      if body.head? = some 48 then
        if (body[1]? = some 120 ∨ body[1]? = some 88) ∧ body[2]?.any (digitBelow 16) = true then
          (16, 2)
        else (8, 0)
      else (10, 0)

/-- What is read off the front of a text; nothing is consumed when no digit is found. -/
structure NumberRead where
  sign : NumberSign
  magnitude : Nat
  consumed : Nat
deriving DecidableEq, Repr

def readNumberText (locale : TextLocale) (base : NumberBase) (text : List UInt8) : NumberRead :=
  let spaces := text.takeWhile locale.isSpace
  let afterSpaces := text.dropWhile locale.isSpace
  let sign := readSign afterSpaces
  let body := afterSpaces.drop sign.text.length
  let chosen := chosenBase base body
  let digits := (body.drop chosen.2).takeWhile (digitBelow chosen.1)
  { sign := sign
    magnitude := numeralValue chosen.1 digits
    consumed :=
      if digits = [] then 0
      else spaces.length + sign.text.length + chosen.2 + digits.length }

/-- The value returned, whether `errno` is set to `ERANGE`, and how far `end` is past the text. -/
structure Conversion (Value : Type) where
  value : Value
  rangeError : Bool
  consumed : Nat
deriving DecidableEq, Repr

def strtol (locale : TextLocale) (text : List UInt8) (base : NumberBase) : Conversion Int :=
  let read := readNumberText locale base text
  let signed : Int := if read.sign = .minus then -read.magnitude else read.magnitude
  if signed > 2 ^ 63 - 1 then ⟨2 ^ 63 - 1, true, read.consumed⟩
  else if signed < -2 ^ 63 then ⟨-2 ^ 63, true, read.consumed⟩
  else ⟨signed, false, read.consumed⟩

/-- A minus sign negates modulo `2^64`. -/
def strtoull (locale : TextLocale) (text : List UInt8) (base : NumberBase) : Conversion Nat :=
  let read := readNumberText locale base text
  if read.magnitude > 2 ^ 64 - 1 then ⟨2 ^ 64 - 1, true, read.consumed⟩
  else if read.sign = .minus then ⟨(2 ^ 64 - read.magnitude) % 2 ^ 64, false, read.consumed⟩
  else ⟨read.magnitude, false, read.consumed⟩

def strtoul (locale : TextLocale) (text : List UInt8) (base : NumberBase) : Conversion Nat :=
  strtoull locale text base

/-! ### Numerals -/

/-- A row of digits of one base. -/
structure DigitsOf (base : Nat) (digits : List UInt8) : Prop where
  nonempty : digits ≠ []
  below : digits.all (digitBelow base) = true

/-- The numerals of a base and their values. -/
inductive Numeral : NumberBase → List UInt8 → Nat → Prop
  | ten {digits : List UInt8} (row : DigitsOf 10 digits) :
      Numeral .ten digits (numeralValue 10 digits)
  | decimal {digits : List UInt8} (row : DigitsOf 10 digits) (lead : digits.head? ≠ some 48) :
      Numeral .detected digits (numeralValue 10 digits)
  | octal {digits : List UInt8} (row : DigitsOf 8 (48 :: digits)) :
      Numeral .detected (48 :: digits) (numeralValue 8 (48 :: digits))
  | hexadecimal {digits : List UInt8} {mark : UInt8} (row : DigitsOf 16 digits)
      (marked : mark = 120 ∨ mark = 88) :
      Numeral .detected (48 :: mark :: digits) (numeralValue 16 digits)

/-- White space, a sign or none, and a numeral. -/
structure NumberText (locale : TextLocale) (base : NumberBase) (text spaces : List UInt8)
    (sign : NumberSign) (body : List UInt8) (magnitude : Nat) : Prop where
  words : text = spaces ++ (sign.text ++ body)
  spaced : spaces.all locale.isSpace = true
  numeral : Numeral base body magnitude

/-! ### Conversion of a whole text -/

section Whole

variable {locale : TextLocale} {base : NumberBase} {text spaces body digits : List UInt8}
variable {sign : NumberSign} {magnitude : Nat} {byte : UInt8}

theorem digitBelow_isSome {bound : Nat} (below : digitBelow bound byte = true) :
    (hexDigitValue byte).isSome = true := by
  rw [digitBelow] at below
  cases value : hexDigitValue byte with
  | none => simp [value] at below
  | some value => rfl

theorem Numeral.starts (numeral : Numeral base body magnitude) :
    ∃ first rest, body = first :: rest ∧ (hexDigitValue first).isSome = true := by
  have row : ∀ {bound : Nat} {digits : List UInt8}, DigitsOf bound digits →
      ∃ first rest, digits = first :: rest ∧ (hexDigitValue first).isSome = true := by
    intro bound digits row
    obtain ⟨first, rest, rfl⟩ := List.exists_cons_of_ne_nil row.nonempty
    have below := row.below
    rw [List.all_cons, Bool.and_eq_true] at below
    exact ⟨first, rest, rfl, digitBelow_isSome below.1⟩
  cases numeral with
  | ten digits => exact row digits
  | decimal digits _ => exact row digits
  | octal digits => exact row digits
  | hexadecimal digits _ => exact ⟨48, _, rfl, rfl⟩

/-- White space is taken off as far as it goes. -/
theorem spaces_taken {rest : List UInt8} (spaced : spaces.all locale.isSpace = true)
    (stops : ∀ first more, rest = first :: more → locale.isSpace first = false) :
    (spaces ++ rest).takeWhile locale.isSpace = spaces ∧
      (spaces ++ rest).dropWhile locale.isSpace = rest := by
  induction spaces with
  | nil =>
      cases rest with
      | nil => exact ⟨rfl, rfl⟩
      | cons first more =>
          have stop : ¬ locale.isSpace first = true := by
            rw [stops first more rfl]
            decide
          rw [List.nil_append, List.takeWhile_cons_of_neg stop, List.dropWhile_cons_of_neg stop]
          exact ⟨rfl, rfl⟩
  | cons space spaces inductionHypothesis =>
      rw [List.all_cons, Bool.and_eq_true] at spaced
      obtain ⟨taken, left⟩ := inductionHypothesis spaced.2
      rw [List.cons_append, List.takeWhile_cons_of_pos spaced.1,
        List.dropWhile_cons_of_pos spaced.1, taken, left]
      exact ⟨rfl, rfl⟩

/-- White space ends at a sign, and at a digit. -/
theorem NumberSign.stops (sign : NumberSign) (locale : TextLocale) {first : UInt8}
    {rest : List UInt8} (digit : (hexDigitValue first).isSome = true) (head : UInt8)
    (more : List UInt8) (same : sign.text ++ first :: rest = head :: more) :
    locale.isSpace head = false := by
  cases sign with
  | absent => exact (List.cons.inj same).1 ▸ locale.noDigit first digit
  | plus => exact (List.cons.inj same).1 ▸ locale.noPlus
  | minus => exact (List.cons.inj same).1 ▸ locale.noMinus

theorem readSign_text (sign : NumberSign) {first : UInt8} {rest : List UInt8}
    (digit : (hexDigitValue first).isSome = true) :
    readSign (sign.text ++ first :: rest) = sign := by
  cases sign with
  | plus => rfl
  | minus => rfl
  | absent =>
      have notPlus : first ≠ 43 := by
        rintro rfl
        exact absurd digit (by decide)
      have notMinus : first ≠ 45 := by
        rintro rfl
        exact absurd digit (by decide)
      simp [NumberSign.text, readSign, notPlus, notMinus]

theorem readSign_split (text : List UInt8) :
    text = (readSign text).text ++ text.drop (readSign text).text.length := by
  unfold readSign
  cases text with
  | nil => rfl
  | cons first rest =>
      simp only [List.head?_cons, Option.some.injEq]
      split
      next plus => rw [plus]; rfl
      next =>
        split
        next minus => rw [minus]; rfl
        next => rfl

theorem digitBelow_mono {bound wider : Nat} (below : digitBelow bound byte = true)
    (le : bound ≤ wider) : digitBelow wider byte = true := by
  rw [digitBelow, Option.any_eq_true] at below ⊢
  obtain ⟨value, known, small⟩ := below
  exact ⟨value, known, decide_eq_true (Nat.lt_of_lt_of_le (of_decide_eq_true small) le)⟩

theorem takeWhile_row {bound : Nat} (row : DigitsOf bound digits) :
    digits.takeWhile (digitBelow bound) = digits :=
  List.takeWhile_eq_self_iff.mpr (List.all_eq_true.mp row.below)

/-- What the conversion makes of a numeral: all of it is digits behind a mark. -/
theorem Numeral.chosen (numeral : Numeral base body magnitude) :
    let chosen := chosenBase base body
    (body.drop chosen.2).takeWhile (digitBelow chosen.1) = body.drop chosen.2 ∧
      body.drop chosen.2 ≠ [] ∧ chosen.2 ≤ body.length ∧
      numeralValue chosen.1 (body.drop chosen.2) = magnitude := by
  cases numeral with
  | ten row => exact ⟨takeWhile_row row, row.nonempty, Nat.zero_le _, rfl⟩
  | decimal row lead =>
      have chosen : chosenBase .detected body = (10, 0) := if_neg lead
      rw [chosen]
      exact ⟨takeWhile_row row, row.nonempty, Nat.zero_le _, rfl⟩
  | @octal digits row =>
      have chosen : chosenBase .detected (48 :: digits) = (8, 0) := by
        have noMark : ¬ ((48 :: digits)[1]? = some 120 ∨ (48 :: digits)[1]? = some 88) := by
          have below := row.below
          rw [List.all_cons, Bool.and_eq_true] at below
          cases digits with
          | nil => simp
          | cons mark digits =>
              rw [List.all_cons, Bool.and_eq_true] at below
              rintro (lower | upper)
              · obtain rfl := Option.some.inj lower
                exact absurd below.2.1 (by decide)
              · obtain rfl := Option.some.inj upper
                exact absurd below.2.1 (by decide)
        rw [chosenBase, if_pos List.head?_cons]
        exact if_neg fun marked => noMark marked.1
      rw [chosen]
      exact ⟨takeWhile_row row, row.nonempty, Nat.zero_le _, rfl⟩
  | @hexadecimal digits mark row marked =>
      have chosen : chosenBase .detected (48 :: mark :: digits) = (16, 2) := by
        obtain ⟨first, rest, rfl⟩ := List.exists_cons_of_ne_nil row.nonempty
        have below := row.below
        rw [List.all_cons, Bool.and_eq_true] at below
        simp [chosenBase, marked, below.1]
      rw [chosen]
      exact ⟨takeWhile_row row, row.nonempty, by simp, rfl⟩

/-- A text of the grammar is converted whole. -/
theorem NumberText.read (written : NumberText locale base text spaces sign body magnitude) :
    readNumberText locale base text = ⟨sign, magnitude, text.length⟩ ∧ text ≠ [] ∧
      text.takeWhile locale.isSpace = spaces := by
  obtain ⟨rfl, spaced, numeral⟩ := written
  obtain ⟨first, rest, rfl, digit⟩ := numeral.starts
  obtain ⟨taken, left⟩ := spaces_taken spaced (sign.stops locale digit)
  obtain ⟨whole, nonempty, inside, value⟩ := numeral.chosen
  refine ⟨?_, by simp, taken⟩
  rw [readNumberText, taken, left, readSign_text sign digit, List.drop_left]
  simp only [whole, if_neg nonempty, value, NumberRead.mk.injEq, true_and]
  rw [List.length_drop, List.length_append, List.length_append]
  omega

/-- What is read as digits to the end of a text is a numeral. -/
theorem numeral_of_chosen
    (whole : (body.drop (chosenBase base body).2).takeWhile (digitBelow (chosenBase base body).1) =
      body.drop (chosenBase base body).2)
    (nonempty : body.drop (chosenBase base body).2 ≠ []) :
    Numeral base body
      (numeralValue (chosenBase base body).1 (body.drop (chosenBase base body).2)) := by
  have row : DigitsOf (chosenBase base body).1 (body.drop (chosenBase base body).2) :=
    ⟨nonempty, List.all_eq_true.mpr (List.takeWhile_eq_self_iff.mp whole)⟩
  clear whole nonempty
  cases base with
  | ten => exact .ten row
  | detected =>
      by_cases zero : body.head? = some 48
      · obtain ⟨rest, rfl⟩ : ∃ rest, body = 48 :: rest := by
          cases body with
          | nil => contradiction
          | cons first rest => exact ⟨rest, by rw [Option.some.inj zero]⟩
        by_cases marked : ((48 :: rest)[1]? = some 120 ∨ (48 :: rest)[1]? = some 88) ∧
            (48 :: rest)[2]?.any (digitBelow 16) = true
        · have chosen : chosenBase .detected (48 :: rest) = (16, 2) := by
            rw [chosenBase, if_pos zero, if_pos marked]
          rw [chosen] at row ⊢
          cases rest with
          | nil => simp at marked
          | cons mark digits =>
              refine .hexadecimal row ?_
              exact marked.1.imp Option.some.inj Option.some.inj
        · have chosen : chosenBase .detected (48 :: rest) = (8, 0) := by
            rw [chosenBase, if_pos zero, if_neg marked]
          rw [chosen] at row ⊢
          exact .octal row
      · have chosen : chosenBase .detected body = (10, 0) := if_neg zero
        rw [chosen] at row ⊢
        exact .decimal row zero

/-- A text that is converted whole is of the grammar. -/
theorem numberText_of_read
    (converted : (readNumberText locale base text).consumed ≠ 0)
    (whole : text.drop (readNumberText locale base text).consumed = []) :
    ∃ spaces body, NumberText locale base text spaces (readNumberText locale base text).sign body
      (readNumberText locale base text).magnitude := by
  have consumedWhole := List.drop_eq_nil_iff.mp whole
  clear whole
  revert converted consumedWhole
  simp only [readNumberText]
  have words : text = text.takeWhile locale.isSpace ++ text.dropWhile locale.isSpace :=
    List.takeWhile_append_dropWhile.symm
  have spaced : (text.takeWhile locale.isSpace).all locale.isSpace = true :=
    List.all_eq_true.mpr fun _ member => List.mem_takeWhile_imp member
  generalize text.takeWhile locale.isSpace = spaces at words spaced ⊢
  generalize text.dropWhile locale.isSpace = afterSpaces at words ⊢
  have signed := readSign_split afterSpaces
  generalize readSign afterSpaces = sign at signed ⊢
  generalize afterSpaces.drop sign.text.length = body at signed ⊢
  intro converted consumedWhole
  have total : text.length = spaces.length + (sign.text.length + body.length) := by
    rw [words, signed, List.length_append, List.length_append]
  have split := List.takeWhile_append_dropWhile (p := digitBelow (chosenBase base body).1)
    (l := body.drop (chosenBase base body).2)
  generalize found : (body.drop (chosenBase base body).2).takeWhile
    (digitBelow (chosenBase base body).1) = digits at converted consumedWhole split ⊢
  have someDigit : digits ≠ [] := by
    intro none
    rw [if_pos none] at converted
    exact converted rfl
  rw [if_neg someDigit] at consumedWhole
  have lengths := congrArg List.length split
  rw [List.length_append, List.length_drop] at lengths
  have positive := List.length_pos_iff.mpr someDigit
  -- the digits reach the end of the text
  have nothingLeft : (body.drop (chosenBase base body).2).dropWhile
      (digitBelow (chosenBase base body).1) = [] := by
    rw [← List.length_eq_zero_iff]
    omega
  rw [nothingLeft, List.append_nil] at split
  have numeral := @numeral_of_chosen base body (found.trans split) (split ▸ someDigit)
  rw [← split] at numeral
  exact ⟨spaces, body, words.trans (congrArg (spaces ++ ·) signed), spaced, numeral⟩

/-- A text is read whole, as a sign and a magnitude, exactly when the grammar has it with them. -/
theorem readNumberText_whole_iff :
    ((readNumberText locale base text).consumed ≠ 0 ∧
        text.drop (readNumberText locale base text).consumed = [] ∧
        (readNumberText locale base text).sign = sign ∧
        (readNumberText locale base text).magnitude = magnitude) ↔
      ∃ spaces body, NumberText locale base text spaces sign body magnitude := by
  constructor
  · rintro ⟨converted, whole, rfl, rfl⟩
    exact numberText_of_read converted whole
  · rintro ⟨spaces, body, written⟩
    obtain ⟨read, nonempty, -⟩ := written.read
    rw [read]
    exact ⟨fun none => nonempty (List.length_eq_zero_iff.mp none), List.drop_length, rfl, rfl⟩

theorem strtoull_consumed : (strtoull locale text base).consumed =
    (readNumberText locale base text).consumed := by
  simp only [strtoull]
  split_ifs <;> rfl

theorem strtol_consumed : (strtol locale text base).consumed =
    (readNumberText locale base text).consumed := by
  simp only [strtol]
  split_ifs <;> rfl

/-- The unsigned conversion takes exactly the texts of the grammar below `2^64` whole and in
range. -/
theorem strtoull_whole_iff {value : Nat} :
    ((strtoull locale text base).rangeError = false ∧
        (strtoull locale text base).consumed ≠ 0 ∧
        text.drop (strtoull locale text base).consumed = [] ∧
        (strtoull locale text base).value = value) ↔
      ∃ spaces sign body magnitude, NumberText locale base text spaces sign body magnitude ∧
        magnitude < 2 ^ 64 ∧
        value = if sign = .minus then (2 ^ 64 - magnitude) % 2 ^ 64 else magnitude := by
  rw [strtoull_consumed]
  constructor
  · rintro ⟨inRange, converted, whole, rfl⟩
    obtain ⟨spaces, body, written⟩ := readNumberText_whole_iff.mp ⟨converted, whole, rfl, rfl⟩
    refine ⟨spaces, _, body, _, written, ?_⟩
    simp only [strtoull] at inRange ⊢
    split_ifs at inRange ⊢ with large negative
    · exact ⟨by omega, rfl⟩
    · exact ⟨by omega, rfl⟩
  · rintro ⟨spaces, sign, body, magnitude, written, small, rfl⟩
    obtain ⟨converted, whole, rfl, rfl⟩ := readNumberText_whole_iff.mpr ⟨spaces, body, written⟩
    have inRange : ¬ (readNumberText locale base text).magnitude > 2 ^ 64 - 1 := by omega
    simp only [strtoull, if_neg inRange]
    refine ⟨?_, converted, whole, ?_⟩
    · split_ifs <;> rfl
    · split_ifs <;> rfl

/-- The signed conversion takes exactly the texts of the grammar whole and in range whose value has
64 bits with its sign. -/
theorem strtol_whole_iff {value : Int} :
    ((strtol locale text base).rangeError = false ∧ (strtol locale text base).consumed ≠ 0 ∧
        text.drop (strtol locale text base).consumed = [] ∧
        (strtol locale text base).value = value) ↔
      ∃ spaces sign body magnitude, NumberText locale base text spaces sign body magnitude ∧
        value = (if sign = .minus then -(magnitude : Int) else magnitude) ∧
        -2 ^ 63 ≤ value ∧ value ≤ 2 ^ 63 - 1 := by
  rw [strtol_consumed]
  constructor
  · rintro ⟨inRange, converted, whole, rfl⟩
    obtain ⟨spaces, body, written⟩ := readNumberText_whole_iff.mp ⟨converted, whole, rfl, rfl⟩
    refine ⟨spaces, _, body, _, written, ?_⟩
    simp only [strtol] at inRange ⊢
    generalize (if (readNumberText locale base text).sign = NumberSign.minus then
      -((readNumberText locale base text).magnitude : Int)
      else ((readNumberText locale base text).magnitude : Int)) = signed at inRange ⊢
    split_ifs at inRange ⊢ with large low
    exact ⟨rfl, Int.not_lt.mp low, Int.not_lt.mp large⟩
  · rintro ⟨spaces, sign, body, magnitude, written, known, low, high⟩
    obtain ⟨converted, whole, rfl, rfl⟩ := readNumberText_whole_iff.mpr ⟨spaces, body, written⟩
    simp only [strtol, ← known]
    rw [if_neg (by omega), if_neg (by omega)]
    exact ⟨rfl, converted, whole, rfl⟩

end Whole

end MiniSniffer.Foundation
