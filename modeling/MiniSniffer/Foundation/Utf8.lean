import Mathlib.Data.List.Basic

/-!
Contract: texts in UTF-8.

Owns the byte strings that encode characters of an allowed kind, how such a string splits at an
ASCII byte, and what rewriting its ASCII bytes leaves of the rest.

Does not own the encoding of a character, which is that of `String`.
-/

namespace MiniSniffer.Foundation

/-- The bytes encode characters, all of them allowed. -/
def Utf8Text (Allowed : Char → Prop) (bytes : List UInt8) : Prop :=
  ∃ characters : List Char, characters.flatMap String.utf8EncodeChar = bytes ∧
    ∀ character ∈ characters, Allowed character

/-- C1 -/
def HighControl (character : Char) : Prop := 128 ≤ character.toNat ∧ character.toNat < 160

/-- C0, DEL or C1 -/
def ControlChar (character : Char) : Prop :=
  character.toNat < 32 ∨ character.toNat = 127 ∨ HighControl character

/-- The character of an ASCII byte. -/
def asciiChar (byte : UInt8) : Char := Char.ofNat byte.toNat

section Characters

variable {character : Char} {byte : UInt8}

theorem utf8EncodeChar_asciiChar (low : byte < 128) :
    String.utf8EncodeChar (asciiChar byte) = [byte] := by
  have small : byte.toNat < 128 := low
  have known : ∀ value < 128,
      String.utf8EncodeChar (Char.ofNat value) = [UInt8.ofNat value] := by decide
  simpa [asciiChar] using known byte.toNat small

/-- Beyond ASCII every byte of a character is. -/
theorem utf8EncodeChar_high (high : 128 ≤ character.toNat) :
    ∀ byte ∈ String.utf8EncodeChar character, 128 ≤ byte := by
  have large : ∀ value, 128 ≤ value → value < 256 → (128 : UInt8) ≤ UInt8.ofNat value := by
    intro value lower upper
    rw [UInt8.le_iff_toNat_le, UInt8.toNat_ofNat', Nat.mod_eq_of_lt upper]
    exact lower
  have long : ¬ character.val.toNat ≤ 127 := Nat.not_le.mpr high
  intro byte member
  simp only [String.utf8EncodeChar, if_neg long] at member
  split_ifs at member
  · simp only [List.mem_cons, List.not_mem_nil, or_false] at member
    rcases member with rfl | rfl <;> exact large _ (by omega) (by omega)
  · simp only [List.mem_cons, List.not_mem_nil, or_false] at member
    rcases member with rfl | rfl | rfl <;> exact large _ (by omega) (by omega)
  · simp only [List.mem_cons, List.not_mem_nil, or_false] at member
    rcases member with rfl | rfl | rfl | rfl <;> exact large _ (by omega) (by omega)

theorem exists_asciiChar (low : character.toNat < 128) :
    ∃ byte < 128, character = asciiChar byte := by
  have small : (UInt8.ofNat character.toNat).toNat = character.toNat := by
    rw [UInt8.toNat_ofNat']
    omega
  refine ⟨UInt8.ofNat character.toNat, ?_, ?_⟩
  · rw [UInt8.lt_iff_toNat_lt, small]
    exact low
  · rw [asciiChar, small, Char.ofNat_toNat]

end Characters

section Texts

variable {Allowed : Char → Prop} {byte : UInt8} {text rest : List UInt8}

theorem utf8Text_nil : Utf8Text Allowed [] :=
  ⟨[], rfl, fun _ member => absurd member List.not_mem_nil⟩

theorem Utf8Text.append (first : Utf8Text Allowed text) (second : Utf8Text Allowed rest) :
    Utf8Text Allowed (text ++ rest) := by
  obtain ⟨before, rfl, beforeAllowed⟩ := first
  obtain ⟨after, rfl, afterAllowed⟩ := second
  exact ⟨before ++ after, List.flatMap_append,
    List.forall_mem_append.mpr ⟨beforeAllowed, afterAllowed⟩⟩

theorem utf8Text_singleton {character : Char} (allowed : Allowed character) :
    Utf8Text Allowed (String.utf8EncodeChar character) :=
  ⟨[character], List.flatMap_singleton .., List.forall_mem_singleton.mpr allowed⟩

/-- Characters whose bytes meet an ASCII byte stop before it. -/
theorem flatMap_utf8_split (low : byte < 128) {characters : List Char}
    (encoded : characters.flatMap String.utf8EncodeChar = text ++ byte :: rest) :
    ∃ before after, characters = before ++ asciiChar byte :: after ∧
      before.flatMap String.utf8EncodeChar = text ∧
      after.flatMap String.utf8EncodeChar = rest := by
  induction characters generalizing text with
  | nil => exact absurd encoded (by simp)
  | cons character characters inductionHypothesis =>
      rw [List.flatMap_cons] at encoded
      rcases List.append_eq_append_iff.mp encoded with ⟨more, textSplit, later⟩ | ⟨more, own, later⟩
      · -- The byte lies behind this character.
        obtain ⟨before, after, rfl, known, behind⟩ := inductionHypothesis later
        refine ⟨character :: before, after, rfl, ?_, behind⟩
        rw [List.flatMap_cons, known, textSplit]
      · cases more with
        | nil =>
            rw [List.append_nil] at own
            obtain ⟨before, after, rfl, known, behind⟩ :=
              @inductionHypothesis [] (by rw [List.nil_append]; exact later.symm)
            refine ⟨character :: before, after, rfl, ?_, behind⟩
            rw [List.flatMap_cons, known, own, List.append_nil]
        | cons first more =>
            -- The byte is one of its own, so that the character is ASCII.
            obtain ⟨rfl, restEq⟩ := List.cons.inj later
            have inside : byte ∈ String.utf8EncodeChar character := by
              rw [own]
              exact List.mem_append_right _ List.mem_cons_self
            have small : character.toNat < 128 := by
              by_contra high
              have large := utf8EncodeChar_high (Nat.not_lt.mp high) byte inside
              exact absurd low (UInt8.not_lt.mpr large)
            obtain ⟨single, known, rfl⟩ := exists_asciiChar small
            rw [utf8EncodeChar_asciiChar known] at own
            cases text with
            | nil =>
                obtain ⟨rfl, rfl⟩ := List.cons.inj own
                exact ⟨[], characters, rfl, rfl, restEq.symm⟩
            | cons other text =>
                have nothing : text ++ byte :: more = [] := (List.cons.inj own).2.symm
                exact absurd nothing
                  (List.append_ne_nil_of_right_ne_nil _ (List.cons_ne_nil _ _))

/-- A text splits at each of its ASCII bytes. -/
theorem utf8Text_split (low : byte < 128) :
    Utf8Text Allowed (text ++ byte :: rest) ↔
      Utf8Text Allowed text ∧ Allowed (asciiChar byte) ∧ Utf8Text Allowed rest := by
  constructor
  · rintro ⟨characters, encoded, allowed⟩
    obtain ⟨before, after, rfl, textEq, restEq⟩ := flatMap_utf8_split low encoded
    rw [List.forall_mem_append, List.forall_mem_cons] at allowed
    exact ⟨⟨before, textEq, allowed.1⟩, allowed.2.1, ⟨after, restEq, allowed.2.2⟩⟩
  · rintro ⟨first, middle, second⟩
    rw [← List.singleton_append, ← utf8EncodeChar_asciiChar low]
    exact first.append ((utf8Text_singleton middle).append second)

theorem utf8Text_cons (low : byte < 128) :
    Utf8Text Allowed (byte :: rest) ↔ Allowed (asciiChar byte) ∧ Utf8Text Allowed rest := by
  rw [← List.nil_append (byte :: rest), utf8Text_split low]
  exact and_iff_right utf8Text_nil

/-- Allowed ASCII bytes at the front do not matter. -/
theorem utf8Text_append_of_ascii
    (allowed : ∀ byte ∈ text, byte < 128 ∧ Allowed (asciiChar byte)) :
    Utf8Text Allowed (text ++ rest) ↔ Utf8Text Allowed rest := by
  induction text with
  | nil => rfl
  | cons byte text inductionHypothesis =>
      rw [List.forall_mem_cons] at allowed
      rw [List.cons_append, utf8Text_cons allowed.1.1, inductionHypothesis allowed.2]
      exact and_iff_right allowed.1.2

/-- A byte beyond ASCII is no text on its own. -/
theorem not_utf8Text_singleton (large : 128 ≤ byte) : ¬ Utf8Text Allowed [byte] := by
  rintro ⟨characters, encoded, -⟩
  cases characters with
  | nil => exact absurd encoded.symm (List.cons_ne_nil _ _)
  | cons character characters =>
      rw [List.flatMap_cons] at encoded
      obtain ⟨nothing, -⟩ | ⟨own, -⟩ := List.append_eq_singleton_iff.mp encoded
      · exact absurd nothing String.utf8EncodeChar_ne_nil
      · have size : character.utf8Size = 1 := by
          rw [← String.length_utf8EncodeChar, own]
          rfl
        have low : character.toNat < 128 := Nat.lt_succ_of_le (Char.utf8Size_eq_one_iff.mp size)
        obtain ⟨single, small, rfl⟩ := exists_asciiChar low
        rw [utf8EncodeChar_asciiChar small] at own
        rw [List.head_eq_of_cons_eq own] at small
        exact absurd small (UInt8.not_lt.mpr large)

end Texts

/-! ### Rewriting the ASCII bytes -/

section Rewriting

variable {Source Shown : Char → Prop} {rewrite : UInt8 → List UInt8} {text rest : List UInt8}

/-- Every ASCII byte becomes allowed ASCII text, and every other byte stays. -/
structure AsciiRewrite (Source Shown : Char → Prop) (rewrite : UInt8 → List UInt8) : Prop where
  high : ∀ byte, 128 ≤ byte → rewrite byte = [byte]
  low : ∀ byte < 128, ∃ first more, rewrite byte = first :: more ∧
    ∀ shown ∈ rewrite byte, shown < 128 ∧ Shown (asciiChar shown)
  sourceAscii : ∀ byte < 128, Source (asciiChar byte)
  sameHigh : ∀ character : Char, 128 ≤ character.toNat → (Source character ↔ Shown character)

theorem utf8Text_of_high
    (allowed : ∀ character : Char, 128 ≤ character.toNat → Source character → Shown character)
    (high : ∀ byte ∈ text, 128 ≤ byte) (source : Utf8Text Source text) : Utf8Text Shown text := by
  obtain ⟨characters, rfl, known⟩ := source
  refine ⟨characters, rfl, fun character member => allowed character ?_ (known character member)⟩
  by_contra low
  obtain ⟨byte, small, rfl⟩ := exists_asciiChar (Nat.not_le.mp low)
  have inside : byte ∈ characters.flatMap String.utf8EncodeChar := by
    refine List.mem_flatMap_of_mem member ?_
    rw [utf8EncodeChar_asciiChar small]
    exact List.mem_singleton_self byte
  exact absurd small (UInt8.not_lt.mpr (high byte inside))

theorem AsciiRewrite.utf8Text_high (rewriting : AsciiRewrite Source Shown rewrite)
    (high : ∀ byte ∈ text, 128 ≤ byte) : Utf8Text Shown text ↔ Utf8Text Source text :=
  ⟨utf8Text_of_high (fun character large => (rewriting.sameHigh character large).mpr) high,
    utf8Text_of_high (fun character large => (rewriting.sameHigh character large).mp) high⟩

/-- Rewriting behind bytes that are not ASCII, which gather until an ASCII byte splits the text. -/
theorem AsciiRewrite.utf8Text_append (rewriting : AsciiRewrite Source Shown rewrite)
    {front : List UInt8} (high : ∀ byte ∈ front, 128 ≤ byte) :
    Utf8Text Shown (front ++ text.flatMap rewrite) ↔ Utf8Text Source (front ++ text) := by
  induction text generalizing front with
  | nil =>
      rw [List.flatMap_nil, List.append_nil]
      exact rewriting.utf8Text_high high
  | cons byte text inductionHypothesis =>
      rw [List.flatMap_cons]
      rcases UInt8.lt_or_le byte 128 with low | large
      · obtain ⟨first, more, shown, allowed⟩ := rewriting.low byte low
        rw [shown, List.forall_mem_cons] at allowed
        have noBytes : ∀ other ∈ ([] : List UInt8), 128 ≤ other :=
          fun _ member => absurd member List.not_mem_nil
        have rest := inductionHypothesis noBytes
        rw [shown, List.cons_append, utf8Text_split allowed.1.1,
          utf8Text_append_of_ascii allowed.2, utf8Text_split low, rewriting.utf8Text_high high]
        exact and_congr_right fun _ =>
          and_congr (iff_of_true allowed.1.2 (rewriting.sourceAscii byte low)) rest
      · have longer : ∀ other ∈ front ++ [byte], 128 ≤ other := by
          rw [List.forall_mem_append, List.forall_mem_singleton]
          exact ⟨high, large⟩
        rw [rewriting.high byte large, ← List.append_assoc, List.append_cons front byte text]
        exact inductionHypothesis longer

/-- The rewritten text is one in UTF-8 exactly when the source is. -/
theorem AsciiRewrite.utf8Text_flatMap (rewriting : AsciiRewrite Source Shown rewrite) :
    Utf8Text Shown (text.flatMap rewrite) ↔ Utf8Text Source text :=
  @AsciiRewrite.utf8Text_append _ _ _ text rewriting [] fun _ member =>
    absurd member List.not_mem_nil

end Rewriting

end MiniSniffer.Foundation
