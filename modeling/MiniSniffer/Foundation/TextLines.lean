import MiniSniffer.Foundation.Digits

/-!
Contract: texts made of lines.

Owns the text that lines make when each ends with a newline, the reader that splits a text into its
lines, that reading gives the lines back, and the padded numbers and names of column output.

Does not own what a line says.
-/

namespace MiniSniffer.Foundation

/-! ### Lines -/

/-- Every line with its newline. -/
def linesText (lines : List (List UInt8)) : List UInt8 := lines.flatMap fun line => line ++ [10]

/-- Adds a character in front of a text that is already split. -/
def consCharacter (byte : UInt8) (lines : List (List UInt8)) : List (List UInt8) :=
  if byte = 10 then [] :: lines
  else
    match lines with
    | [] => [[byte]]
    | line :: rest => (byte :: line) :: rest

/-- The lines of a text; a last line may lack its newline. -/
def readLines (text : List UInt8) : List (List UInt8) := text.foldr consCharacter []

/-- Bytes that `isprint` accepts in the C locale. -/
def isPrint (byte : UInt8) : Bool := 32 ≤ byte && byte ≤ 126

/-- A text that shows nothing but printable characters. -/
def Printable (text : List UInt8) : Prop := ∀ byte ∈ text, isPrint byte = true

instance (text : List UInt8) : Decidable (Printable text) :=
  decidable_of_iff (text.all isPrint = true) List.all_eq_true

/-- A text without control characters; it may have bytes outside ASCII. -/
def ControlFree (text : List UInt8) : Prop := ∀ byte ∈ text, 32 ≤ byte ∧ byte ≠ 127

instance (text : List UInt8) : Decidable (ControlFree text) :=
  decidable_of_iff (text.all (fun byte => decide (32 ≤ byte ∧ byte ≠ 127)) = true)
    (by simp only [List.all_eq_true, decide_eq_true_eq, ControlFree])

section Lines

variable {line text other : List UInt8} {lines others : List (List UInt8)}

@[simp] theorem linesText_nil : linesText [] = [] := rfl

@[simp] theorem linesText_cons (line : List UInt8) (lines : List (List UInt8)) :
    linesText (line :: lines) = line ++ [10] ++ linesText lines := rfl

theorem linesText_append (lines others : List (List UInt8)) :
    linesText (lines ++ others) = linesText lines ++ linesText others := List.flatMap_append

theorem readLines_line (oneLine : 10 ∉ line) (text : List UInt8) :
    readLines (line ++ 10 :: text) = line :: readLines text := by
  induction line with
  | nil => rfl
  | cons byte line inductionHypothesis =>
      rw [List.mem_cons, not_or] at oneLine
      have rest := inductionHypothesis oneLine.2
      rw [readLines] at rest
      rw [List.cons_append, readLines, List.foldr_cons, rest, consCharacter,
        if_neg (Ne.symm oneLine.1)]

/-- Lines that hold no newline are read back. -/
theorem readLines_linesText (oneLine : ∀ line ∈ lines, 10 ∉ line) :
    readLines (linesText lines) = lines := by
  induction lines with
  | nil => rfl
  | cons line lines inductionHypothesis =>
      rw [List.forall_mem_cons] at oneLine
      rw [linesText_cons, List.append_assoc, List.singleton_append, readLines_line oneLine.1,
        inductionHypothesis oneLine.2]

@[simp] theorem printable_nil : Printable [] := by
  intro byte member
  contradiction

@[simp] theorem printable_append : Printable (text ++ other) ↔ Printable text ∧ Printable other :=
  List.forall_mem_append

theorem Printable.oneLine (printable : Printable text) : 10 ∉ text := by
  intro newline
  exact absurd (printable 10 newline) (by decide)

theorem Printable.flatMap {Item : Type} {items : List Item} {shown : Item → List UInt8}
    (each : ∀ item ∈ items, Printable (shown item)) : Printable (items.flatMap shown) := by
  intro byte member
  obtain ⟨item, listed, inside⟩ := List.mem_flatMap.mp member
  exact each item listed byte inside

theorem Printable.cString (printable : Printable text) : Printable (cString text) :=
  fun byte member => printable byte (List.takeWhile_sublist _ |>.subset member)

theorem Printable.ite {condition : Prop} [Decidable condition] (yes : Printable text)
    (no : Printable other) : Printable (if condition then text else other) := by
  split
  · exact yes
  · exact no

@[simp] theorem controlFree_append :
    ControlFree (text ++ other) ↔ ControlFree text ∧ ControlFree other :=
  List.forall_mem_append

theorem Printable.controlFree (printable : Printable text) : ControlFree text := by
  have shown : ∀ byte, isPrint byte = true → 32 ≤ byte ∧ byte ≠ 127 :=
    forall_byte (by decide +kernel)
  exact fun byte member => shown byte (printable byte member)

theorem controlFree_nil : ControlFree [] := printable_nil.controlFree

theorem ControlFree.ite {condition : Prop} [Decidable condition] (yes : ControlFree text)
    (no : ControlFree other) : ControlFree (if condition then text else other) := by
  split
  · exact yes
  · exact no

theorem ControlFree.flatMap {Item : Type} {items : List Item} {shown : Item → List UInt8}
    (each : ∀ item ∈ items, ControlFree (shown item)) : ControlFree (items.flatMap shown) := by
  intro byte member
  obtain ⟨item, listed, inside⟩ := List.mem_flatMap.mp member
  exact each item listed byte inside

theorem ControlFree.oneLine (controlFree : ControlFree text) : 10 ∉ text :=
  fun newline => absurd (controlFree 10 newline).1 (by decide)

end Lines

/-! ### Columns -/

/-- `%0<width>u` -/
def paddedDecimal (width value : Nat) : List UInt8 :=
  List.replicate (width - (decimalText value).length) 48 ++ decimalText value

/-- `%-<width>s` -/
def padRight (width : Nat) (text : List UInt8) : List UInt8 :=
  text ++ List.replicate (width - text.length) 32

theorem isPrint_of_decimalDigit : ∀ byte, decimalDigit byte = true → isPrint byte = true :=
  forall_byte (by decide +kernel)

theorem isPrint_of_lowerHexDigit : ∀ byte, lowerHexDigit byte = true → isPrint byte = true :=
  forall_byte (by decide +kernel)

theorem printable_replicate {byte : UInt8} (printable : isPrint byte = true) (count : Nat) :
    Printable (List.replicate count byte) := by
  intro shown member
  rw [List.eq_of_mem_replicate member]
  exact printable

theorem printable_decimalText (value : Nat) : Printable (decimalText value) :=
  fun byte member => isPrint_of_decimalDigit byte (decimalDigit_of_mem_decimalText member)

theorem printable_hexText (digits value : Nat) : Printable (hexText digits value) :=
  fun byte member => isPrint_of_lowerHexDigit byte (lowerHexDigit_of_mem_hexText member)

theorem printable_paddedDecimal (width value : Nat) : Printable (paddedDecimal width value) :=
  printable_append.mpr ⟨printable_replicate rfl _, printable_decimalText value⟩

theorem Printable.padRight {text : List UInt8} (printable : Printable text) (width : Nat) :
    Printable (padRight width text) :=
  printable_append.mpr ⟨printable, printable_replicate rfl _⟩

end MiniSniffer.Foundation
