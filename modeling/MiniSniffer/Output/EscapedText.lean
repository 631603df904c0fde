import MiniSniffer.Foundation.Spelling
import MiniSniffer.Output.CsvRecords

/-!
Contract: which text an escaped text was printed from.

Owns the terminal escaper (`print_escaped_text` of `src/output.c`) and what its output and a CSV
cell tell about the text. The terminal escaper escapes its own escape character, so any text is read
back. A cell puts a quote before a formula, and a text may start with one itself.

Does not own texts that spell an escape of a CSV cell.
-/

namespace MiniSniffer

open Foundation

/-! ### Escapers -/

/-- `\xHH` of a byte. -/
def hexEscape (byte : UInt8) : List UInt8 := ascii "\\x" ++ hexText 2 byte.toNat

def printEscapedByte (byte : UInt8) : List UInt8 :=
  if csvPrintable byte && byte ≠ 92 then [byte]
  else if byte = 92 then ascii "\\\\"
  else hexEscape byte

/-- `print_escaped_text`. -/
def printEscapedText (text : List UInt8) : List UInt8 := (cString text).flatMap printEscapedByte

/-- A cell shows a byte as it is or escaped. -/
def cellByte (byte : UInt8) : List UInt8 := if csvPrintable byte then [byte] else hexEscape byte

/-- The text has in it what a cell writes for an unprintable byte. -/
def SpellsEscape (text : List UInt8) : Prop :=
  ∃ byte, byte ≠ 0 ∧ csvPrintable byte = false ∧ hexEscape byte <:+: text

/-- The cell of `text` has a quote in front that `quoted` brings itself. -/
structure QuotedFormula (text quoted : List UInt8) : Prop where
  formula : csvTextNeedsFormulaPrefix text = true
  quoted_eq : quoted = 39 :: text

section Escapers

variable {text other : List UInt8} {byte : UInt8}

theorem hexEscape_inj {rest others : List UInt8} {other : UInt8}
    (same : hexEscape byte ++ rest = hexEscape other ++ others) : byte = other := by
  rw [hexEscape, hexEscape, List.append_assoc, List.append_assoc] at same
  exact hexText_two_inj (List.append_inj_left (List.append_cancel_left same) rfl)

theorem hexEscape_eq (byte : UInt8) :
    hexEscape byte =
      [92, 120, hexDigit (byte.toNat / 16 % 16), hexDigit (byte.toNat % 16)] := rfl

/-! ### The terminal escaper -/

/-- A byte as it is, the doubled escape character, or an escape. -/
theorem printEscapedByte_cases (byte : UInt8) :
    (printEscapedByte byte = [byte] ∧ byte ≠ 92) ∨
      (printEscapedByte byte = [92, 92] ∧ byte = 92) ∨
        printEscapedByte byte = hexEscape byte := by
  unfold printEscapedByte
  split_ifs with plain slash
  · simp only [Bool.and_eq_true, decide_eq_true_eq] at plain
    exact .inl ⟨rfl, plain.2⟩
  · exact .inr (.inl ⟨rfl, slash⟩)
  · exact .inr (.inr rfl)

theorem printEscapedByte_ne_nil (byte : UInt8) : printEscapedByte byte ≠ [] := by
  rcases printEscapedByte_cases byte with ⟨shown, -⟩ | ⟨shown, -⟩ | shown
  all_goals
    rw [shown]
    exact List.cons_ne_nil _ _

/-- The first character tells a plain byte from an escape, the second one escape from another. -/
theorem printEscapedByte_prefixFree : PrefixFree printEscapedByte := by
  intro first second rest others same
  rcases printEscapedByte_cases first with ⟨shown, plain⟩ | ⟨shown, slash⟩ | shown <;>
    rcases printEscapedByte_cases second with
      ⟨otherShown, otherPlain⟩ | ⟨otherShown, otherSlash⟩ | otherShown <;>
    rw [shown, otherShown] at same
  · exact (List.cons.inj same).1
  · exact absurd (List.cons.inj same).1 plain
  · exact absurd (List.cons.inj same).1 plain
  · exact absurd (List.cons.inj same).1.symm otherPlain
  · rw [slash, otherSlash]
  · rw [hexEscape_eq] at same
    exact absurd (List.cons.inj (List.cons.inj same).2).1 (by decide)
  · exact absurd (List.cons.inj same).1.symm otherPlain
  · rw [hexEscape_eq] at same
    exact absurd (List.cons.inj (List.cons.inj same).2).1 (by decide)
  · exact hexEscape_inj same

/-- Every text is read back from what the terminal escaper prints. -/
theorem printEscapedText_inj (textFree : 0 ∉ text) (otherFree : 0 ∉ other)
    (same : printEscapedText text = printEscapedText other) : text = other := by
  rw [printEscapedText, printEscapedText, cString_of_nulFree textFree,
    cString_of_nulFree otherFree] at same
  exact printEscapedByte_prefixFree.flatMap_injective printEscapedByte_ne_nil same

/-! ### Cells -/

theorem csvPrintable_of_mem_hexEscape {shown : UInt8} (member : shown ∈ hexEscape byte) :
    csvPrintable shown = true :=
  (neutralSubstitute_hex.visible member).1

theorem cellByte_cases (byte : UInt8) :
    (cellByte byte = [byte] ∧ csvPrintable byte = true) ∨
      (cellByte byte = hexEscape byte ∧ csvPrintable byte = false) := by
  unfold cellByte
  split_ifs with printable
  · exact .inl ⟨rfl, printable⟩
  · exact .inr ⟨rfl, Bool.eq_false_iff.mpr printable⟩

theorem cellByte_ne_nil (byte : UInt8) : cellByte byte ≠ [] := by
  rcases cellByte_cases byte with ⟨shown, -⟩ | ⟨shown, -⟩
  all_goals
    rw [shown]
    exact List.cons_ne_nil _ _

/-- A shown character other than the escape character was in the text. -/
theorem flatMap_cellByte_eq_cons {shown : UInt8} {rest : List UInt8} (plain : shown ≠ 92)
    (same : text.flatMap cellByte = shown :: rest) :
    ∃ remaining, text = shown :: remaining ∧ remaining.flatMap cellByte = rest := by
  cases text with
  | nil => contradiction
  | cons first remaining =>
      rw [List.flatMap_cons] at same
      rcases cellByte_cases first with ⟨display, -⟩ | ⟨display, -⟩
      · rw [display] at same
        obtain ⟨rfl, rfl⟩ := List.cons.inj same
        exact ⟨remaining, rfl, rfl⟩
      · rw [display, hexEscape_eq] at same
        exact absurd (List.cons.inj same).1.symm plain

/-- Shown characters without the escape character were in the text. -/
theorem flatMap_cellByte_eq_append {front rest : List UInt8} (plain : 92 ∉ front)
    (same : text.flatMap cellByte = front ++ rest) : front <+: text := by
  induction front generalizing text with
  | nil => exact List.nil_prefix
  | cons shown front inductionHypothesis =>
      rw [List.mem_cons, not_or] at plain
      obtain ⟨remaining, rfl, tail⟩ := flatMap_cellByte_eq_cons (Ne.symm plain.1) same
      exact List.cons_prefix_cons.mpr ⟨rfl, inductionHypothesis plain.2 tail⟩

theorem SpellsEscape.cons (spells : SpellsEscape text) (first : UInt8) :
    SpellsEscape (first :: text) := by
  obtain ⟨byte, nonzero, unprintable, inside⟩ := spells
  exact ⟨byte, nonzero, unprintable, inside.trans (List.suffix_cons first text).isInfix⟩

/-- A text shown like one that starts with an escaped byte starts with that byte, or spells its
escape. -/
theorem starts_or_spellsEscape {tail : List UInt8} (nonzero : byte ≠ 0)
    (unprintable : csvPrintable byte = false)
    (same : text.flatMap cellByte = (byte :: tail).flatMap cellByte) :
    (∃ remaining, text = byte :: remaining) ∨ SpellsEscape text := by
  rw [List.flatMap_cons, cellByte, if_neg (Bool.eq_false_iff.mp unprintable)] at same
  cases text with
  | nil => contradiction
  | cons first remaining =>
      rw [List.flatMap_cons] at same
      rcases cellByte_cases first with ⟨display, -⟩ | ⟨display, -⟩
      · rw [display, hexEscape_eq] at same
        obtain ⟨rfl, tail⟩ := List.cons.inj same
        have noSlash : 92 ∉ 120 :: hexText 2 byte.toNat := by
          intro slash
          rcases List.mem_cons.mp slash with mark | digit
          · contradiction
          · exact absurd (lowerHexDigit_of_mem_hexText digit) (by decide)
        have spelled := flatMap_cellByte_eq_append noSlash tail
        exact .inr ⟨byte, nonzero, unprintable,
          (List.cons_prefix_cons.mpr ⟨rfl, spelled⟩).isInfix⟩
      · rw [display] at same
        exact .inl ⟨remaining, by rw [hexEscape_inj same]⟩

/-- What texts without a spelled escape show tells the text. -/
theorem flatMap_cellByte_inj (textFree : 0 ∉ text) (otherFree : 0 ∉ other)
    (plain : ¬ SpellsEscape text) (otherPlain : ¬ SpellsEscape other)
    (same : text.flatMap cellByte = other.flatMap cellByte) : text = other := by
  refine @flatMap_inj_of_heads _ _ _ (fun text => 0 ∉ text ∧ ¬ SpellsEscape text) cellByte_ne_nil
    ?_ ?_ text other ⟨textFree, plain⟩ ⟨otherFree, otherPlain⟩ same
  · intro first rest known
    exact ⟨fun member => known.1 (List.mem_cons_of_mem _ member),
      fun spells => known.2 (spells.cons first)⟩
  · intro first rest second others known otherKnown shown
    rcases cellByte_cases first with ⟨display, -⟩ | ⟨-, unprintable⟩
    · rcases cellByte_cases second with ⟨otherDisplay, -⟩ | ⟨-, unprintable⟩
      · rw [List.flatMap_cons, List.flatMap_cons, display, otherDisplay] at shown
        exact (List.cons.inj shown).1
      · have nonzero : second ≠ 0 := fun zero => otherKnown.1 (zero ▸ List.mem_cons_self)
        rcases starts_or_spellsEscape nonzero unprintable shown with ⟨remaining, starts⟩ | spells
        · exact (List.cons.inj starts).1
        · exact absurd spells known.2
    · have nonzero : first ≠ 0 := fun zero => known.1 (zero ▸ List.mem_cons_self)
      rcases starts_or_spellsEscape nonzero unprintable shown.symm with ⟨remaining, starts⟩ | spells
      · exact (List.cons.inj starts).1.symm
      · exact absurd spells otherKnown.2

/-! ### The prefix of a formula -/

theorem writeCsvText_eq_iff (textFree : 0 ∉ text) (otherFree : 0 ∉ other) :
    writeCsvText text = writeCsvText other ↔
      (if csvTextNeedsFormulaPrefix text then [39] else []) ++ text.flatMap cellByte =
        (if csvTextNeedsFormulaPrefix other then [39] else []) ++ other.flatMap cellByte := by
  rw [← encode_csvTextCell, ← encode_csvTextCell, csvTextCell, csvTextCell, CsvCell.encode,
    CsvCell.encode, List.cons_inj_right, List.append_left_inj, escapeQuotes_injective.eq_iff,
    cString_of_nulFree textFree, cString_of_nulFree otherFree]
  rfl

/-- A quote in front makes any text harmless. -/
theorem csvTextNeedsFormulaPrefix_quote (text : List UInt8) :
    csvTextNeedsFormulaPrefix (39 :: text) = false := rfl

theorem QuotedFormula.sameCell (quoted : QuotedFormula text other) (textFree : 0 ∉ text) :
    writeCsvText text = writeCsvText other := by
  obtain ⟨formula, rfl⟩ := quoted
  rw [writeCsvText_eq_iff textFree (by simp [textFree]), if_pos formula,
    csvTextNeedsFormulaPrefix_quote]
  rfl

/-- A formula's cell is also that of a harmless text only if the text brings the quote. -/
theorem quotedFormula_of_sameCell (textFree : 0 ∉ text) (otherFree : 0 ∉ other)
    (plain : ¬ SpellsEscape text) (otherPlain : ¬ SpellsEscape other)
    (formula : csvTextNeedsFormulaPrefix text = true)
    (same : [39] ++ text.flatMap cellByte = other.flatMap cellByte) :
    QuotedFormula text other := by
  obtain ⟨remaining, rfl, shown⟩ := flatMap_cellByte_eq_cons (by decide) same.symm
  have remainingFree : 0 ∉ remaining := fun zero => otherFree (List.mem_cons_of_mem _ zero)
  have remainingPlain : ¬ SpellsEscape remaining := fun spells => otherPlain (spells.cons 39)
  exact ⟨formula, by rw [flatMap_cellByte_inj remainingFree textFree remainingPlain plain shown]⟩

/-- Cells of texts without spelled escapes are the same exactly for equal texts, and for a formula
and the same text with the quote in front. -/
theorem writeCsvText_inj_iff (textFree : 0 ∉ text) (otherFree : 0 ∉ other)
    (plain : ¬ SpellsEscape text) (otherPlain : ¬ SpellsEscape other) :
    writeCsvText text = writeCsvText other ↔
      text = other ∨ QuotedFormula text other ∨ QuotedFormula other text := by
  constructor
  · intro same
    rw [writeCsvText_eq_iff textFree otherFree] at same
    split_ifs at same with formula otherFormula otherFormula
    · exact .inl (flatMap_cellByte_inj textFree otherFree plain otherPlain
        (List.append_cancel_left same))
    · exact .inr (.inl
        (quotedFormula_of_sameCell textFree otherFree plain otherPlain formula same))
    · exact .inr (.inr
        (quotedFormula_of_sameCell otherFree textFree otherPlain plain otherFormula same.symm))
    · exact .inl (flatMap_cellByte_inj textFree otherFree plain otherPlain same)
  · rintro (rfl | quoted | quoted)
    · rfl
    · exact quoted.sameCell textFree
    · exact (quoted.sameCell otherFree).symm

/-! ### Printable output -/

theorem csvPrintable_of_mem_printEscapedText {shown : UInt8}
    (member : shown ∈ printEscapedText text) : csvPrintable shown = true := by
  obtain ⟨byte, -, inside⟩ := List.mem_flatMap.mp member
  unfold printEscapedByte at inside
  split_ifs at inside with plain slash
  · rw [Bool.and_eq_true] at plain
    rw [List.mem_singleton.mp inside]
    exact plain.1
  · rw [show ascii "\\\\" = [92, 92] from rfl] at inside
    rw [List.eq_of_mem_replicate (show shown ∈ List.replicate 2 92 from inside)]
    rfl
  · exact csvPrintable_of_mem_hexEscape inside

theorem csvPrintable_of_mem_writeCsvText {shown : UInt8} (member : shown ∈ writeCsvText text) :
    csvPrintable shown = true := by
  have bounds := (@shownBytes_neutral _ (cString text) neutralSubstitute_hex).printable
  rw [← encode_csvTextCell, csvTextCell, CsvCell.encode, List.mem_cons, List.mem_append,
    List.mem_singleton] at member
  rcases member with rfl | inside | rfl
  · rfl
  · obtain ⟨byte, known, doubled⟩ := List.mem_flatMap.mp inside
    have same : shown = byte := by
      split_ifs at doubled with quote
      · rw [quote, List.eq_of_mem_replicate (show shown ∈ List.replicate 2 34 from doubled)]
      · exact List.mem_singleton.mp doubled
    rw [same, csvPrintable, Bool.and_eq_true, decide_eq_true_eq, decide_eq_true_eq]
    exact bounds byte known
  · rfl

/-- What is printed for a text tells the text on the terminal; in a cell it does so up to the quote
before a formula, for texts that spell no escape. Both print only printable ASCII. -/
theorem escaped_text_read_back (textFree : 0 ∉ text) (otherFree : 0 ∉ other) :
    (printEscapedText text = printEscapedText other → text = other) ∧
      (¬ SpellsEscape text → ¬ SpellsEscape other →
        (writeCsvText text = writeCsvText other ↔
          text = other ∨ QuotedFormula text other ∨ QuotedFormula other text)) ∧
      (∀ shown ∈ printEscapedText text, 32 ≤ shown ∧ shown ≤ 126) ∧
      ∀ shown ∈ writeCsvText text, 32 ≤ shown ∧ shown ≤ 126 := by
  have bounds : ∀ shown : UInt8, csvPrintable shown = true → 32 ≤ shown ∧ shown ≤ 126 := by
    intro shown printable
    rwa [csvPrintable, Bool.and_eq_true, decide_eq_true_eq, decide_eq_true_eq] at printable
  exact ⟨printEscapedText_inj textFree otherFree, writeCsvText_inj_iff textFree otherFree,
    fun shown member => bounds shown (csvPrintable_of_mem_printEscapedText member),
    fun shown member => bounds shown (csvPrintable_of_mem_writeCsvText member)⟩

end Escapers

theorem not_spellsEscape_of_not_mem {text : List UInt8} (noSlash : 92 ∉ text) :
    ¬ SpellsEscape text := by
  rintro ⟨byte, -, -, inside⟩
  exact noSlash (inside.subset List.mem_cons_self)

/-- Two texts with the same cell. -/
theorem escaped_text_read_back_formula :
    (printEscapedText (ascii "=1") = printEscapedText (ascii "'=1") → ascii "=1" = ascii "'=1") ∧
      (writeCsvText (ascii "=1") = writeCsvText (ascii "'=1") ↔
        ascii "=1" = ascii "'=1" ∨ QuotedFormula (ascii "=1") (ascii "'=1") ∨
          QuotedFormula (ascii "'=1") (ascii "=1")) :=
  have known := escaped_text_read_back (show 0 ∉ ascii "=1" by decide)
    (show 0 ∉ ascii "'=1" by decide)
  ⟨known.1, known.2.1 (not_spellsEscape_of_not_mem (by decide))
    (not_spellsEscape_of_not_mem (by decide))⟩

/-- A formula has the cell of the text that already starts with the quote. -/
theorem quoted_formula_same_cell :
    ¬ ∀ text other : List UInt8, 0 ∉ text → 0 ∉ other →
      writeCsvText text = writeCsvText other → text = other :=
  fun readBack => absurd (readBack (ascii "=1") (ascii "'=1") (by decide) (by decide) (by decide))
    (by decide)

end MiniSniffer
