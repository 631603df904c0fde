import MiniSniffer.Foundation.ByteOrder
import MiniSniffer.Foundation.Separated
import MiniSniffer.Foundation.Spelling

/-!
Contract: CSV records (RFC 4180), ended by a line feed.

Owns the cells of a record with their encoding, a reader of one record, and the law that it reads
back what was encoded. A plain cell has no quote, comma or control byte; a quoted one may have
commas, line breaks and doubled quotes.

Does not own what the cells of a table mean.
-/

namespace MiniSniffer.Foundation

inductive CsvCell where
  | plain (text : List UInt8)
  | quoted (text : List UInt8)
deriving DecidableEq, Repr

/-- `TEXTDATA` -/
def csvTextByte (byte : UInt8) : Bool := 32 ≤ byte && byte ≤ 126 && byte ≠ 34 && byte ≠ 44

/-- What may stand between quotes, a doubled quote apart. -/
def csvQuotedByte (byte : UInt8) : Bool :=
  csvTextByte byte || byte = 44 || byte = 10 || byte = 13

/-- Every quote doubled. -/
def escapeQuotes (text : List UInt8) : List UInt8 :=
  text.flatMap fun byte => if byte = 34 then [34, 34] else [byte]

namespace CsvCell

def encode : CsvCell → List UInt8
  | plain text => text
  | quoted text => 34 :: (escapeQuotes text ++ [34])

@[simp] theorem encode_plain (text : List UInt8) : (plain text).encode = text := rfl

def Valid : CsvCell → Prop
  | plain text => ∀ byte ∈ text, csvTextByte byte = true
  | quoted text => ∀ byte ∈ text, byte = 34 ∨ csvQuotedByte byte = true

end CsvCell

def encodeRecord (cells : List CsvCell) : List UInt8 :=
  [44].intercalate (cells.map CsvCell.encode) ++ [10]

/-- The text up to the closing quote and what follows it. -/
def readQuoted : List UInt8 → Option (List UInt8 × List UInt8)
  | [] => none
  | byte :: rest =>
      if byte = 34 then
        match rest with
        | [] => some ([], [])
        | next :: more =>
            if next = 34 then (readQuoted more).map fun read => (34 :: read.1, read.2)
            else some ([], next :: more)
      else if csvQuotedByte byte then
        (readQuoted rest).map fun read => (byte :: read.1, read.2)
      else none

def readCell (bytes : List UInt8) : Option (CsvCell × List UInt8) :=
  if bytes.head? = some 34 then
    (readQuoted bytes.tail).map fun read => (.quoted read.1, read.2)
  else some (.plain (bytes.takeWhile csvTextByte), bytes.dropWhile csvTextByte)

/-- Cells up to the line feed that ends the bytes. -/
def readCells : Nat → List UInt8 → Option (List CsvCell)
  | 0, _ => none
  | passes + 1, bytes =>
      match readCell bytes with
      | none => none
      | some (_, []) => none
      | some (cell, separator :: rest) =>
          if separator = 44 then (readCells passes rest).map (cell :: ·)
          else if separator = 10 && rest.isEmpty then some [cell]
          else none

/-- One record; every cell but the last uses up its comma. -/
def readRecord (bytes : List UInt8) : Option (List CsvCell) := readCells (bytes.length + 1) bytes

section Records

variable {text rest : List UInt8} {cell : CsvCell} {cells : List CsvCell} {byte : UInt8}

theorem escapeQuotes_append (text more : List UInt8) :
    escapeQuotes (text ++ more) = escapeQuotes text ++ escapeQuotes more := List.flatMap_append

theorem escapeQuotes_flatMap (text : List UInt8) (display : UInt8 → List UInt8) :
    escapeQuotes (text.flatMap display) = text.flatMap fun byte => escapeQuotes (display byte) :=
  List.flatMap_assoc

theorem escapeQuotes_cons_quote (text : List UInt8) :
    escapeQuotes (34 :: text) = 34 :: 34 :: escapeQuotes text := rfl

theorem escapeQuotes_cons_of_ne (other : byte ≠ 34) (text : List UInt8) :
    escapeQuotes (byte :: text) = byte :: escapeQuotes text := by
  rw [escapeQuotes, List.flatMap_cons, if_neg other]
  rfl

theorem escapeQuotes_of_not_mem (plain : 34 ∉ text) : escapeQuotes text = text := by
  induction text with
  | nil => rfl
  | cons byte text inductionHypothesis =>
      rw [List.mem_cons, not_or] at plain
      rw [escapeQuotes_cons_of_ne (Ne.symm plain.1), inductionHypothesis plain.2]

theorem escapeQuotes_injective : Function.Injective escapeQuotes := by
  apply PrefixFree.flatMap_injective
  · intro first second rest others same
    simp only at same
    split_ifs at same with quote otherQuote otherQuote
    · rw [quote, otherQuote]
    · exact quote.trans (List.cons.inj same).1
    · exact (List.cons.inj same).1.trans otherQuote.symm
    · exact (List.cons.inj same).1
  · intro byte
    split_ifs <;> exact List.cons_ne_nil _ _

theorem readQuoted_escapeQuotes (valid : (CsvCell.quoted text).Valid)
    (ends : rest.head? ≠ some 34) :
    readQuoted (escapeQuotes text ++ 34 :: rest) = some (text, rest) := by
  induction text with
  | nil =>
      change readQuoted (34 :: rest) = some ([], rest)
      unfold readQuoted
      rw [if_pos rfl]
      cases rest with
      | nil => rfl
      | cons next more =>
          have other : next ≠ 34 := fun same => ends (by rw [same]; rfl)
          exact if_neg other
  | cons byte text inductionHypothesis =>
      have tail := inductionHypothesis fun other member =>
        valid other (List.mem_cons_of_mem _ member)
      by_cases quote : byte = 34
      · rw [quote, escapeQuotes_cons_quote, List.cons_append, List.cons_append]
        unfold readQuoted
        rw [if_pos rfl]
        dsimp only
        rw [if_pos rfl, tail]
        rfl
      · have allowed := (valid byte List.mem_cons_self).resolve_left quote
        rw [escapeQuotes_cons_of_ne quote, List.cons_append]
        unfold readQuoted
        rw [if_neg quote, if_pos allowed, tail]
        rfl

/-- A cell is read back up to the comma or the line feed behind it. -/
theorem readCell_encode (valid : cell.Valid) (separator : byte = 44 ∨ byte = 10) :
    readCell (cell.encode ++ byte :: rest) = some (cell, byte :: rest) := by
  have stops : csvTextByte byte = false := by rcases separator with rfl | rfl <;> decide
  have notQuote : byte ≠ 34 := by rcases separator with rfl | rfl <;> decide
  cases cell with
  | plain text =>
      have first : (text ++ byte :: rest).head? ≠ some 34 := by
        cases text with
        | nil => simpa using notQuote
        | cons head text =>
            intro quote
            obtain rfl : head = 34 := Option.some.inj quote
            exact absurd (valid 34 List.mem_cons_self) (by decide)
      rw [CsvCell.encode, readCell, if_neg first, List.takeWhile_append_of_pos valid,
        List.dropWhile_append_of_pos valid, List.takeWhile_cons_of_neg (by simp [stops]),
        List.dropWhile_cons_of_neg (by simp [stops]), List.append_nil]
  | quoted text =>
      have shape : (CsvCell.quoted text).encode ++ byte :: rest =
          34 :: (escapeQuotes text ++ 34 :: byte :: rest) := by
        rw [CsvCell.encode, List.cons_append, List.append_assoc]
        rfl
      have opening : (34 :: (escapeQuotes text ++ 34 :: byte :: rest)).head? = some 34 := rfl
      rw [shape, readCell, if_pos opening, List.tail_cons,
        readQuoted_escapeQuotes valid (by simpa using notQuote)]
      rfl

theorem encodeRecord_singleton (cell : CsvCell) : encodeRecord [cell] = cell.encode ++ [10] := by
  rw [encodeRecord, List.map_singleton, List.intercalate_singleton]

theorem encodeRecord_cons (cell other : CsvCell) (cells : List CsvCell) :
    encodeRecord (cell :: other :: cells) =
      cell.encode ++ [44] ++ encodeRecord (other :: cells) := by
  rw [encodeRecord, encodeRecord, List.map_cons, List.map_cons, List.intercalate_cons_cons,
    List.append_assoc]

theorem readCells_encodeRecord (someCells : cells ≠ []) (valid : ∀ cell ∈ cells, cell.Valid)
    {passes : Nat} (enough : cells.length ≤ passes) :
    readCells passes (encodeRecord cells) = some cells := by
  induction cells generalizing passes with
  | nil => contradiction
  | cons cell cells inductionHypothesis =>
      obtain ⟨passes, rfl⟩ := Nat.exists_eq_succ_of_ne_zero (Nat.ne_zero_of_lt enough)
      have cellValid := valid cell List.mem_cons_self
      cases cells with
      | nil =>
          rw [encodeRecord_singleton, readCells, readCell_encode cellValid (.inr rfl)]
          rfl
      | cons other cells =>
          rw [encodeRecord_cons, List.append_assoc, List.singleton_append, readCells,
            readCell_encode cellValid (.inl rfl)]
          dsimp only
          rw [if_pos rfl, inductionHypothesis (List.cons_ne_nil _ _)
            (fun other member => valid other (List.mem_cons_of_mem _ member))
            (Nat.le_of_succ_le_succ enough)]
          rfl

theorem length_encodeRecord (cells : List CsvCell) :
    cells.length ≤ (encodeRecord cells).length := by
  induction cells with
  | nil => exact Nat.zero_le _
  | cons cell cells inductionHypothesis =>
      cases cells with
      | nil => simp [encodeRecord]
      | cons other cells =>
          rw [encodeRecord_cons, List.append_assoc, List.length_append, List.length_append]
          simp only [List.length_cons, List.length_nil] at inductionHypothesis ⊢
          omega

/-- Cells without line feeds make one line. -/
theorem encodeRecord_line (oneLine : ∀ cell ∈ cells, 10 ∉ cell.encode) :
    ∃ body, encodeRecord cells = body ++ [10] ∧ 10 ∉ body := by
  refine ⟨[44].intercalate (cells.map CsvCell.encode), rfl, fun feed => ?_⟩
  have pieces : ∀ piece ∈ cells.map CsvCell.encode, ∀ byte ∈ piece, byte ≠ 10 := by
    intro piece member byte inside same
    obtain ⟨cell, known, rfl⟩ := List.mem_map.mp member
    exact oneLine cell known (same ▸ inside)
  have separator : ∀ byte ∈ [(44 : UInt8)], byte ≠ 10 := by
    rw [List.forall_mem_singleton]
    decide
  exact forall_mem_intercalate separator pieces 10 feed rfl

/-- A record is read back. -/
theorem readRecord_encodeRecord (someCells : cells ≠ []) (valid : ∀ cell ∈ cells, cell.Valid) :
    readRecord (encodeRecord cells) = some cells :=
  readCells_encodeRecord someCells valid (Nat.le_succ_of_le (length_encodeRecord cells))

end Records

end MiniSniffer.Foundation
