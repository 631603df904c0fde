import MiniSniffer.Foundation.Digits
import MiniSniffer.Foundation.Utf8

/-!
Contract: JSON texts (RFC 8259) as UTF-8 bytes.

Owns a reader of JSON values and the rules by which written pieces make up a value: each piece is
read back, and is free of control characters exactly when the texts it shows are. The reader takes
the part of the grammar without arrays, signs, fractions, surrogate pairs and blanks between
tokens; bytes beyond ASCII stand in strings only, so that it reads bytes.

Does not own how a program escapes its strings.
-/

namespace MiniSniffer.Foundation

inductive Json where
  | null
  | bool (value : Bool)
  | number (value : Nat)
  | string (text : List UInt8)
  | object (members : List (List UInt8 × Json))

/-! ### Strings -/

/-- The character of four hexadecimal digits, unless it is a surrogate. -/
def readUnit (a b c d : UInt8) : Option (List UInt8) :=
  match hexDigitValue a, hexDigitValue b, hexDigitValue c, hexDigitValue d with
  | some a, some b, some c, some d =>
      let value := ((a * 16 + b) * 16 + c) * 16 + d
      if 0xd800 ≤ value && value < 0xe000 then none
      else some (String.utf8EncodeChar (Char.ofNat value))
  | _, _, _, _ => none

/-- What a backslash and this byte stand for. -/
def escapeMeaning (mark : UInt8) : Option UInt8 :=
  if mark = 34 || mark = 92 || mark = 47 then some mark
  else if mark = 98 then some 8
  else if mark = 102 then some 12
  else if mark = 110 then some 10
  else if mark = 114 then some 13
  else if mark = 116 then some 9
  else none

/-- The text up to the closing quote and what follows it. -/
def readString : List UInt8 → Option (List UInt8 × List UInt8)
  | [] => none
  | byte :: rest =>
      if byte = 34 then some ([], rest)
      else if byte = 92 then
        match rest with
        | [] => none
        | mark :: rest =>
            if mark = 117 then
              match rest with
              | a :: b :: c :: d :: rest =>
                  match readUnit a b c d with
                  | none => none
                  | some unit => (readString rest).map fun read => (unit ++ read.1, read.2)
              | _ => none
            else
              match escapeMeaning mark with
              | none => none
              | some meant => (readString rest).map fun read => (meant :: read.1, read.2)
      else if byte < 32 then none
      else (readString rest).map fun read => (byte :: read.1, read.2)

/-! ### Values -/

def readNumber (bytes : List UInt8) : Option (Json × List UInt8) :=
  let digits := bytes.takeWhile decimalDigit
  if digits.head? = some 48 && digits.length ≠ 1 then none
  else some (.number (decimalValue digits), bytes.dropWhile decimalDigit)

def readLiteral (bytes : List UInt8) : Option (Json × List UInt8) :=
  if (ascii "null").isPrefixOf bytes then some (.null, bytes.drop 4)
  else if (ascii "true").isPrefixOf bytes then some (.bool true, bytes.drop 4)
  else if (ascii "false").isPrefixOf bytes then some (.bool false, bytes.drop 5)
  else none

section Reader

variable (value : List UInt8 → Option (Json × List UInt8))

def readMember (bytes : List UInt8) : Option ((List UInt8 × Json) × List UInt8) :=
  if bytes.head? = some 34 then
    match readString bytes.tail with
    | none => none
    | some (name, rest) =>
        if rest.head? = some 58 then
          (value rest.tail).map fun read => ((name, read.1), read.2)
        else none
  else none

/-- The members behind a first one, up to the closing brace. -/
def readMembers : Nat → List UInt8 → Option (List (List UInt8 × Json) × List UInt8)
  | 0, _ => none
  | passes + 1, bytes =>
      if bytes.head? = some 125 then some ([], bytes.tail)
      else if bytes.head? = some 44 then
        match readMember value bytes.tail with
        | none => none
        | some (member, rest) =>
            (readMembers passes rest).map fun read => (member :: read.1, read.2)
      else none

end Reader

def readValue : Nat → List UInt8 → Option (Json × List UInt8)
  | 0, _ => none
  | depth + 1, bytes =>
      match bytes with
      | [] => none
      | first :: rest =>
          if first = 123 then
            if rest.head? = some 125 then some (.object [], rest.tail)
            else
              match readMember (readValue depth) rest with
              | none => none
              | some (member, rest) =>
                  (readMembers (readValue depth) depth rest).map fun read =>
                    (.object (member :: read.1), read.2)
          else if first = 34 then (readString rest).map fun read => (.string read.1, read.2)
          else if decimalDigit first then readNumber (first :: rest)
          else readLiteral (first :: rest)

/-- A whole text as one value; a value inside another is shorter. -/
def readJson (bytes : List UInt8) : Option Json :=
  match readValue (bytes.length + 1) bytes with
  | some (value, []) => some value
  | _ => none

section Strings

variable {byte : UInt8} {text rest : List UInt8} {rewrite : UInt8 → List UInt8}

/-- The reader sees the piece as this byte. -/
def ReadsAs (piece : List UInt8) (byte : UInt8) : Prop :=
  ∀ rest, readString (piece ++ rest) = (readString rest).map fun read => (byte :: read.1, read.2)

theorem readsAs_plain (visible : 32 ≤ byte) (notQuote : byte ≠ 34) (notBackslash : byte ≠ 92) :
    ReadsAs [byte] byte := by
  intro rest
  rw [List.singleton_append]
  conv_lhs => unfold readString
  rw [if_neg notQuote, if_neg notBackslash, if_neg (UInt8.not_lt.mpr visible)]

theorem readsAs_escape {mark : UInt8} (meant : escapeMeaning mark = some byte) :
    ReadsAs [92, mark] byte := by
  have notUnit : mark ≠ 117 := by
    rintro rfl
    have unmeant : escapeMeaning 117 = none := by decide
    rw [unmeant] at meant
    exact absurd meant.symm (Option.some_ne_none byte)
  intro rest
  change readString (92 :: mark :: rest) = _
  conv_lhs => unfold readString
  rw [if_neg (by decide), if_pos rfl]
  dsimp only
  rw [if_neg notUnit, meant]

theorem readsAs_unit {a b c d : UInt8} (unit : readUnit a b c d = some [byte]) :
    ReadsAs [92, 117, a, b, c, d] byte := by
  intro rest
  change readString (92 :: 117 :: a :: b :: c :: d :: rest) = _
  conv_lhs => unfold readString
  rw [if_neg (by decide), if_pos rfl]
  dsimp only
  rw [if_pos rfl, unit]
  rfl

theorem readString_flatMap (reads : ∀ byte ∈ text, ReadsAs (rewrite byte) byte) :
    readString (text.flatMap rewrite ++ 34 :: rest) = some (text, rest) := by
  induction text with
  | nil =>
      unfold readString
      exact if_pos rfl
  | cons byte text inductionHypothesis =>
      rw [List.forall_mem_cons] at reads
      rw [List.flatMap_cons, List.append_assoc, reads.1, inductionHypothesis reads.2]
      rfl

end Strings

/-! ### Written texts -/

section Written

variable {bytes more text : List UInt8} {texts moreTexts : List (List UInt8)}

def printableByte (byte : UInt8) : Bool := 32 ≤ byte && byte ≤ 126

/-- A text that stays free of control characters once ASCII is escaped. -/
def CleanText (text : List UInt8) : Prop := Utf8Text (fun character => ¬ HighControl character) text

/-- UTF-8 without control characters. -/
def PrintedText (bytes : List UInt8) : Prop :=
  Utf8Text (fun character => ¬ ControlChar character) bytes

/-- The bytes show these texts, which decide whether they are clean. -/
def Shows (bytes : List UInt8) (texts : List (List UInt8)) : Prop :=
  ∀ rest, PrintedText (bytes ++ rest) ↔ (∀ text ∈ texts, CleanText text) ∧ PrintedText rest

theorem shows_nil : Shows [] [] := fun rest => by simp

theorem Shows.append (first : Shows bytes texts) (second : Shows more moreTexts) :
    Shows (bytes ++ more) (texts ++ moreTexts) := by
  intro rest
  rw [List.append_assoc, first, second, List.forall_mem_append, and_assoc]

theorem printed_ascii : ∀ byte, printableByte byte = true →
    byte < 128 ∧ ¬ ControlChar (asciiChar byte) := by
  apply forall_byte
  unfold ControlChar HighControl
  decide +kernel

theorem shows_printable (printable : bytes.all printableByte = true) : Shows bytes [] := by
  intro rest
  have front : PrintedText (bytes ++ rest) ↔ PrintedText rest :=
    utf8Text_append_of_ascii fun byte member =>
      printed_ascii byte (List.all_eq_true.mp printable byte member)
  rw [front]
  simp

/-- An escaped text between quotes. -/
theorem Shows.quoted {rewrite : UInt8 → List UInt8}
    (rewriting : AsciiRewrite (fun character => ¬ HighControl character)
      (fun character => ¬ ControlChar character) rewrite) (text : List UInt8) :
    Shows (34 :: (text.flatMap rewrite ++ [34])) [text] := by
  intro rest
  have quote : (34 : UInt8) < 128 ∧ ¬ ControlChar (asciiChar 34) := printed_ascii 34 (by decide)
  have opened : PrintedText (34 :: (text.flatMap rewrite ++ 34 :: rest)) ↔
      PrintedText (text.flatMap rewrite ++ 34 :: rest) := by
    rw [PrintedText, utf8Text_cons quote.1, and_iff_right quote.2]
    rfl
  have closed : PrintedText (text.flatMap rewrite ++ 34 :: rest) ↔
      CleanText text ∧ PrintedText rest := by
    rw [PrintedText, utf8Text_split quote.1, rewriting.utf8Text_flatMap, and_iff_right quote.2]
    rfl
  rw [List.cons_append, List.append_assoc, List.singleton_append, opened, closed,
    List.forall_mem_singleton]

/-- A text that is clean anyway decides nothing. -/
theorem Shows.of_clean (shown : Shows bytes (text :: texts)) (clean : CleanText text) :
    Shows bytes texts := by
  intro rest
  rw [shown, List.forall_mem_cons, and_iff_right clean]

theorem not_highControl_ascii : ∀ byte : UInt8, byte < 128 → ¬ HighControl (asciiChar byte) := by
  apply forall_byte
  unfold HighControl
  decide +kernel

theorem cleanText_of_ascii (low : ∀ byte ∈ text, byte < 128) : CleanText text := by
  rw [CleanText, ← List.append_nil text, utf8Text_append_of_ascii fun byte member =>
    ⟨low byte member, not_highControl_ascii byte (low byte member)⟩]
  exact utf8Text_nil

theorem PrintedText.oneLine (printed : PrintedText bytes) : 10 ∉ bytes := by
  intro feed
  obtain ⟨before, after, rfl⟩ := List.append_of_mem feed
  have control : ControlChar (asciiChar 10) := .inl (by decide)
  exact ((utf8Text_split (by decide)).mp printed).2.1 control

end Written

/-! ### Written values -/

/-- What follows a value does not continue a number. -/
def Delimited (rest : List UInt8) : Prop :=
  ∀ first, rest.head? = some first → decimalDigit first = false

/-- The bytes are read as this value, and show these texts. -/
structure Spells (bytes : List UInt8) (value : Json) (texts : List (List UInt8)) : Prop where
  reads : ∀ depth rest, bytes.length ≤ depth → Delimited rest →
    readValue depth (bytes ++ rest) = some (value, rest)
  shows : Shows bytes texts

/-- The bytes are read as these members behind a first one. -/
structure SpellsMembers (bytes : List UInt8) (members : List (List UInt8 × Json))
    (texts : List (List UInt8)) : Prop where
  reads : ∀ depth passes rest result left, bytes.length ≤ depth →
    (∀ more, passes ≤ more → readMembers (readValue depth) more rest = some (result, left)) →
    ∀ more, passes + bytes.length ≤ more →
      readMembers (readValue depth) more (bytes ++ rest) = some (members ++ result, left)
  shows : Shows bytes texts

section Spelling

variable {bytes more name : List UInt8} {value : Json} {members others : List (List UInt8 × Json)}
  {texts moreTexts : List (List UInt8)}

/-- Only which texts are shown matters. -/
theorem Spells.of_texts (spelled : Spells bytes value texts)
    (same : ∀ text, text ∈ moreTexts ↔ text ∈ texts) : Spells bytes value moreTexts := by
  refine ⟨spelled.reads, fun rest => ?_⟩
  simp only [same]
  exact spelled.shows rest

theorem SpellsMembers.of_texts (spelled : SpellsMembers bytes members texts)
    (same : ∀ text, text ∈ moreTexts ↔ text ∈ texts) : SpellsMembers bytes members moreTexts := by
  refine ⟨spelled.reads, fun rest => ?_⟩
  simp only [same]
  exact spelled.shows rest

theorem spells_null : Spells (ascii "null") .null [] := by
  refine ⟨fun depth rest enough _ => ?_, shows_printable rfl⟩
  obtain ⟨depth, rfl⟩ := Nat.exists_eq_succ_of_ne_zero (Nat.ne_zero_of_lt enough)
  rfl

theorem spells_bool (condition : Prop) [Decidable condition] :
    Spells (if condition then ascii "true" else ascii "false") (.bool condition) [] := by
  constructor
  · intro depth rest enough _
    split_ifs at enough ⊢ with holds
    · obtain ⟨depth, rfl⟩ := Nat.exists_eq_succ_of_ne_zero (Nat.ne_zero_of_lt enough)
      rw [decide_eq_true holds]
      rfl
    · obtain ⟨depth, rfl⟩ := Nat.exists_eq_succ_of_ne_zero (Nat.ne_zero_of_lt enough)
      rw [decide_eq_false holds]
      rfl
  · refine shows_printable ?_
    split_ifs <;> rfl

theorem readNumber_decimalText {rest : List UInt8} (delimited : Delimited rest) (value : Nat) :
    readNumber (decimalText value ++ rest) = some (.number value, rest) := by
  have digits : ∀ byte ∈ decimalText value, decimalDigit byte = true :=
    fun byte member => decimalDigit_of_mem_decimalText member
  have stops : rest.takeWhile decimalDigit = [] ∧ rest.dropWhile decimalDigit = rest := by
    cases rest with
    | nil => exact ⟨rfl, rfl⟩
    | cons first rest =>
        have other : ¬ decimalDigit first = true := by
          rw [delimited first rfl]
          decide
        exact ⟨List.takeWhile_cons_of_neg other, List.dropWhile_cons_of_neg other⟩
  have noLeadingZero : (decimalText value).head? = some 48 → (decimalText value).length = 1 := by
    intro zero
    obtain rfl : value = 0 := by
      by_contra positive
      exact head?_decimalText (Nat.pos_of_ne_zero positive) zero
    rfl
  rw [readNumber, List.takeWhile_append_of_pos digits, List.dropWhile_append_of_pos digits,
    stops.1, stops.2, List.append_nil, decimalValue_decimalText]
  exact if_neg (by simpa using noLeadingZero)

theorem spells_number (value : Nat) : Spells (decimalText value) (.number value) [] := by
  have digits : ∀ byte ∈ decimalText value, decimalDigit byte = true :=
    fun byte member => decimalDigit_of_mem_decimalText member
  constructor
  · intro depth rest enough delimited
    have number := readNumber_decimalText delimited value
    obtain ⟨first, more, starts⟩ := List.exists_cons_of_ne_nil (decimalText_ne_nil value)
    have apart : ∀ byte, decimalDigit byte = true → byte ≠ 123 ∧ byte ≠ 34 :=
      forall_byte (by decide +kernel)
    rw [starts, List.forall_mem_cons] at digits
    rw [starts, List.length_cons] at enough
    obtain ⟨depth, rfl⟩ := Nat.exists_eq_succ_of_ne_zero (Nat.ne_zero_of_lt enough)
    rw [starts, List.cons_append] at number ⊢
    rw [readValue, if_neg (apart first digits.1).1, if_neg (apart first digits.1).2,
      if_pos digits.1, number]
  · have visible : ∀ byte, decimalDigit byte = true → printableByte byte = true :=
      forall_byte (by decide +kernel)
    exact shows_printable (List.all_eq_true.mpr fun byte member =>
      visible byte (digits byte member))

theorem spells_string {rewrite : UInt8 → List UInt8} {text : List UInt8}
    (reads : ∀ byte ∈ text, ReadsAs (rewrite byte) byte)
    (shown : Shows (34 :: (text.flatMap rewrite ++ [34])) texts) :
    Spells (34 :: (text.flatMap rewrite ++ [34])) (.string text) texts := by
  refine ⟨fun depth rest enough _ => ?_, shown⟩
  obtain ⟨depth, rfl⟩ := Nat.exists_eq_succ_of_ne_zero (Nat.ne_zero_of_lt enough)
  rw [List.cons_append, List.append_assoc, List.singleton_append, readValue,
    if_neg (by decide), if_pos rfl, readString_flatMap reads]
  rfl

def plainByte (byte : UInt8) : Bool := printableByte byte && byte ≠ 34 && byte ≠ 92

theorem plainByte_iff {byte : UInt8} :
    plainByte byte = true ↔ printableByte byte = true ∧ byte ≠ 34 ∧ byte ≠ 92 := by
  simp [plainByte, and_assoc]

theorem unescaped_of_plain {byte : UInt8} (plain : plainByte byte = true) :
    32 ≤ byte ∧ byte ≠ 34 ∧ byte ≠ 92 := by
  obtain ⟨printable, notQuote, notBackslash⟩ := plainByte_iff.mp plain
  rw [printableByte, Bool.and_eq_true, decide_eq_true_eq] at printable
  exact ⟨printable.1, notQuote, notBackslash⟩

/-- Printable text that needs no escapes. -/
def PlainText (text : List UInt8) : Prop := text.all plainByte = true

theorem plainText_iff {text : List UInt8} : PlainText text ↔ ∀ byte ∈ text, plainByte byte = true :=
  List.all_eq_true

theorem plainText_append {text other : List UInt8} (plain : PlainText text)
    (otherPlain : PlainText other) : PlainText (text ++ other) := by
  rw [PlainText, List.all_append, Bool.and_eq_true]
  exact ⟨plain, otherPlain⟩

theorem PlainText.printable {text : List UInt8} (plain : PlainText text) :
    text.all printableByte = true := by
  rw [List.all_eq_true]
  intro byte member
  exact (plainByte_iff.mp (plainText_iff.mp plain byte member)).1

theorem PlainText.readsAs {text : List UInt8} (plain : PlainText text) :
    ∀ byte ∈ text, ReadsAs [byte] byte := by
  intro byte member
  obtain ⟨visible, notQuote, notBackslash⟩ :=
    unescaped_of_plain (plainText_iff.mp plain byte member)
  exact readsAs_plain visible notQuote notBackslash

theorem spells_plainString {text : List UInt8} (plain : PlainText text) :
    Spells (34 :: (text ++ [34])) (.string text) [] := by
  have single : text.flatMap (fun byte => [byte]) = text := List.flatMap_singleton' text
  have shown : Shows (34 :: (text.flatMap (fun byte => [byte]) ++ [34])) [] := by
    refine shows_printable ?_
    rw [single, List.all_cons, List.all_append, plain.printable]
    rfl
  have spelled := spells_string plain.readsAs shown
  rwa [single] at spelled

/-! ### Members -/

theorem readMember_spelled (plain : PlainText name) (spelled : Spells bytes value texts)
    {depth : Nat} {rest : List UInt8} (enough : bytes.length ≤ depth) (delimited : Delimited rest) :
    readMember (readValue depth) (34 :: (name ++ 34 :: 58 :: (bytes ++ rest))) =
      some ((name, value), rest) := by
  have named : readString (name ++ 34 :: 58 :: (bytes ++ rest)) =
      some (name, 58 :: (bytes ++ rest)) := by
    have single : name.flatMap (fun byte => [byte]) = name := List.flatMap_singleton' name
    have whole := @readString_flatMap name (58 :: (bytes ++ rest)) _ plain.readsAs
    rwa [single] at whole
  have quote : (34 :: (name ++ 34 :: 58 :: (bytes ++ rest))).head? = some 34 := rfl
  have colon : (58 :: (bytes ++ rest)).head? = some 58 := rfl
  rw [readMember, if_pos quote, List.tail_cons, named]
  dsimp only
  rw [if_pos colon, List.tail_cons, spelled.reads depth rest enough delimited]
  rfl

theorem delimited_of_readMembers {reader : List UInt8 → Option (Json × List UInt8)} {passes : Nat}
    {rest : List UInt8} {result : List (List UInt8 × Json) × List UInt8}
    (reads : readMembers reader passes rest = some result) : Delimited rest := by
  intro first starts
  cases passes with
  | zero => exact absurd reads.symm (Option.some_ne_none result)
  | succ passes =>
      rw [readMembers, starts] at reads
      split_ifs at reads with brace comma
      · rw [Option.some.inj brace]
        rfl
      · rw [Option.some.inj comma]
        rfl

theorem spellsMembers_nil : SpellsMembers [] [] [] :=
  ⟨fun _ _ _ _ _ _ reads => reads, shows_nil⟩

theorem SpellsMembers.append (first : SpellsMembers bytes members texts)
    (second : SpellsMembers more others moreTexts) :
    SpellsMembers (bytes ++ more) (members ++ others) (texts ++ moreTexts) := by
  refine ⟨fun depth passes rest result left enough reads passesMore large => ?_,
    first.shows.append second.shows⟩
  rw [List.length_append] at enough large
  have later := second.reads depth passes rest result left (by omega) reads
  rw [List.append_assoc, List.append_assoc]
  exact first.reads depth (passes + more.length) (more ++ rest) (others ++ result) left (by omega)
    later passesMore (by omega)

theorem shows_name {opening : List UInt8} (visible : opening.all printableByte = true)
    (plain : PlainText name) : Shows (opening ++ name ++ ascii "\":") [] := by
  refine shows_printable ?_
  rw [List.all_append, List.all_append, visible, plain.printable]
  rfl

theorem SpellsMembers.ite (condition : Prop) [Decidable condition]
    (spelled : SpellsMembers bytes members texts) :
    SpellsMembers (if condition then bytes else []) (if condition then members else [])
      (if condition then texts else []) := by
  split_ifs
  · exact spelled
  · exact spellsMembers_nil

/-- A member as its comma, its name and its value. -/
theorem spellsMembers_member (plain : PlainText name) (spelled : Spells bytes value texts) :
    SpellsMembers (ascii ",\"" ++ name ++ ascii "\":" ++ bytes) [(name, value)] texts := by
  refine ⟨fun depth passes rest result left enough reads more large => ?_,
    (shows_name rfl plain).append spelled.shows⟩
  have shape : ascii ",\"" ++ name ++ ascii "\":" ++ bytes ++ rest =
      44 :: 34 :: (name ++ 34 :: 58 :: (bytes ++ rest)) := by
    rw [List.append_assoc, List.append_assoc, List.append_assoc]
    rfl
  have lengths : (ascii ",\"" ++ name ++ ascii "\":" ++ bytes).length =
      name.length + bytes.length + 4 := by
    rw [List.length_append, List.length_append, List.length_append]
    change 2 + name.length + 2 + bytes.length = _
    omega
  rw [lengths] at enough large
  obtain ⟨more, rfl⟩ : ∃ smaller, more = smaller + 1 := ⟨more - 1, by omega⟩
  have comma : (44 :: 34 :: (name ++ 34 :: 58 :: (bytes ++ rest))).head? = some 44 := rfl
  have noBrace : ¬ (44 :: 34 :: (name ++ 34 :: 58 :: (bytes ++ rest))).head? = some 125 := by
    rw [comma]
    decide
  have delimited := delimited_of_readMembers (reads passes le_rfl)
  have bytesFit : bytes.length ≤ depth := by omega
  rw [shape, readMembers, if_neg noBrace, if_pos comma, List.tail_cons,
    readMember_spelled plain spelled bytesFit delimited]
  dsimp only
  rw [reads more (by omega)]
  rfl

theorem spells_object (plain : PlainText name) (first : Spells bytes value texts)
    (rest : SpellsMembers more members moreTexts) :
    Spells (ascii "\x7b\"" ++ name ++ ascii "\":" ++ bytes ++ more ++ ascii "\x7d")
      (.object ((name, value) :: members)) (texts ++ moreTexts) := by
  constructor
  · intro depth after enough _
    have shape : ascii "\x7b\"" ++ name ++ ascii "\":" ++ bytes ++ more ++ ascii "\x7d" ++ after =
        123 :: 34 :: (name ++ 34 :: 58 :: (bytes ++ (more ++ 125 :: after))) := by
      simp only [List.append_assoc]
      rfl
    have lengths : (ascii "\x7b\"" ++ name ++ ascii "\":" ++ bytes ++ more ++ ascii "\x7d").length =
        name.length + bytes.length + more.length + 5 := by
      simp only [List.length_append]
      change 2 + name.length + 2 + bytes.length + more.length + 1 = _
      omega
    rw [lengths] at enough
    obtain ⟨depth, rfl⟩ : ∃ smaller, depth = smaller + 1 := ⟨depth - 1, by omega⟩
    have closing : ∀ passes, 1 ≤ passes →
        readMembers (readValue depth) passes (125 :: after) = some ([], after) := by
      intro passes positive
      obtain ⟨passes, rfl⟩ : ∃ smaller, passes = smaller + 1 := ⟨passes - 1, by omega⟩
      exact if_pos rfl
    have moreFit : more.length ≤ depth := by omega
    have later := rest.reads depth 1 (125 :: after) [] after moreFit closing
    have delimited := delimited_of_readMembers (later (1 + more.length) le_rfl)
    have bytesFit : bytes.length ≤ depth := by omega
    have notEmpty : ¬ (34 :: (name ++ 34 :: 58 :: (bytes ++ (more ++ 125 :: after)))).head? =
        some 125 := by
      rw [List.head?_cons]
      decide
    rw [shape, readValue, if_pos rfl, if_neg notEmpty,
      readMember_spelled plain first bytesFit delimited]
    dsimp only
    rw [later depth (by omega), List.append_nil]
    rfl
  · have openingName : Shows (ascii "\x7b\"" ++ name ++ ascii "\":") [] :=
      shows_name rfl plain
    have closingBrace : Shows (ascii "\x7d") [] := shows_printable rfl
    have braced := ((openingName.append first.shows).append rest.shows).append closingBrace
    rwa [List.nil_append, List.append_nil] at braced

/-! ### Literal names

A format literal holds the punctuation and the name, so that both are matched by their
characters. -/

/-- The characters of a literal are plain. -/
def PlainLiteral (characters : List Char) : Prop :=
  (characters.map fun character => UInt8.ofNat character.toNat).all plainByte = true

theorem plainText_ascii {characters : List Char} (plain : PlainLiteral characters) :
    PlainText (ascii (String.ofList characters)) := by
  rwa [PlainText, ascii_ofList]

theorem spellsMembers_literal (name : List UInt8) {characters : List Char}
    (literal : name = ascii (String.ofList characters)) (plain : PlainLiteral characters)
    (spelled : Spells bytes value texts) :
    SpellsMembers (ascii (String.ofList (',' :: '"' :: (characters ++ ['"', ':']))) ++ bytes)
      [(name, value)] texts := by
  have shape : ascii (String.ofList (',' :: '"' :: (characters ++ ['"', ':']))) =
      ascii ",\"" ++ name ++ ascii "\":" := by
    rw [literal, ascii_ofList, ascii_ofList, ascii_ofList, ascii_ofList, List.map_cons,
      List.map_cons, List.map_append]
    rfl
  rw [shape]
  exact spellsMembers_member (literal ▸ plainText_ascii plain) spelled

theorem spells_objectLiteral (name : List UInt8) {characters : List Char}
    (literal : name = ascii (String.ofList characters)) (plain : PlainLiteral characters)
    (first : Spells bytes value texts) (rest : SpellsMembers more members moreTexts) :
    Spells (ascii (String.ofList ('\x7b' :: '"' :: (characters ++ ['"', ':']))) ++ bytes ++ more ++
      ascii "\x7d") (.object ((name, value) :: members)) (texts ++ moreTexts) := by
  have shape : ascii (String.ofList ('\x7b' :: '"' :: (characters ++ ['"', ':']))) =
      ascii "\x7b\"" ++ name ++ ascii "\":" := by
    rw [literal, ascii_ofList, ascii_ofList, ascii_ofList, ascii_ofList, List.map_cons,
      List.map_cons, List.map_append]
    rfl
  rw [shape]
  exact spells_object (literal ▸ plainText_ascii plain) first rest

/-- The whole text is the value. -/
theorem Spells.readJson (spelled : Spells bytes value texts) : readJson bytes = some value := by
  have nothing : Delimited [] := fun first starts => absurd starts.symm (Option.some_ne_none first)
  have whole := spelled.reads (bytes.length + 1) [] (Nat.le_succ _) nothing
  rw [List.append_nil] at whole
  rw [Foundation.readJson, whole]

theorem Spells.printed_iff (spelled : Spells bytes value texts) :
    PrintedText bytes ↔ ∀ text ∈ texts, CleanText text := by
  have whole := spelled.shows []
  rw [List.append_nil] at whole
  exact whole.trans (and_iff_left utf8Text_nil)

end Spelling

end MiniSniffer.Foundation
