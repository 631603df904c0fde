import MiniSniffer.Foundation.Csv
import MiniSniffer.Output.CsvLogger

/-!
Contract: rows of the CSV log as records.

Owns the cells that a row is made of, that header and row are one record of the same width each, and
that text cells are neutral, whatever a packet carries.

Does not own the log of a whole capture.
-/

namespace MiniSniffer

open Foundation

/-! ### Text cells -/

/-- Printable ASCII whose first character after blanks starts no spreadsheet formula. -/
structure NeutralText (text : List UInt8) : Prop where
  printable : ∀ byte ∈ text, 32 ≤ byte ∧ byte ≤ 126
  noFormula : ∀ first, text.find? (· ≠ 32) = some first → first ∉ ascii "=+-@"

section TextCells

/-- The text that a quoted cell stands for. -/
def shownBytes (substitute : UInt8 → List UInt8) (text : List UInt8) : List UInt8 :=
  (if csvTextNeedsFormulaPrefix text then [39] else []) ++
    text.flatMap fun byte => if csvPrintable byte then [byte] else substitute byte

/-- A substitute is visible text that starts neither a formula nor a quoted part. -/
def NeutralSubstitute (substitute : UInt8 → List UInt8) : Prop :=
  ∀ byte, ∃ first rest, substitute byte = first :: rest ∧ first ≠ 32 ∧ first ∉ ascii "=+-@" ∧
    (substitute byte).all fun shown => csvPrintable shown && shown ≠ 34

variable {substitute : UInt8 → List UInt8} {text : List UInt8} {byte : UInt8}

theorem csvPrintable_of_lowerHexDigit :
    ∀ byte, lowerHexDigit byte = true → (csvPrintable byte && byte ≠ 34) = true :=
  forall_byte (by decide +kernel)

theorem neutralSubstitute_dot : NeutralSubstitute fun _ => ascii "." :=
  fun _ => ⟨46, [], rfl, by decide, by decide, rfl⟩

theorem neutralSubstitute_hex :
    NeutralSubstitute fun byte => ascii "\\x" ++ hexText 2 byte.toNat := by
  refine fun byte => ⟨92, 120 :: hexText 2 byte.toNat, rfl, by decide, by decide, ?_⟩
  rw [List.all_append, Bool.and_eq_true]
  exact ⟨rfl, List.all_eq_true.mpr fun shown member =>
    csvPrintable_of_lowerHexDigit shown (lowerHexDigit_of_mem_hexText member)⟩

/-- What a substitute shows is printable and no quote. -/
theorem NeutralSubstitute.visible (neutral : NeutralSubstitute substitute) {shown : UInt8}
    (member : shown ∈ substitute byte) : csvPrintable shown = true ∧ shown ≠ 34 := by
  obtain ⟨first, rest, -, -, -, visible⟩ := neutral byte
  have known := List.all_eq_true.mp visible shown member
  rwa [Bool.and_eq_true, decide_eq_true_eq] at known

theorem csvFormulaStart_iff :
    ∀ byte, csvFormulaStart byte = true ↔ byte ∈ ascii "=+-@" :=
  forall_byte (by decide +kernel)

/-- The prefix test looks at the first character after blanks. -/
theorem csvTextNeedsFormulaPrefix_iff :
    csvTextNeedsFormulaPrefix text = true ↔
      ∃ first, text.find? (· ≠ 32) = some first ∧ first ∈ ascii "=+-@" := by
  have skipped : (text.dropWhile (· = 32)).head? = text.find? (· ≠ 32) := by
    simpa using (List.find?_not_eq_head?_dropWhile (· = 32) text).symm
  rw [csvTextNeedsFormulaPrefix, skipped, Option.any_eq_true]
  exact exists_congr fun first => and_congr_right fun _ => csvFormulaStart_iff first

theorem shownBytes_encode (neutral : NeutralSubstitute substitute) :
    (CsvCell.quoted (shownBytes substitute text)).encode =
      ascii "\"" ++ writeQuotedBytes substitute text ++ ascii "\"" := by
  have prefixPart : escapeQuotes (if csvTextNeedsFormulaPrefix text then [39] else []) =
      if csvTextNeedsFormulaPrefix text then [39] else [] := by
    split_ifs <;> rfl
  have bytePart : ∀ byte : UInt8,
      escapeQuotes (if csvPrintable byte then [byte] else substitute byte) =
        (if byte = 34 then [34] else []) ++
          (if csvPrintable byte then [byte] else substitute byte) := by
    intro byte
    by_cases quote : byte = 34
    · rw [quote]
      rfl
    · rw [if_neg quote, List.nil_append]
      refine escapeQuotes_of_not_mem fun member => ?_
      split_ifs at member
      · exact quote (List.mem_singleton.mp member).symm
      · exact (neutral.visible member).2 rfl
  rw [CsvCell.encode, shownBytes, writeQuotedBytes, escapeQuotes_append, prefixPart,
    escapeQuotes_flatMap, funext bytePart]
  rfl

/-- The first shown character after blanks is that of the text or starts a substitute. -/
theorem find_shown (neutral : NeutralSubstitute substitute) {first : UInt8}
    (found : (text.flatMap fun byte =>
      if csvPrintable byte then [byte] else substitute byte).find? (· ≠ 32) = some first)
    (formula : first ∈ ascii "=+-@") : text.find? (· ≠ 32) = some first := by
  induction text with
  | nil => exact absurd found (by simp)
  | cons byte text inductionHypothesis =>
      rw [List.flatMap_cons] at found
      by_cases blank : byte = 32
      · rw [blank] at found ⊢
        exact inductionHypothesis found
      · rw [List.find?_cons_of_pos (by simpa using blank)]
        split_ifs at found with printable
        · rwa [List.singleton_append, List.find?_cons_of_pos (by simpa using blank)] at found
        · obtain ⟨shown, rest, starts, notBlank, noFormula, -⟩ := neutral byte
          rw [starts, List.cons_append, List.find?_cons_of_pos (by simpa using notBlank)] at found
          exact absurd (Option.some.inj found ▸ formula) noFormula

theorem shownBytes_neutral (neutral : NeutralSubstitute substitute) :
    NeutralText (shownBytes substitute text) := by
  constructor
  · intro shown member
    have printable : csvPrintable shown = true := by
      rcases List.mem_append.mp member with quoting | bytes
      · split_ifs at quoting
        · rw [List.mem_singleton.mp quoting]
          rfl
        · exact absurd quoting List.not_mem_nil
      · obtain ⟨byte, -, inside⟩ := List.mem_flatMap.mp bytes
        split_ifs at inside with known
        · rwa [List.mem_singleton.mp inside]
        · exact (neutral.visible inside).1
    rwa [csvPrintable, Bool.and_eq_true, decide_eq_true_eq, decide_eq_true_eq] at printable
  · intro first found formula
    rw [shownBytes] at found
    by_cases dangerous : csvTextNeedsFormulaPrefix text = true
    · rw [if_pos dangerous, List.singleton_append, List.find?_cons_of_pos (by decide)] at found
      obtain rfl := Option.some.inj found
      exact absurd formula (by decide)
    · rw [if_neg dangerous, List.nil_append] at found
      exact dangerous (csvTextNeedsFormulaPrefix_iff.mpr
        ⟨first, find_shown neutral found formula, formula⟩)

end TextCells

/-! ### Records -/

/-- What every cell of a row satisfies. -/
structure LoggedCell (cell : CsvCell) : Prop where
  valid : cell.Valid
  neutral : ∀ text, cell = .quoted text → NeutralText text

def csvTextCell (text : List UInt8) : CsvCell :=
  .quoted (shownBytes (fun byte => ascii "\\x" ++ hexText 2 byte.toNat) (cString text))

/-- What `inet_ntop` prints with. -/
def addressByte (byte : UInt8) : Bool :=
  lowerHexDigit byte || (65 ≤ byte && byte ≤ 70) || byte = 58 || byte = 46

section Cells

variable {text : List UInt8}

theorem loggedCell_quoted (neutral : NeutralText text) : LoggedCell (.quoted text) := by
  refine ⟨fun byte member => ?_, fun other same => CsvCell.quoted.inj same ▸ neutral⟩
  have visible : ∀ byte : UInt8, 32 ≤ byte ∧ byte ≤ 126 → byte = 34 ∨ csvQuotedByte byte = true :=
    forall_byte (by decide +kernel)
  exact visible byte (neutral.printable byte member)

theorem loggedCell_plain (textBytes : text.all csvTextByte = true) : LoggedCell (.plain text) :=
  ⟨List.all_eq_true.mp textBytes, fun _ impossible => CsvCell.noConfusion impossible⟩

theorem LoggedCell.oneLine {cell : CsvCell} (logged : LoggedCell cell) : 10 ∉ cell.encode := by
  intro feed
  cases cell with
  | plain text => exact absurd (logged.valid 10 feed) (by decide)
  | quoted text =>
      have inside : (10 : UInt8) ∈ text := by
        rcases List.mem_cons.mp feed with quote | feed
        · exact absurd quote (by decide)
        · rcases List.mem_append.mp feed with feed | quote
          · obtain ⟨byte, member, shown⟩ := List.mem_flatMap.mp feed
            split_ifs at shown
            · exact absurd shown (by decide)
            · rwa [List.mem_singleton.mp shown]
          · exact absurd quote (by decide)
      exact absurd ((logged.neutral text rfl).printable 10 inside).1 (by decide)

theorem csvTextByte_of_decimalDigit : ∀ byte, decimalDigit byte = true → csvTextByte byte = true :=
  forall_byte (by decide +kernel)

theorem csvTextByte_of_lowerHexDigit :
    ∀ byte, lowerHexDigit byte = true → csvTextByte byte = true :=
  forall_byte (by decide +kernel)

theorem csvTextByte_of_addressByte : ∀ byte, addressByte byte = true → csvTextByte byte = true :=
  forall_byte (by decide +kernel)

theorem loggedCell_csvText (text : List UInt8) : LoggedCell (csvTextCell text) :=
  loggedCell_quoted (shownBytes_neutral neutralSubstitute_hex)

theorem loggedCell_address (printed : ∀ byte ∈ text, addressByte byte = true) :
    LoggedCell (.plain text) :=
  loggedCell_plain (List.all_eq_true.mpr fun byte member =>
    csvTextByte_of_addressByte byte (printed byte member))

theorem loggedCell_empty : LoggedCell (.plain []) := loggedCell_plain rfl

theorem loggedCell_decimal (value : Nat) : LoggedCell (.plain (decimalText value)) :=
  loggedCell_plain (List.all_eq_true.mpr fun byte member =>
    csvTextByte_of_decimalDigit byte (decimalDigit_of_mem_decimalText member))

theorem loggedCell_prefixedHex (digits value : Nat) :
    LoggedCell (.plain (ascii "0x" ++ hexText digits value)) := by
  refine loggedCell_plain ?_
  rw [List.all_append, Bool.and_eq_true]
  exact ⟨rfl, List.all_eq_true.mpr fun byte member =>
    csvTextByte_of_lowerHexDigit byte (lowerHexDigit_of_mem_hexText member)⟩

theorem loggedCell_protocol (protocol : Protocol) :
    LoggedCell (.plain (protocolToString protocol)) := by
  refine loggedCell_plain ?_
  cases protocol <;> rfl

theorem loggedCell_appProtocol (protocol : AppProtocol) :
    LoggedCell (.plain (appProtocolToString protocol)) := by
  refine loggedCell_plain ?_
  cases protocol <;> rfl

theorem loggedCell_arpOperation (operation : UInt16) :
    LoggedCell (.plain (arpOperationText operation)) := by
  refine loggedCell_plain ?_
  rw [arpOperationText]
  split_ifs <;> rfl

theorem loggedCell_ite {condition : Prop} [Decidable condition]
    (logged : LoggedCell (.plain text)) :
    LoggedCell (.plain (if condition then text else [])) := by
  split_ifs
  · exact logged
  · exact loggedCell_empty

theorem loggedCell_payloadHex (preview : List UInt8) :
    LoggedCell (.quoted (payloadHex preview)) := by
  have harmless : ∀ byte : UInt8, lowerHexDigit byte = true ∨ byte = 32 →
      (32 ≤ byte ∧ byte ≤ 126) ∧ byte ∉ ascii "=+-@" := forall_byte (by decide +kernel)
  have safe := fun byte member => harmless byte (@payloadHex_digitOrBlank preview byte member)
  exact loggedCell_quoted ⟨fun byte member => (safe byte member).1,
    fun first found => (safe first (List.mem_of_find?_eq_some found)).2⟩

theorem encode_payloadHex (preview : List UInt8) :
    (CsvCell.quoted (payloadHex preview)).encode =
      ascii "\"" ++ payloadHex preview ++ ascii "\"" := by
  have noQuote : 34 ∉ payloadHex preview := fun quote =>
    absurd (payloadHex_digitOrBlank 34 quote) (by decide)
  rw [CsvCell.encode, escapeQuotes_of_not_mem noQuote]
  rfl

theorem encode_csvTextCell (text : List UInt8) : (csvTextCell text).encode = writeCsvText text :=
  shownBytes_encode neutralSubstitute_hex

end Cells

/-! ### Rows as records -/

section RowCells

variable (addressText : IpText → List UInt8) (logger : CsvLogger) (packet : StampedPacket)
  (app : Option AppInfo) (appSource : Option (List UInt8))

def legacyCells : List CsvCell :=
  [.plain (decimalText packet.packetNumber.toNat), .plain (protocolToString packet.protocol),
    .plain (addressText packet.srcIp),
    .plain (writeOptionalPort packet.toPacketInfo packet.srcPort),
    .plain (addressText packet.dstIp),
    .plain (writeOptionalPort packet.toPacketInfo packet.dstPort), .plain (decimalText packet.size)]

def payloadCells : List CsvCell :=
  legacyCells addressText packet ++
    [.plain (decimalText packet.payloadCaptureLength),
      .quoted (writePayloadHex logger packet.toPacketInfo),
      .quoted (shownBytes (fun _ => ascii ".") (loggedPreview logger packet.toPacketInfo))]

def appCells : List CsvCell :=
  let rowApp := app.getD {}
  [csvTextCell packet.timestamp, csvTextCell (addressText packet.srcIp),
    .plain (writeOptionalPort packet.toPacketInfo packet.srcPort),
    csvTextCell (addressText packet.dstIp),
    .plain (writeOptionalPort packet.toPacketInfo packet.dstPort),
    .plain (protocolToString packet.protocol), .plain (decimalText packet.size),
    .plain (appProtocolToString rowApp.protocol), csvTextCell rowApp.httpMethod,
    csvTextCell rowApp.httpHost, csvTextCell rowApp.httpPath,
    .plain (writeNonzero rowApp.httpStatusCode.toNat), csvTextCell rowApp.dnsQueryName,
    .plain (writeNonzero rowApp.dnsQueryType.toNat),
    .plain (writeNonzero rowApp.dnsQueryClass.toNat), .plain (decimalText rowApp.dnsRcode.toNat),
    csvTextCell rowApp.tlsSni, csvTextCell rowApp.tlsAlpn,
    .plain (writeHexVersion rowApp.tlsRecordVersion),
    .plain (writeHexVersion rowApp.tlsClientVersion),
    csvTextCell (normalizedAppSource app appSource),
    .plain (writeNonzero rowApp.dhcpMessageType.toNat),
    .plain (if rowApp.protocol = .dhcp then ascii "0x" ++ hexText 8 rowApp.dhcpTransactionId.toNat
      else []),
    csvTextCell rowApp.dhcpClientMac, csvTextCell (addressText rowApp.dhcpClientIp),
    csvTextCell (addressText rowApp.dhcpYourIp), csvTextCell (addressText rowApp.dhcpServerIp),
    csvTextCell (addressText rowApp.dhcpRequestedIp),
    .plain (if rowApp.protocol = .quic then ascii "0x" ++ hexText 8 rowApp.quicVersion.toNat
      else []),
    csvTextCell rowApp.quicDcid, csvTextCell rowApp.quicScid,
    .plain (if packet.hasArp then arpOperationText packet.arpOperation else []),
    csvTextCell packet.arpSenderMac, csvTextCell packet.arpTargetMac]

/-- The cells of the schema that the logger was opened with. -/
def rowCells : List CsvCell :=
  if logger.appColumnsEnabled then appCells addressText packet app appSource
  else if logger.payloadColumnsEnabled then payloadCells addressText logger packet
  else legacyCells addressText packet

theorem writeAppPacket_eq :
    writeAppPacket addressText packet app appSource =
      encodeRecord (appCells addressText packet app appSource) := by
  have comma : ascii "," = [44] := rfl
  have feed : ascii "\n" = [10] := rfl
  unfold appCells writeAppPacket
  simp only [comma, feed, encodeRecord_cons, encodeRecord_singleton, encode_csvTextCell,
    CsvCell.encode_plain, List.append_assoc]

theorem writeLegacyPacket_eq :
    writeLegacyPacket addressText logger packet =
      if logger.payloadColumnsEnabled then
        encodeRecord (payloadCells addressText logger packet)
      else encodeRecord (legacyCells addressText packet) := by
  have comma : ascii "," = [44] := rfl
  have commas : ascii ",," = [44, 44] := rfl
  have opening : ascii ",\"" = [44] ++ ascii "\"" := rfl
  have between : ascii "\",\"" = ascii "\"" ++ [44] ++ ascii "\"" := rfl
  have ending : ascii "\"\n" = ascii "\"" ++ [10] := rfl
  have feed : ascii "\n" = [10] := rfl
  have hexCell := encode_payloadHex (loggedPreview logger packet.toPacketInfo)
  have asciiCell := @shownBytes_encode _ (loggedPreview logger packet.toPacketInfo)
    neutralSubstitute_dot
  unfold writeLegacyPacket payloadCells legacyCells writePayloadHex writePayloadAscii
    writeOptionalPort
  cases payloadColumns : logger.payloadColumnsEnabled <;> cases ports : packet.hasPorts <;>
    simp [encodeRecord_cons, encodeRecord_singleton, hexCell, asciiCell, comma, commas, opening,
      between, ending, feed]

theorem csvLoggerWritePacket_eq :
    csvLoggerWritePacket addressText logger packet app appSource =
      encodeRecord (rowCells addressText logger packet app appSource) := by
  rw [csvLoggerWritePacket, rowCells]
  split_ifs with appColumns payloadColumns
  · exact writeAppPacket_eq ..
  · rw [writeLegacyPacket_eq, if_pos payloadColumns]
  · rw [writeLegacyPacket_eq, if_neg payloadColumns]

variable {addressText packet}

theorem legacyCells_logged
    (source : ∀ byte ∈ addressText packet.srcIp, addressByte byte = true)
    (destination : ∀ byte ∈ addressText packet.dstIp, addressByte byte = true) :
    ∀ cell ∈ legacyCells addressText packet, LoggedCell cell := by
  have srcPort := @loggedCell_ite _ (packet.hasPorts = true) _
    (loggedCell_decimal packet.srcPort.toNat)
  have dstPort := @loggedCell_ite _ (packet.hasPorts = true) _
    (loggedCell_decimal packet.dstPort.toNat)
  simp only [legacyCells, List.forall_mem_cons]
  exact ⟨loggedCell_decimal _, loggedCell_protocol _, loggedCell_address source, srcPort,
    loggedCell_address destination, dstPort, loggedCell_decimal _,
    fun _ member => absurd member List.not_mem_nil⟩

theorem payloadCells_logged
    (source : ∀ byte ∈ addressText packet.srcIp, addressByte byte = true)
    (destination : ∀ byte ∈ addressText packet.dstIp, addressByte byte = true) :
    ∀ cell ∈ payloadCells addressText logger packet, LoggedCell cell := by
  have asciiCell := loggedCell_quoted
    (@shownBytes_neutral _ (loggedPreview logger packet.toPacketInfo) neutralSubstitute_dot)
  rw [payloadCells, List.forall_mem_append]
  refine ⟨legacyCells_logged source destination, ?_⟩
  simp only [List.forall_mem_cons]
  exact ⟨loggedCell_decimal _, loggedCell_payloadHex _, asciiCell,
    fun _ member => absurd member List.not_mem_nil⟩

variable (addressText packet) in
theorem appCells_logged :
    ∀ cell ∈ appCells addressText packet app appSource, LoggedCell cell := by
  have nonzero : ∀ value, LoggedCell (.plain (writeNonzero value)) :=
    fun value => loggedCell_ite (loggedCell_decimal value)
  have port : ∀ port, LoggedCell (.plain (writeOptionalPort packet.toPacketInfo port)) :=
    fun port => loggedCell_ite (loggedCell_decimal port.toNat)
  have version : ∀ version, LoggedCell (.plain (writeHexVersion version)) :=
    fun version => loggedCell_ite (loggedCell_prefixedHex 4 version.toNat)
  unfold appCells
  simp only [List.forall_mem_cons]
  exact ⟨loggedCell_csvText _, loggedCell_csvText _, port _, loggedCell_csvText _, port _,
    loggedCell_protocol _, loggedCell_decimal _, loggedCell_appProtocol _, loggedCell_csvText _,
    loggedCell_csvText _, loggedCell_csvText _, nonzero _, loggedCell_csvText _, nonzero _,
    nonzero _, loggedCell_decimal _, loggedCell_csvText _, loggedCell_csvText _, version _,
    version _, loggedCell_csvText _, nonzero _, loggedCell_ite (loggedCell_prefixedHex 8 _),
    loggedCell_csvText _, loggedCell_csvText _, loggedCell_csvText _, loggedCell_csvText _,
    loggedCell_csvText _, loggedCell_ite (loggedCell_prefixedHex 8 _), loggedCell_csvText _,
    loggedCell_csvText _, loggedCell_ite (loggedCell_arpOperation _), loggedCell_csvText _,
    loggedCell_csvText _, fun _ member => absurd member List.not_mem_nil⟩

theorem rowCells_logged
    (source : ∀ byte ∈ addressText packet.srcIp, addressByte byte = true)
    (destination : ∀ byte ∈ addressText packet.dstIp, addressByte byte = true) :
    ∀ cell ∈ rowCells addressText logger packet app appSource, LoggedCell cell := by
  rw [rowCells]
  split_ifs
  · exact appCells_logged addressText packet app appSource
  · exact payloadCells_logged logger source destination
  · exact legacyCells_logged source destination

/-- The header names as many columns as a row has cells. -/
theorem readRecord_writeHeader :
    ∃ names, readRecord (writeHeader logger) = some names ∧
      names.length = (rowCells addressText logger packet app appSource).length := by
  rw [← Option.map_eq_some_iff, writeHeader, rowCells]
  split_ifs
  · change _ = some 34
    rw [ascii_ofList, ascii_ofList, ascii_ofList, ascii_ofList, ascii_ofList, ascii_ofList]
    decide +kernel
  · change _ = some 10
    rw [ascii_ofList, ascii_ofList]
    decide +kernel
  · change _ = some 7
    rw [ascii_ofList]
    decide +kernel

/-- A row is one record of the header's width, and its text cells are neutral. -/
theorem csv_row_intact
    (source : ∀ byte ∈ addressText packet.srcIp, addressByte byte = true)
    (destination : ∀ byte ∈ addressText packet.dstIp, addressByte byte = true) :
    ∃ names body cells,
      readRecord (writeHeader logger) = some names ∧
        csvLoggerWritePacket addressText logger packet app appSource = body ++ [10] ∧
        10 ∉ body ∧
        readRecord (csvLoggerWritePacket addressText logger packet app appSource) = some cells ∧
        cells.length = names.length ∧
        ∀ text, CsvCell.quoted text ∈ cells → NeutralText text := by
  have logged := rowCells_logged logger app appSource source destination
  obtain ⟨names, header, width⟩ := @readRecord_writeHeader addressText logger packet app appSource
  obtain ⟨body, line, oneLine⟩ := encodeRecord_line fun cell member => (logged cell member).oneLine
  have someCells : rowCells addressText logger packet app appSource ≠ [] := by
    rw [rowCells]
    split_ifs <;> exact List.cons_ne_nil _ _
  have record := readRecord_encodeRecord someCells fun cell member => (logged cell member).valid
  rw [csvLoggerWritePacket_eq]
  exact ⟨names, body, _, header, line, oneLine, record, width.symm,
    fun text member => (logged _ member).neutral text rfl⟩

end RowCells

def formulaPacket : StampedPacket :=
  { srcIp := .ipv4 [192, 0, 2, 1], dstIp := .ipv4 [198, 51, 100, 7], srcPort := 50000, dstPort := 80
    hasPorts := true, size := 90, packetNumber := 1, timestamp := ascii "12:00:00.000000" }

def formulaApp : AppInfo :=
  { protocol := .http, httpMethod := ascii "GET", httpHost := ascii "  =cmd|'/c'!\"A1\"",
    httpPath := [47, 44, 10, 233] }

theorem csv_row_intact_formula :
    ∃ names body cells,
      readRecord (writeHeader (csvLoggerOpen true false 0)) = some names ∧
        csvLoggerWritePacket dottedDecimal (csvLoggerOpen true false 0) formulaPacket
          (some formulaApp) (some (ascii "flow")) = body ++ [10] ∧
        10 ∉ body ∧
        readRecord (csvLoggerWritePacket dottedDecimal (csvLoggerOpen true false 0) formulaPacket
          (some formulaApp) (some (ascii "flow"))) = some cells ∧
        cells.length = names.length ∧
        ∀ text, CsvCell.quoted text ∈ cells → NeutralText text :=
  csv_row_intact _ _ _ (List.all_eq_true.mp (by decide)) (List.all_eq_true.mp (by decide))

end MiniSniffer
