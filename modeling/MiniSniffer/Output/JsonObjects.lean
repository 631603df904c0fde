import MiniSniffer.App.Http
import MiniSniffer.Foundation.Json
import MiniSniffer.Output.JsonLine

/-!
Contract: JSON lines as JSON texts.

Owns the object that a line stands for, the texts that it shows, and which packets are printed as
one valid JSON text without control characters.

Does not own which texts a decoder stores.
-/

namespace MiniSniffer

open Foundation

/-! ### The object of a line -/

def textMember (name value : List UInt8) : List (List UInt8 × Json) :=
  if cString value = [] then [] else [(name, .string (cString value))]

def nonzeroMember (name : List UInt8) (value : Nat) : List (List UInt8 × Json) :=
  if value ≠ 0 then [(name, .number value)] else []

def dnsMembers (app : AppInfo) : List (List UInt8 × Json) :=
  textMember (ascii "query") app.dnsQueryName ++
    nonzeroMember (ascii "type") app.dnsQueryType.toNat ++
    nonzeroMember (ascii "class") app.dnsQueryClass.toNat ++
    [(ascii "rcode", .number app.dnsRcode.toNat)]

section Objects

variable (addressText : IpText → List UInt8)

/-- The members that each protocol adds. -/
def appMembers (app : AppInfo) : List (List UInt8 × Json) :=
  match app.protocol with
  | .unknown => []
  | .http =>
      textMember (ascii "method") app.httpMethod ++ textMember (ascii "host") app.httpHost ++
        textMember (ascii "path") app.httpPath ++ textMember (ascii "version") app.httpVersion ++
        nonzeroMember (ascii "status") app.httpStatusCode.toNat
  | .dns => dnsMembers app
  | .tls =>
      textMember (ascii "sni") app.tlsSni ++ textMember (ascii "alpn") app.tlsAlpn ++
        (if app.tlsRecordVersion ≠ 0 then
          [(ascii "record_version", .string (ascii "0x" ++ hexText 4 app.tlsRecordVersion.toNat))]
        else []) ++
        (if app.tlsClientVersion ≠ 0 then
          [(ascii "client_version", .string (ascii "0x" ++ hexText 4 app.tlsClientVersion.toNat))]
        else [])
  | .mdns => dnsMembers app
  | .dhcp =>
      [(ascii "message_type", .string (outputDhcpMessageTypeName app.dhcpMessageType))] ++
        [(ascii "transaction_id", .string (ascii "0x" ++ hexText 8 app.dhcpTransactionId.toNat))] ++
        textMember (ascii "client_mac") app.dhcpClientMac ++
        textMember (ascii "client_ip") (addressText app.dhcpClientIp) ++
        textMember (ascii "your_ip") (addressText app.dhcpYourIp) ++
        textMember (ascii "server_ip") (addressText app.dhcpServerIp) ++
        textMember (ascii "requested_ip") (addressText app.dhcpRequestedIp)
  | .quic =>
      [(ascii "version", .string (ascii "0x" ++ hexText 8 app.quicVersion.toNat))] ++
        textMember (ascii "dcid") app.quicDcid ++ textMember (ascii "scid") app.quicScid

def appJson (app : Option AppInfo) : Json :=
  match app with
  | none => .null
  | some decoded =>
      if decoded.protocol = .unknown then .null
      else
        .object ((ascii "protocol", .string (appProtocolName decoded.protocol)) ::
          appMembers addressText decoded)

def transportJson (packet : PacketInfo) : Json :=
  .object ((ascii "protocol", .string (protocolJsonName packet.protocol)) ::
    (textMember (ascii "src_ip") (addressText packet.srcIp) ++
      (if packet.hasPorts then [(ascii "src_port", .number packet.srcPort.toNat)] else []) ++
      textMember (ascii "dst_ip") (addressText packet.dstIp) ++
      (if packet.hasPorts then [(ascii "dst_port", .number packet.dstPort.toNat)] else []) ++
      (if packet.hasIcmp then
        [(ascii "icmp_type", .number packet.icmpType.toNat)] ++
          [(ascii "icmp_code", .number packet.icmpCode.toNat)]
      else [])))

def arpJson (packet : PacketInfo) : Json :=
  .object ((ascii "operation", .string (arpOperationText packet.arpOperation)) ::
    ([(ascii "sender_mac", .string (cString packet.arpSenderMac))] ++
      [(ascii "sender_ip", .string (cString (addressText packet.srcIp)))] ++
      [(ascii "target_mac", .string (cString packet.arpTargetMac))] ++
      [(ascii "target_ip", .string (cString (addressText packet.dstIp)))]))

/-- The preview with a dot for what is not printable. -/
def previewText (preview : List UInt8) : List UInt8 :=
  preview.map fun byte => if 32 ≤ byte && byte ≤ 126 then byte else 46

def payloadJson (packet : PacketInfo) (payloadLimit : Nat) : Json :=
  .object ((ascii "length", .number packet.payloadCaptureLength) ::
    ([(ascii "preview_length", .number payloadLimit)] ++
      [(ascii "truncated", .bool (packet.payloadCaptureLength > payloadLimit))] ++
      [(ascii "hex", .string (payloadHex (packet.payloadPreview.take payloadLimit)))] ++
      [(ascii "ascii", .string (previewText (packet.payloadPreview.take payloadLimit)))]))

/-- What a line stands for: every text is the field that it was printed from. -/
def packetJson (packet : StampedPacket) (app : Option AppInfo) (appSource : Option (List UInt8))
    (payloadEnabled : Bool) (payloadPreviewLimit : Nat) : Json :=
  .object ((ascii "timestamp", .string (cString packet.timestamp)) ::
    ([(ascii "packet_number", .number packet.packetNumber.toNat)] ++
      [(ascii "transport", transportJson addressText packet.toPacketInfo)] ++
      [(ascii "packet_length", .number packet.size)] ++
      (if packet.hasArp then [(ascii "arp", arpJson addressText packet.toPacketInfo)] else []) ++
      (if payloadEnabled && packet.hasPayload then
        [(ascii "payload", payloadJson packet.toPacketInfo
          (min packet.payloadPreview.length payloadPreviewLimit))]
      else []) ++
      [(ascii "app", appJson addressText app)] ++
      [(ascii "app_decode_status", .string (appDecodeStatusToString packet.appDecodeStatus))] ++
      [(ascii "app_source", .string (normalizedAppSource app appSource))]))

/-! ### The texts of a line -/

def appTexts (app : AppInfo) : List (List UInt8) :=
  match app.protocol with
  | .unknown => []
  | .http => [app.httpMethod, app.httpHost, app.httpPath, app.httpVersion]
  | .dns => [app.dnsQueryName]
  | .tls => [app.tlsSni, app.tlsAlpn]
  | .mdns => [app.dnsQueryName]
  | .dhcp =>
      [app.dhcpClientMac, addressText app.dhcpClientIp, addressText app.dhcpYourIp,
        addressText app.dhcpServerIp, addressText app.dhcpRequestedIp]
  | .quic => [app.quicDcid, app.quicScid]

/-- The text fields that a line is printed from. -/
def jsonTexts (packet : StampedPacket) (app : Option AppInfo) : List (List UInt8) :=
  [packet.timestamp, addressText packet.srcIp, addressText packet.dstIp] ++
    (if packet.hasArp then [packet.arpSenderMac, packet.arpTargetMac] else []) ++
    appTexts addressText (app.getD {})

end Objects

/-! ### Strings are read back -/

section Strings

variable {text name : List UInt8}

theorem readUnit_control : ∀ byte : UInt8, byte < 32 ∨ byte = 127 →
    readUnit (hexDigit (byte.toNat / 16 / 16 / 16 % 16)) (hexDigit (byte.toNat / 16 / 16 % 16))
      (hexDigit (byte.toNat / 16 % 16)) (hexDigit (byte.toNat % 16)) = some [byte] :=
  forall_byte (by decide +kernel)

theorem jsonEscape_readsAs (byte : UInt8) : ReadsAs (jsonEscape byte) byte := by
  unfold jsonEscape
  split_ifs with quote backslash backspace feed newline carriage tab control
  · exact quote ▸ readsAs_escape (by decide)
  · exact backslash ▸ readsAs_escape (by decide)
  · exact backspace ▸ readsAs_escape (by decide)
  · exact feed ▸ readsAs_escape (by decide)
  · exact newline ▸ readsAs_escape (by decide)
  · exact carriage ▸ readsAs_escape (by decide)
  · exact tab ▸ readsAs_escape (by decide)
  · rw [Bool.or_eq_true, decide_eq_true_eq, decide_eq_true_eq] at control
    exact readsAs_unit (readUnit_control byte control)
  · rw [Bool.or_eq_true, decide_eq_true_eq, decide_eq_true_eq, not_or] at control
    exact readsAs_plain (UInt8.not_lt.mp control.1) quote backslash

/-- What the strings of a line print as it is. -/
theorem jsonEscape_shown {byte : UInt8} (shown : 32 ≤ byte) (quote : byte ≠ 34)
    (backslash : byte ≠ 92) (delete : byte ≠ 127) : jsonEscape byte = [byte] := by
  have above : ∀ control : UInt8, control < 32 → byte ≠ control := by
    rintro control low rfl
    exact absurd shown (UInt8.not_le.mpr low)
  have printed : ¬ (decide (byte < 32) || decide (byte = 127)) = true := by
    rw [Bool.or_eq_true, decide_eq_true_eq, decide_eq_true_eq, not_or]
    exact ⟨UInt8.not_lt.mpr shown, delete⟩
  rw [jsonEscape, if_neg quote, if_neg backslash, if_neg (above 8 (by decide)),
    if_neg (above 12 (by decide)), if_neg (above 10 (by decide)), if_neg (above 13 (by decide)),
    if_neg (above 9 (by decide)), if_neg printed]

theorem jsonEscape_rewrite : AsciiRewrite (fun character => ¬ HighControl character)
    (fun character => ¬ ControlChar character) jsonEscape where
  high := by
    intro byte high
    have other : ∀ low : UInt8, low < 128 → byte ≠ low := by
      rintro low small rfl
      exact absurd high (UInt8.not_le.mpr small)
    exact jsonEscape_shown (UInt8.le_trans (by decide) high) (other 34 (by decide))
      (other 92 (by decide)) (other 127 (by decide))
  low := by
    have escaped : ∀ byte : UInt8, byte < 128 → jsonEscape byte ≠ [] ∧
        (jsonEscape byte).all printableByte = true := forall_byte (by decide +kernel)
    intro byte small
    obtain ⟨someBytes, printable⟩ := escaped byte small
    obtain ⟨first, more, starts⟩ := List.exists_cons_of_ne_nil someBytes
    exact ⟨first, more, starts, fun shown member =>
      printed_ascii shown (List.all_eq_true.mp printable shown member)⟩
  sourceAscii := not_highControl_ascii
  sameHigh := by
    intro character large
    rw [not_iff_not, ControlChar]
    constructor
    · exact fun high => .inr (.inr high)
    · rintro (low | delete | high)
      · omega
      · omega
      · exact high

theorem spells_jsonString (text : List UInt8) :
    Spells (printJsonString text) (.string (cString text)) [cString text] :=
  spells_string (fun byte _ => jsonEscape_readsAs byte) (.quoted jsonEscape_rewrite _)

theorem flatMap_jsonEscape_plain (plain : PlainText text) : text.flatMap jsonEscape = text := by
  have same : ∀ byte, plainByte byte = true → jsonEscape byte = [byte] := by
    intro byte known
    obtain ⟨shown, quote, backslash⟩ := unescaped_of_plain known
    exact jsonEscape_shown shown quote backslash fun delete => absurd (delete ▸ known) (by decide)
  induction text with
  | nil => rfl
  | cons byte text inductionHypothesis =>
      rw [PlainText, List.all_cons, Bool.and_eq_true] at plain
      rw [List.flatMap_cons, same byte plain.1, inductionHypothesis plain.2]
      rfl

theorem spells_plainJsonString (plain : PlainText text) :
    Spells (printJsonString text) (.string text) [] := by
  have nulFree : 0 ∉ text := fun zero => absurd (plainText_iff.mp plain 0 zero) (by decide)
  rw [printJsonString, cString_of_nulFree nulFree, flatMap_jsonEscape_plain plain]
  exact spells_plainString plain

theorem spellsMembers_textField (name : List UInt8) (plain : PlainText name)
    (value : List UInt8) :
    SpellsMembers (printJsonTextField name value) (textMember name value) [cString value] := by
  rw [printJsonTextField, textMember]
  split_ifs with empty
  · have clean : CleanText (cString value) := by
      rw [empty]
      exact utf8Text_nil
    refine ⟨spellsMembers_nil.reads, fun rest => ?_⟩
    rw [List.forall_mem_singleton, and_iff_right clean]
    rfl
  · exact spellsMembers_member plain (spells_jsonString value)

theorem spellsMembers_nonzero (name : List UInt8) {characters : List Char}
    (literal : name = ascii (String.ofList characters)) (plain : PlainLiteral characters)
    (value : Nat) :
    SpellsMembers
      (printJsonNonzero (ascii (String.ofList (',' :: '"' :: (characters ++ ['"', ':'])))) value)
      (nonzeroMember name value) [] := by
  have written := SpellsMembers.ite (value ≠ 0)
    (spellsMembers_literal name literal plain (spells_number value))
  rwa [ite_self] at written

theorem plainText_prefixedHex (digits value : Nat) :
    PlainText (ascii "0x" ++ hexText digits value) := by
  have digit : ∀ byte, lowerHexDigit byte = true → plainByte byte = true :=
    forall_byte (by decide +kernel)
  exact plainText_append (plainText_ascii rfl)
    (plainText_iff.mpr fun byte member => digit byte (lowerHexDigit_of_mem_hexText member))

end Strings

/-! ### The line spells the object -/

section Lines

variable (addressText : IpText → List UInt8)

theorem spellsMembers_http (app : AppInfo) (http : app.protocol = .http) :
    SpellsMembers (printJsonHttp app) (appMembers addressText app)
      ((appTexts addressText app).map cString) := by
  have method := spellsMembers_textField (ascii "method") (plainText_ascii rfl) app.httpMethod
  have host := spellsMembers_textField (ascii "host") (plainText_ascii rfl) app.httpHost
  have path := spellsMembers_textField (ascii "path") (plainText_ascii rfl) app.httpPath
  have version := spellsMembers_textField (ascii "version") (plainText_ascii rfl) app.httpVersion
  have status := spellsMembers_nonzero (ascii "status") rfl rfl app.httpStatusCode.toNat
  have members := (((method.append host).append path).append version).append status
  rw [appMembers, appTexts, http]
  exact members.of_texts (by simp)

theorem spellsMembers_dns (app : AppInfo) :
    SpellsMembers (printJsonDns app) (dnsMembers app) [cString app.dnsQueryName] := by
  have query := spellsMembers_textField (ascii "query") (plainText_ascii rfl) app.dnsQueryName
  have recordType := spellsMembers_nonzero (ascii "type") rfl rfl app.dnsQueryType.toNat
  have recordClass :=
    spellsMembers_nonzero (ascii "class") rfl rfl app.dnsQueryClass.toNat
  have rcode := spellsMembers_literal (ascii "rcode") rfl rfl
    (spells_number app.dnsRcode.toNat)
  exact ((query.append recordType).append recordClass).append rcode

/-- A string of `0x` and digits, printed as one format. -/
theorem spellsMembers_prefixedHex (name : List UInt8) {characters : List Char}
    (literal : name = ascii (String.ofList characters)) (plain : PlainLiteral characters)
    (digits value : Nat) :
    SpellsMembers
      (ascii (String.ofList (',' :: '"' :: (characters ++ ['"', ':', '"', '0', 'x']))) ++
        hexText digits value ++ ascii "\"")
      [(name, .string (ascii "0x" ++ hexText digits value))] [] := by
  have written := spellsMembers_literal name literal plain
    (spells_plainString (plainText_prefixedHex digits value))
  have shape : ascii (String.ofList (',' :: '"' :: (characters ++ ['"', ':', '"', '0', 'x']))) ++
      hexText digits value ++ ascii "\"" =
      ascii (String.ofList (',' :: '"' :: (characters ++ ['"', ':']))) ++
        34 :: (ascii "0x" ++ hexText digits value ++ [34]) := by
    simp only [ascii_ofList, List.map_cons, List.map_append, List.cons_append, List.append_assoc]
    rfl
  rwa [shape]

theorem spellsMembers_tls (app : AppInfo) (tls : app.protocol = .tls) :
    SpellsMembers (printJsonTls app) (appMembers addressText app)
      ((appTexts addressText app).map cString) := by
  have sni := spellsMembers_textField (ascii "sni") (plainText_ascii rfl) app.tlsSni
  have alpn := spellsMembers_textField (ascii "alpn") (plainText_ascii rfl) app.tlsAlpn
  have record := SpellsMembers.ite (app.tlsRecordVersion ≠ 0)
    (spellsMembers_prefixedHex (ascii "record_version") rfl rfl 4
      app.tlsRecordVersion.toNat)
  have client := SpellsMembers.ite (app.tlsClientVersion ≠ 0)
    (spellsMembers_prefixedHex (ascii "client_version") rfl rfl 4
      app.tlsClientVersion.toNat)
  have members := ((sni.append alpn).append record).append client
  rw [appMembers, appTexts, tls]
  exact members.of_texts (by simp)

theorem plainText_messageTypeName (messageType : UInt8) :
    PlainText (outputDhcpMessageTypeName messageType) := by
  unfold outputDhcpMessageTypeName
  split
  case h_9 => rfl
  all_goals exact plainText_ascii rfl

theorem spellsMembers_dhcp (app : AppInfo) (dhcp : app.protocol = .dhcp) :
    SpellsMembers (printJsonDhcp addressText app) (appMembers addressText app)
      ((appTexts addressText app).map cString) := by
  have messageType := spellsMembers_literal (ascii "message_type") rfl rfl
    (spells_plainJsonString (plainText_messageTypeName app.dhcpMessageType))
  have transaction := spellsMembers_prefixedHex (ascii "transaction_id") rfl rfl 8
    app.dhcpTransactionId.toNat
  have clientMac := spellsMembers_textField (ascii "client_mac") (plainText_ascii rfl)
    app.dhcpClientMac
  have clientIp := spellsMembers_textField (ascii "client_ip") (plainText_ascii rfl)
    (addressText app.dhcpClientIp)
  have yourIp := spellsMembers_textField (ascii "your_ip") (plainText_ascii rfl)
    (addressText app.dhcpYourIp)
  have serverIp := spellsMembers_textField (ascii "server_ip") (plainText_ascii rfl)
    (addressText app.dhcpServerIp)
  have requestedIp := spellsMembers_textField (ascii "requested_ip") (plainText_ascii rfl)
    (addressText app.dhcpRequestedIp)
  have members := (((((messageType.append transaction).append clientMac).append clientIp).append
    yourIp).append serverIp).append requestedIp
  rw [appMembers, appTexts, dhcp]
  exact members.of_texts (by simp)

theorem spellsMembers_quic (app : AppInfo) (quic : app.protocol = .quic) :
    SpellsMembers (printJsonQuic app) (appMembers addressText app)
      ((appTexts addressText app).map cString) := by
  have version := spellsMembers_prefixedHex (ascii "version") rfl rfl 8
    app.quicVersion.toNat
  have dcid := spellsMembers_textField (ascii "dcid") (plainText_ascii rfl) app.quicDcid
  have scid := spellsMembers_textField (ascii "scid") (plainText_ascii rfl) app.quicScid
  have members := (version.append dcid).append scid
  rw [appMembers, appTexts, quic]
  exact members.of_texts (by simp)

theorem spellsMembers_app (app : AppInfo) :
    SpellsMembers (printJsonAppFields addressText app) (appMembers addressText app)
      ((appTexts addressText app).map cString) := by
  rw [printJsonAppFields]
  cases known : app.protocol with
  | unknown =>
      rw [appMembers, appTexts, known]
      exact spellsMembers_nil
  | http => exact spellsMembers_http addressText app known
  | dns =>
      rw [appMembers, appTexts, known]
      exact spellsMembers_dns app
  | tls => exact spellsMembers_tls addressText app known
  | dhcp => exact spellsMembers_dhcp addressText app known
  | mdns =>
      rw [appMembers, appTexts, known]
      exact spellsMembers_dns app
  | quic => exact spellsMembers_quic addressText app known

theorem spells_app (app : Option AppInfo) :
    Spells (printJsonApp addressText app) (appJson addressText app)
      ((appTexts addressText (app.getD {})).map cString) := by
  cases app with
  | none => exact spells_null
  | some decoded =>
      rw [printJsonApp, appJson, Option.getD_some]
      split_ifs with unknown
      · rw [appTexts, unknown]
        exact spells_null
      · have protocolPlain : PlainText (appProtocolName decoded.protocol) := by
          cases decoded.protocol <;> exact plainText_ascii rfl
        have object := spells_objectLiteral (ascii "protocol") rfl rfl
          (spells_plainJsonString protocolPlain) (spellsMembers_app addressText decoded)
        exact object

theorem spells_transport (packet : PacketInfo) :
    Spells (printJsonTransport addressText packet) (transportJson addressText packet)
      [cString (addressText packet.srcIp), cString (addressText packet.dstIp)] := by
  have protocolPlain : PlainText (protocolJsonName packet.protocol) := by
    cases packet.protocol <;> exact plainText_ascii rfl
  have source :=
    spellsMembers_textField (ascii "src_ip") (plainText_ascii rfl) (addressText packet.srcIp)
  have srcPort := SpellsMembers.ite (packet.hasPorts = true)
    (spellsMembers_literal (ascii "src_port") rfl rfl
      (spells_number packet.srcPort.toNat))
  have destination :=
    spellsMembers_textField (ascii "dst_ip") (plainText_ascii rfl) (addressText packet.dstIp)
  have dstPort := SpellsMembers.ite (packet.hasPorts = true)
    (spellsMembers_literal (ascii "dst_port") rfl rfl
      (spells_number packet.dstPort.toNat))
  have icmpType := spellsMembers_literal (ascii "icmp_type") rfl rfl
    (spells_number packet.icmpType.toNat)
  have icmpCode := spellsMembers_literal (ascii "icmp_code") rfl rfl
    (spells_number packet.icmpCode.toNat)
  have icmp := SpellsMembers.ite (packet.hasIcmp = true) (icmpType.append icmpCode)
  have members := (((source.append srcPort).append destination).append dstPort).append icmp
  have object := spells_objectLiteral (ascii "protocol") rfl rfl
    (spells_plainJsonString protocolPlain) members
  exact object.of_texts (by simp)

theorem spells_arp (packet : PacketInfo) :
    Spells (printJsonArp addressText packet) (arpJson addressText packet)
      [cString packet.arpSenderMac, cString (addressText packet.srcIp),
        cString packet.arpTargetMac, cString (addressText packet.dstIp)] := by
  have operationPlain : PlainText (arpOperationText packet.arpOperation) := by
    rw [arpOperationText]
    split_ifs <;> exact plainText_ascii rfl
  have senderMac := spellsMembers_literal (ascii "sender_mac") rfl rfl
    (spells_jsonString packet.arpSenderMac)
  have senderIp := spellsMembers_literal (ascii "sender_ip") rfl rfl
    (spells_jsonString (addressText packet.srcIp))
  have targetMac := spellsMembers_literal (ascii "target_mac") rfl rfl
    (spells_jsonString packet.arpTargetMac)
  have targetIp := spellsMembers_literal (ascii "target_ip") rfl rfl
    (spells_jsonString (addressText packet.dstIp))
  have members := ((senderMac.append senderIp).append targetMac).append targetIp
  have object := spells_objectLiteral (ascii "operation") rfl rfl
    (spells_plainJsonString operationPlain) members
  exact object

theorem spells_payloadAscii (preview : List UInt8) :
    Spells (printJsonPayloadAscii preview) (.string (previewText preview)) [] := by
  have escaped : ∀ byte : UInt8,
      (if byte = 34 || byte = 92 then [92, byte]
      else if 32 ≤ byte && byte ≤ 126 then [byte]
      else ascii ".") = jsonEscape (if 32 ≤ byte && byte ≤ 126 then byte else 46) :=
    forall_byte (by decide +kernel)
  have printable : ∀ byte : UInt8, (if 32 ≤ byte && byte ≤ 126 then byte else 46) < 128 :=
    forall_byte (by decide +kernel)
  have clean : CleanText (previewText preview) := by
    refine cleanText_of_ascii fun shown member => ?_
    obtain ⟨byte, -, rfl⟩ := List.mem_map.mp member
    exact printable byte
  have shown := (Shows.quoted jsonEscape_rewrite (previewText preview)).of_clean clean
  have spelled := spells_string (fun byte _ => jsonEscape_readsAs byte) shown
  rw [printJsonPayloadAscii, funext escaped]
  rwa [previewText, List.flatMap_map] at spelled

theorem plainText_payloadHex (preview : List UInt8) : PlainText (payloadHex preview) := by
  have known : ∀ byte : UInt8, lowerHexDigit byte = true ∨ byte = 32 → plainByte byte = true :=
    forall_byte (by decide +kernel)
  exact plainText_iff.mpr fun byte member => known byte (payloadHex_digitOrBlank byte member)

theorem spells_payload (packet : PacketInfo) (payloadLimit : Nat) :
    Spells (printJsonPayload packet payloadLimit) (payloadJson packet payloadLimit) [] := by
  have previewLength := spellsMembers_literal (ascii "preview_length") rfl rfl
    (spells_number payloadLimit)
  have truncated := spellsMembers_literal (ascii "truncated") rfl rfl
    (spells_bool (packet.payloadCaptureLength > payloadLimit))
  have hex := spellsMembers_literal (ascii "hex") rfl rfl
    (spells_plainString (plainText_payloadHex (packet.payloadPreview.take payloadLimit)))
  have shown := spellsMembers_literal (ascii "ascii") rfl rfl
    (spells_payloadAscii (packet.payloadPreview.take payloadLimit))
  have members := ((previewLength.append truncated).append hex).append shown
  have object := spells_objectLiteral (ascii "length") rfl rfl
    (spells_number packet.payloadCaptureLength) members
  exact object

theorem plainText_decodeStatus (status : AppDecodeStatus) :
    PlainText (appDecodeStatusToString status) := by
  cases status <;> exact plainText_ascii rfl

theorem plainText_appSource (app : Option AppInfo) (appSource : Option (List UInt8)) :
    PlainText (normalizedAppSource app appSource) := by
  rcases normalizedAppSource_cases app appSource with known | known | known <;> rw [known] <;>
    exact plainText_ascii rfl

variable (packet : StampedPacket) (app : Option AppInfo) (appSource : Option (List UInt8))
  (payloadEnabled : Bool) (payloadPreviewLimit : Nat)

/-- A line before its newline is the object, and shows the packet's texts. -/
theorem spells_packet :
    ∃ body, outputPrintPacketJson addressText packet app appSource payloadEnabled
        payloadPreviewLimit = body ++ [10] ∧
      Spells body (packetJson addressText packet app appSource payloadEnabled payloadPreviewLimit)
        ((jsonTexts addressText packet app).map cString) := by
  have number := spellsMembers_literal (ascii "packet_number") rfl rfl
    (spells_number packet.packetNumber.toNat)
  have transport := spellsMembers_literal (ascii "transport") rfl rfl
    (spells_transport addressText packet.toPacketInfo)
  have length := spellsMembers_literal (ascii "packet_length") rfl rfl
    (spells_number packet.size)
  have arp := SpellsMembers.ite (packet.hasArp = true)
    (spellsMembers_literal (ascii "arp") rfl rfl
      (spells_arp addressText packet.toPacketInfo))
  have payload := SpellsMembers.ite ((payloadEnabled && packet.hasPayload) = true)
    (spellsMembers_literal (ascii "payload") rfl rfl
      (spells_payload packet.toPacketInfo (min packet.payloadPreview.length payloadPreviewLimit)))
  have appMember := spellsMembers_literal (ascii "app") rfl rfl
    (spells_app addressText app)
  have status := spellsMembers_literal (ascii "app_decode_status") rfl rfl
    (spells_plainJsonString (plainText_decodeStatus packet.appDecodeStatus))
  have source := spellsMembers_literal (ascii "app_source") rfl rfl
    (spells_plainJsonString (plainText_appSource app appSource))
  have members := ((((((number.append transport).append length).append arp).append payload).append
    appMember).append status).append source
  have object := spells_objectLiteral (ascii "timestamp") rfl rfl
    (spells_jsonString packet.timestamp) members
  refine ⟨_, rfl, object.of_texts fun text => ?_⟩
  -- The addresses of an ARP packet are shown twice.
  clear number transport length arp payload appMember status source members object
  rw [jsonTexts]
  cases packet.hasArp with
  | false => simp
  | true =>
      simp
      tauto

end Lines

/-- One line of clean UTF-8, ended by its only newline, that is read as the value. -/
def JsonLine (line : List UInt8) (value : Json) : Prop :=
  ∃ body, line = body ++ [10] ∧ 10 ∉ body ∧ PrintedText body ∧ readJson body = some value

/-- A line is one valid JSON text without control characters, and stands for the packet's object,
exactly when every text that it prints is UTF-8 without C1 controls. -/
theorem json_line_exact (addressText : IpText → List UInt8) (packet : StampedPacket)
    (app : Option AppInfo) (appSource : Option (List UInt8)) (payloadEnabled : Bool)
    (payloadPreviewLimit : Nat) :
    JsonLine (outputPrintPacketJson addressText packet app appSource payloadEnabled
        payloadPreviewLimit)
      (packetJson addressText packet app appSource payloadEnabled payloadPreviewLimit) ↔
      ∀ text ∈ jsonTexts addressText packet app, CleanText (cString text) := by
  obtain ⟨body, line, spelled⟩ :=
    spells_packet addressText packet app appSource payloadEnabled payloadPreviewLimit
  have clean : PrintedText body ↔ ∀ text ∈ jsonTexts addressText packet app,
      CleanText (cString text) := spelled.printed_iff.trans List.forall_mem_map
  constructor
  · rintro ⟨other, same, -, printed, -⟩
    rw [line] at same
    obtain rfl := List.append_cancel_right same
    exact clean.mp printed
  · intro cleanTexts
    have printed := clean.mpr cleanTexts
    exact ⟨body, line, printed.oneLine, printed, spelled.readJson⟩

def rawPathRequest : List UInt8 := ascii "GET /" ++ [0x9b] ++ ascii " HTTP/1.1\r\nHost: a\r\n\r\n"

def rawPathPacket : StampedPacket :=
  { srcIp := .ipv4 [192, 0, 2, 1], dstIp := .ipv4 [198, 51, 100, 7], srcPort := 50000, dstPort := 80
    hasPorts := true, size := 86, packetNumber := 1, timestamp := ascii "12:00:00.000000" }

/-- A path with a C1 control byte makes a line that is no JSON text. -/
theorem raw_path_breaks_line :
    (appHttpDecode rawPathRequest).2.httpPath = [47, 0x9b] ∧
      ¬ ∃ value, JsonLine (outputPrintPacketJson dottedDecimal rawPathPacket
        (some (appHttpDecode rawPathRequest).2) (some (ascii "packet")) false 64) value := by
  have path : (appHttpDecode rawPathRequest).2.httpPath = [47, 0x9b] := by decide +kernel
  have http : (appHttpDecode rawPathRequest).2.protocol = .http := by decide +kernel
  refine ⟨path, ?_⟩
  rintro ⟨value, body, line, -, printed, -⟩
  obtain ⟨other, same, spelled⟩ := spells_packet dottedDecimal rawPathPacket
    (some (appHttpDecode rawPathRequest).2) (some (ascii "packet")) false 64
  rw [line] at same
  obtain rfl := List.append_cancel_right same
  have shown : cString [47, 0x9b] ∈ (jsonTexts dottedDecimal rawPathPacket
      (some (appHttpDecode rawPathRequest).2)).map cString := by
    refine List.mem_map_of_mem ?_
    rw [jsonTexts, Option.getD_some, appTexts, http, ← path]
    simp
  have clean : CleanText [47, 0x9b] := spelled.printed_iff.mp printed _ shown
  exact not_utf8Text_singleton (by decide) ((utf8Text_cons (by decide)).mp clean).2

end MiniSniffer
