import MiniSniffer.Output.Printing

/-!
Contract: packets as JSON lines (`output_print_packet_json` in `src/output.c`).

Owns the bytes of a line, written in the source's order.

Does not own the readable output. Address texts are a parameter, printed by `inet_ntop`.
-/

namespace MiniSniffer

open Foundation

/-! ### Strings -/

def jsonEscape (byte : UInt8) : List UInt8 :=
  if byte = 34 then ascii "\\\""
  else if byte = 92 then ascii "\\\\"
  else if byte = 8 then ascii "\\b"
  else if byte = 12 then ascii "\\f"
  else if byte = 10 then ascii "\\n"
  else if byte = 13 then ascii "\\r"
  else if byte = 9 then ascii "\\t"
  else if byte < 32 || byte = 127 then ascii "\\u" ++ hexText 4 byte.toNat
  else [byte]

def printJsonString (text : List UInt8) : List UInt8 :=
  ascii "\"" ++ (cString text).flatMap jsonEscape ++ ascii "\""

/-- Nothing for an empty text. -/
def printJsonTextField (name value : List UInt8) : List UInt8 :=
  if cString value = [] then [] else ascii ",\"" ++ name ++ ascii "\":" ++ printJsonString value

def printJsonPayloadAscii (preview : List UInt8) : List UInt8 :=
  ascii "\"" ++
    (preview.flatMap fun byte =>
      if byte = 34 || byte = 92 then [92, byte]
      else if 32 ≤ byte && byte ≤ 126 then [byte]
      else ascii ".") ++
    ascii "\""

def printJsonPayloadHex (preview : List UInt8) : List UInt8 :=
  ascii "\"" ++ payloadHex preview ++ ascii "\""

/-! ### Application metadata -/

def appProtocolName : AppProtocol → List UInt8 := appProtocolText (ascii "unknown")

/-- `dhcp_message_type_name` of this file; empty for its null pointer. -/
def outputDhcpMessageTypeName (messageType : UInt8) : List UInt8 :=
  match messageType with
  | 1 => ascii "discover"
  | 2 => ascii "offer"
  | 3 => ascii "request"
  | 4 => ascii "decline"
  | 5 => ascii "ack"
  | 6 => ascii "nak"
  | 7 => ascii "release"
  | 8 => ascii "inform"
  | _ => []

/-- A member that is left out when the number is zero. -/
def printJsonNonzero (lead : List UInt8) (value : Nat) : List UInt8 :=
  if value ≠ 0 then lead ++ decimalText value else []

def printJsonHttp (app : AppInfo) : List UInt8 :=
  printJsonTextField (ascii "method") app.httpMethod ++
    printJsonTextField (ascii "host") app.httpHost ++
    printJsonTextField (ascii "path") app.httpPath ++
    printJsonTextField (ascii "version") app.httpVersion ++
    printJsonNonzero (ascii ",\"status\":") app.httpStatusCode.toNat

/-- Written once for DNS and once for multicast DNS in the source. -/
def printJsonDns (app : AppInfo) : List UInt8 :=
  printJsonTextField (ascii "query") app.dnsQueryName ++
    printJsonNonzero (ascii ",\"type\":") app.dnsQueryType.toNat ++
    printJsonNonzero (ascii ",\"class\":") app.dnsQueryClass.toNat ++
    (ascii ",\"rcode\":" ++ decimalText app.dnsRcode.toNat)

def printJsonTls (app : AppInfo) : List UInt8 :=
  printJsonTextField (ascii "sni") app.tlsSni ++
    printJsonTextField (ascii "alpn") app.tlsAlpn ++
    (if app.tlsRecordVersion ≠ 0 then
      ascii ",\"record_version\":\"0x" ++ hexText 4 app.tlsRecordVersion.toNat ++ ascii "\""
    else []) ++
    (if app.tlsClientVersion ≠ 0 then
      ascii ",\"client_version\":\"0x" ++ hexText 4 app.tlsClientVersion.toNat ++ ascii "\""
    else [])

section Printing

variable (addressText : IpText → List UInt8)

def printJsonDhcp (app : AppInfo) : List UInt8 :=
  (ascii ",\"message_type\":" ++ printJsonString (outputDhcpMessageTypeName app.dhcpMessageType)) ++
    (ascii ",\"transaction_id\":\"0x" ++ hexText 8 app.dhcpTransactionId.toNat ++ ascii "\"") ++
    printJsonTextField (ascii "client_mac") app.dhcpClientMac ++
    printJsonTextField (ascii "client_ip") (addressText app.dhcpClientIp) ++
    printJsonTextField (ascii "your_ip") (addressText app.dhcpYourIp) ++
    printJsonTextField (ascii "server_ip") (addressText app.dhcpServerIp) ++
    printJsonTextField (ascii "requested_ip") (addressText app.dhcpRequestedIp)

def printJsonQuic (app : AppInfo) : List UInt8 :=
  (ascii ",\"version\":\"0x" ++ hexText 8 app.quicVersion.toNat ++ ascii "\"") ++
    printJsonTextField (ascii "dcid") app.quicDcid ++
    printJsonTextField (ascii "scid") app.quicScid

def printJsonAppFields (app : AppInfo) : List UInt8 :=
  match app.protocol with
  | .unknown => []
  | .http => printJsonHttp app
  | .dns => printJsonDns app
  | .tls => printJsonTls app
  | .mdns => printJsonDns app
  | .dhcp => printJsonDhcp addressText app
  | .quic => printJsonQuic app

def printJsonApp (app : Option AppInfo) : List UInt8 :=
  match app with
  | none => ascii "null"
  | some decoded =>
      if decoded.protocol = .unknown then ascii "null"
      else
        ascii "\x7b\"protocol\":" ++ printJsonString (appProtocolName decoded.protocol) ++
          printJsonAppFields addressText decoded ++ ascii "\x7d"

/-! ### Lines -/

def protocolJsonName : Protocol → List UInt8
  | .tcp => ascii "tcp"
  | .udp => ascii "udp"
  | .icmp => ascii "icmp"
  | .arp => ascii "arp"
  | .other => ascii "other"

def appDecodeStatusToString : AppDecodeStatus → List UInt8
  | .notRun => ascii "not_run"
  | .noMatch => ascii "no_match"
  | .needMore => ascii "need_more"
  | .malformed => ascii "malformed"
  | .truncated => ascii "truncated"
  | .decoded => ascii "decoded"

/-- The `transport` object; the guarded address members are text fields. -/
def printJsonTransport (packet : PacketInfo) : List UInt8 :=
  ascii "\x7b\"protocol\":" ++ printJsonString (protocolJsonName packet.protocol) ++
    (printJsonTextField (ascii "src_ip") (addressText packet.srcIp) ++
      (if packet.hasPorts then ascii ",\"src_port\":" ++ decimalText packet.srcPort.toNat
      else []) ++
      printJsonTextField (ascii "dst_ip") (addressText packet.dstIp) ++
      (if packet.hasPorts then ascii ",\"dst_port\":" ++ decimalText packet.dstPort.toNat
      else []) ++
      (if packet.hasIcmp then
        (ascii ",\"icmp_type\":" ++ decimalText packet.icmpType.toNat) ++
          (ascii ",\"icmp_code\":" ++ decimalText packet.icmpCode.toNat)
      else [])) ++ ascii "\x7d"

def printJsonArp (packet : PacketInfo) : List UInt8 :=
  ascii "\x7b\"operation\":" ++ printJsonString (arpOperationText packet.arpOperation) ++
    ((ascii ",\"sender_mac\":" ++ printJsonString packet.arpSenderMac) ++
      (ascii ",\"sender_ip\":" ++ printJsonString (addressText packet.srcIp)) ++
      (ascii ",\"target_mac\":" ++ printJsonString packet.arpTargetMac) ++
      (ascii ",\"target_ip\":" ++ printJsonString (addressText packet.dstIp))) ++ ascii "\x7d"

/-- The `payload` object with a preview of `payloadLimit` bytes. -/
def printJsonPayload (packet : PacketInfo) (payloadLimit : Nat) : List UInt8 :=
  ascii "\x7b\"length\":" ++ decimalText packet.payloadCaptureLength ++
    ((ascii ",\"preview_length\":" ++ decimalText payloadLimit) ++
      (ascii ",\"truncated\":" ++
        if packet.payloadCaptureLength > payloadLimit then ascii "true" else ascii "false") ++
      (ascii ",\"hex\":" ++ printJsonPayloadHex (packet.payloadPreview.take payloadLimit)) ++
      (ascii ",\"ascii\":" ++ printJsonPayloadAscii (packet.payloadPreview.take payloadLimit))) ++
    ascii "\x7d"

def outputPrintPacketJson (packet : StampedPacket) (app : Option AppInfo)
    (appSource : Option (List UInt8)) (payloadEnabled : Bool) (payloadPreviewLimit : Nat) :
    List UInt8 :=
  let payloadLimit := min packet.payloadPreview.length payloadPreviewLimit
  ascii "\x7b\"timestamp\":" ++ printJsonString packet.timestamp ++
    ((ascii ",\"packet_number\":" ++ decimalText packet.packetNumber.toNat) ++
      (ascii ",\"transport\":" ++ printJsonTransport addressText packet.toPacketInfo) ++
      (ascii ",\"packet_length\":" ++ decimalText packet.size) ++
      (if packet.hasArp then ascii ",\"arp\":" ++ printJsonArp addressText packet.toPacketInfo
      else []) ++
      (if payloadEnabled && packet.hasPayload then
        ascii ",\"payload\":" ++ printJsonPayload packet.toPacketInfo payloadLimit
      else []) ++
      (ascii ",\"app\":" ++ printJsonApp addressText app) ++
      (ascii ",\"app_decode_status\":" ++
        printJsonString (appDecodeStatusToString packet.appDecodeStatus)) ++
      (ascii ",\"app_source\":" ++ printJsonString (normalizedAppSource app appSource))) ++
    ascii "\x7d" ++ ascii "\n"

end Printing

end MiniSniffer
