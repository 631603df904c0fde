import MiniSniffer.Output.Printing

/-!
Contract: the CSV log (`src/csv_logger.c`).

Owns the schema fixed at open time, the header and the row of each schema, byte by byte.

Does not own the file: opening, flushing and write errors are left out. Address texts are a
parameter, printed by `inet_ntop`.
-/

namespace MiniSniffer

open Foundation

/-! ### Text cells -/

def csvFormulaStart (byte : UInt8) : Bool := byte = 61 || byte = 43 || byte = 45 || byte = 64

def csvTextNeedsFormulaPrefix (text : List UInt8) : Bool :=
  (text.dropWhile (· = 32)).head?.any csvFormulaStart

def csvPrintable (byte : UInt8) : Bool := 32 ≤ byte && byte ≤ 126

/-- The loop of both text writers: `substitute` shows a byte that is not printable. -/
def writeQuotedBytes (substitute : UInt8 → List UInt8) (text : List UInt8) : List UInt8 :=
  (if csvTextNeedsFormulaPrefix text then [39] else []) ++
    text.flatMap fun byte =>
      (if byte = 34 then [34] else []) ++ (if csvPrintable byte then [byte] else substitute byte)

def writeCsvText (text : List UInt8) : List UInt8 :=
  ascii "\"" ++
    writeQuotedBytes (fun byte => ascii "\\x" ++ hexText 2 byte.toNat) (cString text) ++ ascii "\""

/-! ### Logger -/

structure CsvLogger where
  appColumnsEnabled : Bool
  payloadColumnsEnabled : Bool
  payloadLoggingLimit : Nat
deriving DecidableEq, Repr

def csvLoggerOpen (enableAppColumns enablePayloadColumns : Bool) (payloadPreviewLimit : Nat) :
    CsvLogger :=
  { appColumnsEnabled := enableAppColumns
    payloadColumnsEnabled := enablePayloadColumns
    payloadLoggingLimit := min payloadPreviewLimit minisnifferMaxPayloadPreviewBytes }

def writeHeader (logger : CsvLogger) : List UInt8 :=
  if logger.appColumnsEnabled then
    ascii "timestamp,src_ip,src_port,dst_ip,dst_port,transport_protocol,packet_length,app_" ++
      ascii "protocol,http_method,http_host,http_path,http_status,dns_query,dns_type,dns_class," ++
      ascii "dns_rcode,tls_sni,tls_alpn,tls_record_version,tls_client_version,app_source,dhcp_" ++
      ascii "message_type,dhcp_transaction_id,dhcp_client_mac,dhcp_client_ip,dhcp_your_ip,dhcp_" ++
      ascii "server_ip,dhcp_requested_ip,quic_version,quic_dcid,quic_scid,arp_operation,arp_" ++
      ascii "sender_mac,arp_target_mac\n"
  else if logger.payloadColumnsEnabled then
    ascii "packet_number,protocol,src_ip,src_port,dst_ip,dst_port,size,payload_" ++
      ascii "length,payload_hex,payload_ascii\n"
  else ascii "packet_number,protocol,src_ip,src_port,dst_ip,dst_port,size\n"

/-! ### Payload cells -/

/-- The preview bytes that a payload cell shows. -/
def loggedPreview (logger : CsvLogger) (packet : PacketInfo) : List UInt8 :=
  if packet.hasPayload then packet.payloadPreview.take logger.payloadLoggingLimit else []

def writePayloadHex (logger : CsvLogger) (packet : PacketInfo) : List UInt8 :=
  payloadHex (loggedPreview logger packet)

def writePayloadAscii (logger : CsvLogger) (packet : PacketInfo) : List UInt8 :=
  writeQuotedBytes (fun _ => ascii ".") (loggedPreview logger packet)

/-! ### Rows -/

section Rows

variable (addressText : IpText → List UInt8)

def writeLegacyPacket (logger : CsvLogger) (packet : StampedPacket) : List UInt8 :=
  if logger.payloadColumnsEnabled then
    decimalText packet.packetNumber.toNat ++ ascii "," ++ protocolToString packet.protocol ++
      ascii "," ++ addressText packet.srcIp ++ ascii "," ++
      (if packet.hasPorts then
        decimalText packet.srcPort.toNat ++ ascii "," ++ addressText packet.dstIp ++ ascii "," ++
          decimalText packet.dstPort.toNat ++ ascii ","
      else ascii "," ++ addressText packet.dstIp ++ ascii ",,") ++
      decimalText packet.size ++ ascii "," ++ decimalText packet.payloadCaptureLength ++
      ascii ",\"" ++ writePayloadHex logger packet.toPacketInfo ++ ascii "\",\"" ++
      writePayloadAscii logger packet.toPacketInfo ++ ascii "\"\n"
  else if packet.hasPorts then
    decimalText packet.packetNumber.toNat ++ ascii "," ++ protocolToString packet.protocol ++
      ascii "," ++ addressText packet.srcIp ++ ascii "," ++ decimalText packet.srcPort.toNat ++
      ascii "," ++ addressText packet.dstIp ++ ascii "," ++ decimalText packet.dstPort.toNat ++
      ascii "," ++ decimalText packet.size ++ ascii "\n"
  else
    decimalText packet.packetNumber.toNat ++ ascii "," ++ protocolToString packet.protocol ++
      ascii "," ++ addressText packet.srcIp ++ ascii ",," ++ addressText packet.dstIp ++
      ascii ",," ++ decimalText packet.size ++ ascii "\n"

def writeOptionalPort (packet : PacketInfo) (port : UInt16) : List UInt8 :=
  if packet.hasPorts then decimalText port.toNat else []

def writeHexVersion (version : UInt16) : List UInt8 :=
  if version ≠ 0 then ascii "0x" ++ hexText 4 version.toNat else []

/-- A number that stands for a missing value when it is zero. -/
def writeNonzero (value : Nat) : List UInt8 := if value ≠ 0 then decimalText value else []

def appProtocolToString : AppProtocol → List UInt8 := appProtocolText []

def writeAppPacket (packet : StampedPacket) (app : Option AppInfo)
    (appSource : Option (List UInt8)) : List UInt8 :=
  let rowApp := app.getD {}
  writeCsvText packet.timestamp ++ ascii "," ++
    writeCsvText (addressText packet.srcIp) ++ ascii "," ++
    writeOptionalPort packet.toPacketInfo packet.srcPort ++ ascii "," ++
    writeCsvText (addressText packet.dstIp) ++ ascii "," ++
    writeOptionalPort packet.toPacketInfo packet.dstPort ++
    ascii "," ++ protocolToString packet.protocol ++ ascii "," ++ decimalText packet.size ++
    ascii "," ++ appProtocolToString rowApp.protocol ++ ascii "," ++
    writeCsvText rowApp.httpMethod ++ ascii "," ++
    writeCsvText rowApp.httpHost ++ ascii "," ++
    writeCsvText rowApp.httpPath ++ ascii "," ++
    writeNonzero rowApp.httpStatusCode.toNat ++ ascii "," ++
    writeCsvText rowApp.dnsQueryName ++ ascii "," ++
    writeNonzero rowApp.dnsQueryType.toNat ++ ascii "," ++
    writeNonzero rowApp.dnsQueryClass.toNat ++ ascii "," ++
    decimalText rowApp.dnsRcode.toNat ++ ascii "," ++
    writeCsvText rowApp.tlsSni ++ ascii "," ++
    writeCsvText rowApp.tlsAlpn ++ ascii "," ++
    writeHexVersion rowApp.tlsRecordVersion ++ ascii "," ++
    writeHexVersion rowApp.tlsClientVersion ++ ascii "," ++
    writeCsvText (normalizedAppSource app appSource) ++ ascii "," ++
    writeNonzero rowApp.dhcpMessageType.toNat ++ ascii "," ++
    (if rowApp.protocol = .dhcp then ascii "0x" ++ hexText 8 rowApp.dhcpTransactionId.toNat
      else []) ++ ascii "," ++
    writeCsvText rowApp.dhcpClientMac ++ ascii "," ++
    writeCsvText (addressText rowApp.dhcpClientIp) ++ ascii "," ++
    writeCsvText (addressText rowApp.dhcpYourIp) ++ ascii "," ++
    writeCsvText (addressText rowApp.dhcpServerIp) ++ ascii "," ++
    writeCsvText (addressText rowApp.dhcpRequestedIp) ++ ascii "," ++
    (if rowApp.protocol = .quic then ascii "0x" ++ hexText 8 rowApp.quicVersion.toNat
      else []) ++ ascii "," ++
    writeCsvText rowApp.quicDcid ++ ascii "," ++
    writeCsvText rowApp.quicScid ++ ascii "," ++
    (if packet.hasArp then arpOperationText packet.arpOperation else []) ++ ascii "," ++
    writeCsvText packet.arpSenderMac ++ ascii "," ++
    writeCsvText packet.arpTargetMac ++ ascii "\n"

def csvLoggerWritePacket (logger : CsvLogger) (packet : StampedPacket) (app : Option AppInfo)
    (appSource : Option (List UInt8)) : List UInt8 :=
  if logger.appColumnsEnabled then writeAppPacket addressText packet app appSource
  else writeLegacyPacket addressText logger packet

end Rows

end MiniSniffer
