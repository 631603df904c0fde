import MiniSniffer.Flow.Table
import MiniSniffer.Foundation.TextLines
import MiniSniffer.Output.EscapedText
import MiniSniffer.Output.JsonLine

/-!
Contract: the readable output of packets and flows (`src/common.c`, `src/output.c`).

Owns the packet line, the payload preview, the application lines of a packet and the announcement of
a flow, byte by byte.

Does not own when each is printed. Address texts are a parameter, printed by `inet_ntop`.
-/

namespace MiniSniffer

open Foundation

/-! ### Packets -/

def packetProtocolDisplay (info : PacketInfo) : List UInt8 :=
  if info.protocol = .icmp && info.ipVersion = 6 then ascii "ICMPv6"
  else protocolToString info.protocol

/-- A text with a colon in it is an IPv6 address. -/
def printEndpointWithPort (ip : List UInt8) (port : UInt16) : List UInt8 :=
  if 58 ∈ ip then ascii "[" ++ ip ++ ascii "]:" ++ decimalText port.toNat
  else ip ++ ascii ":" ++ decimalText port.toNat

section Packets

variable (addressText : IpText → List UInt8)

/-- The packet line without its newline. -/
def packetInfoLine (info : StampedPacket) : List UInt8 :=
  let srcIp := cString (addressText info.srcIp)
  let dstIp := cString (addressText info.dstIp)
  let lead :=
    ascii "[" ++ paddedDecimal 3 info.packetNumber.toNat ++ ascii "] " ++
      padRight 6 (packetProtocolDisplay info.toPacketInfo) ++ ascii " "
  if srcIp ≠ [] && dstIp ≠ [] then
    if info.hasPorts then
      lead ++ printEndpointWithPort srcIp info.srcPort ++ ascii " -> " ++
        printEndpointWithPort dstIp info.dstPort ++ ascii " size=" ++ decimalText info.size
    else
      lead ++ srcIp ++ ascii " -> " ++ dstIp ++ ascii " size=" ++ decimalText info.size ++
        (if info.hasIcmp then
          ascii " type=" ++ decimalText info.icmpType.toNat ++ ascii " code=" ++
            decimalText info.icmpCode.toNat
        else []) ++
        (if info.hasArp then
          ascii " op=" ++ arpOperationText info.arpOperation ++ ascii " sender_mac=" ++
            cString info.arpSenderMac ++ ascii " target_mac=" ++ cString info.arpTargetMac
        else [])
  else lead ++ ascii "size=" ++ decimalText info.size

def packetInfoPrint (info : StampedPacket) : List UInt8 :=
  packetInfoLine addressText info ++ ascii "\n"

end Packets

def packetInfoPrintPayload (info : PacketInfo) (previewLimit : Nat) : List UInt8 :=
  if !info.hasPayload then []
  else
    let limit := min info.payloadPreview.length previewLimit
    let preview := info.payloadPreview.take limit
    ascii "      payload length=" ++ decimalText info.payloadCaptureLength ++
      ascii " preview=" ++ decimalText limit ++
      (if info.payloadCaptureLength > limit then
        ascii "/" ++ decimalText info.payloadCaptureLength
      else []) ++ ascii "\n" ++
      (ascii "      hex: " ++ payloadHex preview ++ ascii "\n") ++
      (ascii "      ascii: " ++
        (preview.map fun value => if isPrint value then value else 46) ++ ascii "\n")

/-! ### Application metadata -/

/-- `dns_type_name`; empty for its null pointer. -/
def dnsTypeName (type : UInt16) : List UInt8 :=
  match type with
  | 1 => ascii "A"
  | 2 => ascii "NS"
  | 5 => ascii "CNAME"
  | 28 => ascii "AAAA"
  | _ => []

/-- A named number, or the number where it has no name. -/
def printNamed (name : List UInt8) (value : Nat) : List UInt8 :=
  if name ≠ [] then name else decimalText value

def printDnsType (type : UInt16) : List UInt8 := printNamed (dnsTypeName type) type.toNat

def printDhcpMessageType (type : UInt8) : List UInt8 :=
  printNamed (outputDhcpMessageTypeName type) type.toNat

/-- Nothing for an empty text. -/
def printTextField (name value : List UInt8) : List UInt8 :=
  if cString value = [] then [] else ascii " " ++ name ++ ascii "=" ++ printEscapedText value

/-- The fields of an HTTP message; the writers differ in what they call its status. -/
def printHttpFields (statusName : List UInt8) (app : AppInfo) : List UInt8 :=
  printTextField (ascii "method") app.httpMethod ++
    (if app.httpStatusCode ≠ 0 then
      ascii " " ++ statusName ++ ascii "=" ++ decimalText app.httpStatusCode.toNat
    else []) ++
    printTextField (ascii "host") app.httpHost ++
    printTextField (ascii "path") app.httpPath

/-- Shared by DNS and multicast DNS. -/
def printDnsFields (app : AppInfo) : List UInt8 :=
  printTextField (ascii "query") app.dnsQueryName ++
    (if app.dnsQueryType ≠ 0 then ascii " type=" ++ printDnsType app.dnsQueryType else [])

def printTlsFields (app : AppInfo) : List UInt8 :=
  printTextField (ascii "sni") app.tlsSni ++ printTextField (ascii "alpn") app.tlsAlpn

section Application

variable (addressText : IpText → List UInt8)

def printDhcpFields (app : AppInfo) : List UInt8 :=
  ascii " type=" ++ printDhcpMessageType app.dhcpMessageType ++
    printTextField (ascii "client_mac") app.dhcpClientMac ++
    printTextField (ascii "requested_ip") (addressText app.dhcpRequestedIp)

def printQuicFields (app : AppInfo) : List UInt8 :=
  ascii " version=0x" ++ hexText 8 app.quicVersion.toNat ++
    printTextField (ascii "dcid") app.quicDcid ++ printTextField (ascii "scid") app.quicScid

/-- The name of a protocol and its fields, as the two packet writers spell them. -/
def printProtocolFields (statusName : List UInt8) (app : AppInfo) : List UInt8 :=
  appProtocolName app.protocol ++
    match app.protocol with
    | .unknown => []
    | .http => printHttpFields statusName app
    | .dns => printDnsFields app
    | .tls => printTlsFields app
    | .mdns => printDnsFields app
    | .dhcp => printDhcpFields addressText app
    | .quic => printQuicFields app

def printAppWithPrefix (app : Option AppInfo) (leadText : List UInt8) : List UInt8 :=
  match app with
  | none => []
  | some decoded =>
      if decoded.protocol = .unknown then []
      else leadText ++ printProtocolFields addressText (ascii "status") decoded ++ ascii "\n"

def outputPrintPacketApp (app : Option AppInfo) : List UInt8 :=
  printAppWithPrefix addressText app (ascii "      app: ")

def outputPrintPacketAppStatus (status : AppDecodeStatus) (app : Option AppInfo) : List UInt8 :=
  ascii "      app: status=" ++ appDecodeStatusToString status ++
    (match app with
    | none => []
    | some decoded =>
        if decoded.protocol = .unknown then []
        else
          ascii " protocol=" ++ printProtocolFields addressText (ascii "status_code") decoded) ++
    ascii "\n"

/-! ### Flows -/

def transportName (transportProtocol : UInt8) : List UInt8 :=
  if transportProtocol = 6 then ascii "tcp"
  else if transportProtocol = 17 then ascii "udp"
  else ascii "other"

/-- `inet_ntop` on the bytes of an address's family. -/
def printFlowEndpoint (address : IPAddress) (port : UInt16) : List UInt8 :=
  if address.family = afInet6 then
    ascii "[" ++ cString (addressText (.ipv6 address.bytes)) ++ ascii "]:" ++
      decimalText port.toNat
  else if address.family = afInet then
    cString (addressText (.ipv4 (address.bytes.take 4))) ++ ascii ":" ++ decimalText port.toNat
  else ascii "unknown:" ++ decimalText port.toNat

/-- Multicast DNS, DHCP and QUIC have no fields here. -/
def printFlowAppFields (app : AppInfo) : List UInt8 :=
  if app.protocol = .unknown then []
  else
    ascii " app=" ++ appProtocolName app.protocol ++
      match app.protocol with
      | .http => printHttpFields (ascii "status") app
      | .dns => printDnsFields app
      | .tls => printTlsFields app
      | _ => []

def outputPrintFlowAppEvent (flow : FlowInfo) : List UInt8 :=
  if flow.app.protocol = .unknown then []
  else
    ascii "flow " ++ transportName flow.key.transportProtocol ++ ascii " " ++
      printFlowEndpoint addressText flow.key.aIp flow.key.aPort ++ ascii " <-> " ++
      printFlowEndpoint addressText flow.key.bIp flow.key.bPort ++
      printFlowAppFields flow.app ++ ascii "\n"

end Application

end MiniSniffer
