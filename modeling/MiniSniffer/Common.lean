import MiniSniffer.Foundation.ByteOrder

/-!
Contract: the shared data of the pipeline (`include/common.h`).

Owns packets after parsing, decoded application metadata and the traffic
counters. Text arrays are the bytes written to them, without the terminator; an
address text is the address that `inet_ntop` printed, or nothing. Pointers into
the captured bytes are views: an offset and the bytes seen from there, so a
view's length is that of its bytes.

Left out: the packet number and the time text, which only printing reads.
-/

namespace MiniSniffer

open Foundation

/-! ### Protocols -/

inductive Protocol where
  | tcp
  | udp
  | icmp
  | arp
  | other
deriving DecidableEq, Repr

inductive AppProtocol where
  | unknown
  | http
  | dns
  | tls
  | dhcp
  | mdns
  | quic
deriving DecidableEq, Repr

inductive AppDecodeStatus where
  | notRun
  | noMatch
  | needMore
  | malformed
  | truncated
  | decoded
deriving DecidableEq, Repr

/-- The content of an address text array. -/
inductive IpText where
  | empty
  | ipv4 (bytes : List UInt8)
  | ipv6 (bytes : List UInt8)
deriving DecidableEq, Repr

/-! ### Application metadata -/

def minisnifferAppTextLen : Nat := 256

def minisnifferAppSummaryLen : Nat := 128

def minisnifferTlsAlpnLen : Nat := 256

def minisnifferQuicCidMaxBytes : Nat := 20

def minisnifferQuicCidTextLen : Nat := 41

/-- The default of every field is its value in a cleared `AppInfo`. -/
structure AppInfo where
  protocol : AppProtocol := .unknown
  summary : List UInt8 := []
  httpMethod : List UInt8 := []
  httpPath : List UInt8 := []
  httpVersion : List UInt8 := []
  httpHost : List UInt8 := []
  httpUserAgent : List UInt8 := []
  httpStatusCode : UInt16 := 0
  httpReason : List UInt8 := []
  httpContentType : List UInt8 := []
  dnsTransactionId : UInt16 := 0
  dnsIsResponse : Bool := false
  dnsOpcode : UInt8 := 0
  dnsRcode : UInt8 := 0
  dnsQuestionCount : UInt16 := 0
  dnsQueryName : List UInt8 := []
  dnsQueryType : UInt16 := 0
  dnsQueryClass : UInt16 := 0
  tlsRecordVersion : UInt16 := 0
  tlsHandshakeType : UInt8 := 0
  tlsClientVersion : UInt16 := 0
  tlsSni : List UInt8 := []
  tlsAlpn : List UInt8 := []
  dhcpMessageType : UInt8 := 0
  dhcpTransactionId : UInt32 := 0
  dhcpClientMac : List UInt8 := []
  dhcpClientIp : IpText := .empty
  dhcpYourIp : IpText := .empty
  dhcpServerIp : IpText := .empty
  dhcpRequestedIp : IpText := .empty
  quicVersion : UInt32 := 0
  quicDcid : List UInt8 := []
  quicScid : List UInt8 := []
deriving DecidableEq, Repr

/-! ### Packets -/

def minisnifferMaxPayloadPreviewBytes : Nat := 256

/-- A pointer into the captured frame and the bytes it may be read for. -/
structure PacketView where
  offset : Nat
  bytes : List UInt8
deriving DecidableEq, Repr

/-- `ipv4Header` holds `ipv4_header_length` bytes, `payloadPreview` the bytes that its length
counts, and each view the length that goes with its pointer. -/
structure PacketInfo where
  srcIp : IpText := .empty
  dstIp : IpText := .empty
  srcPort : UInt16 := 0
  dstPort : UInt16 := 0
  protocol : Protocol := .tcp
  ipVersion : Nat := 0
  size : Nat := 0
  hasPorts : Bool := false
  hasTcpSequence : Bool := false
  tcpSequence : UInt32 := 0
  tcpFlags : UInt8 := 0
  hasIcmp : Bool := false
  icmpType : UInt8 := 0
  icmpCode : UInt8 := 0
  isIpv4Fragment : Bool := false
  ipv4Identification : UInt16 := 0
  ipv4ProtocolNumber : UInt8 := 0
  ipv4FragmentOffset : Nat := 0
  ipv4MoreFragments : Bool := false
  ipv4FragmentPayload : Option PacketView := none
  ipv4Header : List UInt8 := []
  hasArp : Bool := false
  arpOperation : UInt16 := 0
  arpSenderMac : List UInt8 := []
  arpTargetMac : List UInt8 := []
  hasPayload : Bool := false
  payload : Option PacketView := none
  payloadDecodeLength : Nat := 0
  payloadPreview : List UInt8 := []
  appDecodeStatus : AppDecodeStatus := .notRun
  app : AppInfo := {}
deriving DecidableEq, Repr

namespace PacketInfo

/-- The captured payload bytes; none without a payload pointer. -/
def payloadBytes (packet : PacketInfo) : List UInt8 :=
  match packet.payload with
  | none => []
  | some view => view.bytes

def payloadCaptureLength (packet : PacketInfo) : Nat := packet.payloadBytes.length

/-- The bounded window that packet-local decoding and payload filters read. -/
def decodeWindow (packet : PacketInfo) : List UInt8 :=
  packet.payloadBytes.take packet.payloadDecodeLength

def ipv4HeaderLength (packet : PacketInfo) : Nat := packet.ipv4Header.length

def ipv4FragmentPayloadLength (packet : PacketInfo) : Nat :=
  match packet.ipv4FragmentPayload with
  | none => 0
  | some view => view.bytes.length

end PacketInfo

/-! ### Counters -/

/-- The counters of a capture. What is copied in once at exit, and the totals of the driver, are
left out. -/
structure PacketStats where
  totalPackets : UInt32 := 0
  tcpPackets : UInt32 := 0
  udpPackets : UInt32 := 0
  icmpPackets : UInt32 := 0
  arpPackets : UInt32 := 0
  otherPackets : UInt32 := 0
  totalBytes : Nat := 0
  rawPacketsSeen : UInt32 := 0
  packetsFilteredOut : UInt32 := 0
  parseFailures : UInt32 := 0
  ipv4FragmentsSeen : UInt32 := 0
  ipv4FragmentsReassembled : UInt32 := 0
  ipv4FragmentsExpired : UInt32 := 0
  ipv4FragmentsMalformed : UInt32 := 0
  ipv4FragmentsDropped : UInt32 := 0
  appDecodeNoMatch : UInt32 := 0
  appDecodeNeedMore : UInt32 := 0
  appDecodeMalformed : UInt32 := 0
  appDecodeTruncated : UInt32 := 0
  appDecodeDecoded : UInt32 := 0
deriving DecidableEq, Repr

end MiniSniffer
