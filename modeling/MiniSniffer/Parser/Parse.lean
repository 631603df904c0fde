import MiniSniffer.Common

/-!
Contract: packet parsing (`src/parser.c`).

Owns `parser_parse_packet_with_datalink`: the link layer selects a network
protocol and its offset, IPv4, IPv6 and ARP fill in a `PacketInfo`. The packet is
the captured bytes; lengths that the source narrows on the way (total length,
payload length, UDP length) are passed along as it does. The error return stands
for NULL arguments and an `inet_ntop` without room, so the function is total here.
-/

namespace MiniSniffer

open Foundation

def ethernetHeaderLen : Nat := 14

def ethernetEthertypeOffset : Nat := 12

def ethertypeIpv4 : UInt16 := 0x0800

def ethertypeIpv6 : UInt16 := 0x86dd

def ethertypeArp : UInt16 := 0x0806

def arpHeaderLen : Nat := 8

def arpHlenEthernet : Nat := 6

def arpPlenIpv4 : Nat := 4

def arpEthernetIpv4Len : Nat := arpHeaderLen + 2 * arpHlenEthernet + 2 * arpPlenIpv4

def ipv4MinHeaderLen : Nat := 20

def ipv6HeaderLen : Nat := 40

def ipv4ProtocolIcmp : UInt8 := 1

def ipv4ProtocolTcp : UInt8 := 6

def ipv4ProtocolUdp : UInt8 := 17

def ipv6ProtocolIcmpv6 : UInt8 := 58

def ipv6ProtocolHopopts : UInt8 := 0

def ipv6ProtocolRouting : UInt8 := 43

def ipv6ProtocolFragment : UInt8 := 44

def ipv6ProtocolEsp : UInt8 := 50

def ipv6ProtocolAh : UInt8 := 51

def ipv6ProtocolNoNext : UInt8 := 59

def ipv6ProtocolDestOpts : UInt8 := 60

def tcpMinHeaderLen : Nat := 20

def udpHeaderLen : Nat := 8

def icmpHeaderLen : Nat := 8

def ipv4FragmentOffsetMask : UInt16 := 0x1fff

def ipv4MoreFragmentsFlag : UInt16 := 0x2000

/-- The datalink types that can be parsed; all others stand in one. -/
inductive Datalink where
  | en10mb
  | raw
  | ipv4
  | ipv6
  | null
  | loop
  | linuxSll
  | linuxSll2
  | other
deriving DecidableEq, Repr

inductive NetworkLayer where
  | unknown
  | ipv4
  | ipv6
  | arp
deriving DecidableEq, Repr

/-! ### Transport -/

def setIpv4Protocol (protocolNumber : UInt8) (info : PacketInfo) : PacketInfo :=
  if protocolNumber = ipv4ProtocolIcmp then { info with protocol := .icmp }
  else if protocolNumber = ipv4ProtocolTcp then { info with protocol := .tcp }
  else if protocolNumber = ipv4ProtocolUdp then { info with protocol := .udp }
  else { info with protocol := .other }

/-- As for IPv4, but ICMPv6 counts as ICMP. -/
def setIpProtocol (protocolNumber : UInt8) (info : PacketInfo) : PacketInfo :=
  if protocolNumber = ipv4ProtocolIcmp || protocolNumber = ipv6ProtocolIcmpv6 then
    { info with protocol := .icmp }
  else if protocolNumber = ipv4ProtocolTcp then { info with protocol := .tcp }
  else if protocolNumber = ipv4ProtocolUdp then { info with protocol := .udp }
  else { info with protocol := .other }

def parseTcpPorts (packet : List UInt8) (packetLen tcpOffset : Nat) (info : PacketInfo) :
    PacketInfo :=
  if packetLen < tcpOffset + tcpMinHeaderLen then info
  else
    { info with
      srcPort := readU16 packet tcpOffset
      dstPort := readU16 packet (tcpOffset + 2)
      hasPorts := true }

def parseTcpSequenceAndFlags (packet : List UInt8) (packetLen tcpOffset : Nat)
    (info : PacketInfo) : PacketInfo :=
  if packetLen < tcpOffset + tcpMinHeaderLen then info
  else
    { info with
      tcpSequence := readU32 packet (tcpOffset + 4)
      tcpFlags := byteAt packet (tcpOffset + 13) &&& 0x3f
      hasTcpSequence := true }

/-- A datagram whose length field cannot hold its header has no ports. -/
def parseUdpPorts (packet : List UInt8) (packetLen udpOffset : Nat) (info : PacketInfo) :
    PacketInfo :=
  if packetLen < udpOffset + udpHeaderLen then info
  else if (readU16 packet (udpOffset + 4)).toNat < udpHeaderLen then info
  else
    { info with
      srcPort := readU16 packet udpOffset
      dstPort := readU16 packet (udpOffset + 2)
      hasPorts := true }

def parsePayload (payloadDecodeLimit : Nat) (packet : List UInt8) (packetLen payloadOffset : Nat)
    (info : PacketInfo) : PacketInfo :=
  if packetLen ≤ payloadOffset then info
  else
    { info with
      hasPayload := true
      payload := some
        { offset := payloadOffset
          bytes := (packet.drop payloadOffset).take (packetLen - payloadOffset) }
      payloadDecodeLength := min (packetLen - payloadOffset) payloadDecodeLimit
      payloadPreview := (packet.drop payloadOffset).take
        (min (packetLen - payloadOffset) minisnifferMaxPayloadPreviewBytes) }

def parseTcpPayload (payloadDecodeLimit : Nat) (packet : List UInt8) (packetLen tcpOffset : Nat)
    (info : PacketInfo) : PacketInfo :=
  if packetLen < tcpOffset + tcpMinHeaderLen then info
  else
    let tcpHeaderLen := (byteAt packet (tcpOffset + 12) >>> 4).toNat * 4
    if tcpHeaderLen < tcpMinHeaderLen then info
    else if packetLen < tcpOffset + tcpHeaderLen then info
    else parsePayload payloadDecodeLimit packet packetLen (tcpOffset + tcpHeaderLen) info

/-- A datagram that was not captured up to its length field has no payload. -/
def parseUdpPayload (payloadDecodeLimit : Nat) (packet : List UInt8) (packetLen udpOffset : Nat)
    (info : PacketInfo) : PacketInfo :=
  if packetLen < udpOffset + udpHeaderLen then info
  else
    let udpLength := (readU16 packet (udpOffset + 4)).toNat
    if udpLength < udpHeaderLen then info
    else if udpLength > packetLen - udpOffset then info
    else
      parsePayload payloadDecodeLimit packet
        (if udpLength < packetLen - udpOffset then udpOffset + udpLength else packetLen)
        (udpOffset + udpHeaderLen) info

def parseIcmpPayload (payloadDecodeLimit : Nat) (packet : List UInt8) (packetLen icmpOffset : Nat)
    (info : PacketInfo) : PacketInfo :=
  if packetLen < icmpOffset + icmpHeaderLen then info
  else
    parsePayload payloadDecodeLimit packet packetLen (icmpOffset + icmpHeaderLen)
      { info with
        hasIcmp := true
        icmpType := byteAt packet icmpOffset
        icmpCode := byteAt packet (icmpOffset + 1) }

def clearTransportPorts (info : PacketInfo) : PacketInfo :=
  { info with srcPort := 0, dstPort := 0, hasPorts := false }

def initializePacketInfo (packetLen : Nat) : PacketInfo :=
  { size := packetLen, protocol := .other }

/-! ### ARP -/

/-- `%02x:%02x:%02x:%02x:%02x:%02x` -/
def formatMacAddress (bytes : List UInt8) : List UInt8 :=
  (List.range arpHlenEthernet).flatMap fun index =>
    (if index = 0 then [] else ascii ":") ++ hexText 2 (byteAt bytes index).toNat

/-- Only Ethernet/IPv4 ARP is recognised. -/
def parseArpPacket (packet : List UInt8) (packetLen arpOffset : Nat) (info : PacketInfo) :
    PacketInfo :=
  if packetLen < arpOffset + arpEthernetIpv4Len then info
  else if readU16 packet arpOffset ≠ 1 || readU16 packet (arpOffset + 2) ≠ 0x0800 ||
      byteAt packet (arpOffset + 4) ≠ 6 || byteAt packet (arpOffset + 5) ≠ 4 then info
  else
    let senderMac := arpOffset + arpHeaderLen
    let senderIp := senderMac + arpHlenEthernet
    let targetMac := senderIp + arpPlenIpv4
    let targetIp := targetMac + arpHlenEthernet
    { info with
      protocol := .arp
      hasArp := true
      arpOperation := readU16 packet (arpOffset + 6)
      arpSenderMac := formatMacAddress (packet.drop senderMac)
      arpTargetMac := formatMacAddress (packet.drop targetMac)
      srcIp := .ipv4 ((packet.drop senderIp).take 4)
      dstIp := .ipv4 ((packet.drop targetIp).take 4) }

/-! ### IPv4 -/

/-- What an IPv4 packet carries for its transport, unless it is a fragment. -/
def parseIpv4Transport (payloadDecodeLimit : Nat) (packet : List UInt8)
    (packetLen transportOffset : Nat) (info : PacketInfo) : PacketInfo :=
  match info.protocol with
  | .tcp =>
      parseTcpPayload payloadDecodeLimit packet packetLen transportOffset
        (parseTcpSequenceAndFlags packet packetLen transportOffset
          (parseTcpPorts packet packetLen transportOffset info))
  | .udp =>
      parseUdpPayload payloadDecodeLimit packet packetLen transportOffset
        (parseUdpPorts packet packetLen transportOffset info)
  | .icmp =>
      parseIcmpPayload payloadDecodeLimit packet packetLen transportOffset
        (clearTransportPorts info)
  | _ => info

/-- The packet's metadata before its fragment field is looked at. -/
def ipv4Metadata (packet : List UInt8) (parsedPacketLen ipOffset ipHeaderLen : Nat)
    (info : PacketInfo) : PacketInfo :=
  let protocolNumber := byteAt packet (ipOffset + 9)
  let addressed :=
    { info with
      srcIp := .ipv4 ((packet.drop (ipOffset + 12)).take 4)
      dstIp := .ipv4 ((packet.drop (ipOffset + 16)).take 4) }
  let fragmentPayloadOffset := ipOffset + ipHeaderLen
  let fragmentField := readU16 packet (ipOffset + 6)
  { clearTransportPorts (setIpv4Protocol protocolNumber addressed) with
    ipVersion := 4
    ipv4ProtocolNumber := protocolNumber
    ipv4FragmentPayload :=
      if parsedPacketLen ≥ fragmentPayloadOffset then
        some
          { offset := fragmentPayloadOffset
            bytes := (packet.drop fragmentPayloadOffset).take
              (parsedPacketLen - fragmentPayloadOffset) }
      else none
    ipv4Identification := readU16 packet (ipOffset + 4)
    ipv4Header := (packet.drop ipOffset).take ipHeaderLen
    ipv4FragmentOffset := (fragmentField &&& ipv4FragmentOffsetMask).toNat * 8
    ipv4MoreFragments := fragmentField &&& ipv4MoreFragmentsFlag ≠ 0 }

def parseIpv4Packet (payloadDecodeLimit : Nat) (packet : List UInt8) (packetLen ipOffset : Nat)
    (info : PacketInfo) : PacketInfo :=
  if packetLen < ipOffset + ipv4MinHeaderLen then info
  else
    let versionAndLength := byteAt packet ipOffset
    let ipHeaderLen := (versionAndLength &&& 0x0f).toNat * 4
    if versionAndLength >>> 4 ≠ 4 || ipHeaderLen < ipv4MinHeaderLen then info
    else if packetLen < ipOffset + ipHeaderLen then info
    else
      let ipTotalLength := (readU16 packet (ipOffset + 2)).toNat
      if ipTotalLength < ipHeaderLen then info
      else
        let capturedIpLength := packetLen - ipOffset
        let parsedPacketLen := ipOffset + min capturedIpLength ipTotalLength
        let parsed := ipv4Metadata packet parsedPacketLen ipOffset ipHeaderLen info
        let fragmentField := readU16 packet (ipOffset + 6)
        if fragmentField &&& (ipv4FragmentOffsetMask ||| ipv4MoreFragmentsFlag) ≠ 0 then
          { parsed with isIpv4Fragment := true }
        else
          parseIpv4Transport payloadDecodeLimit packet parsedPacketLen (ipOffset + ipHeaderLen)
            parsed

/-! ### IPv6 -/

structure IPv6Transport where
  nextHeader : UInt8
  transportOffset : Nat
  transportReachable : Bool
deriving DecidableEq, Repr

def ipv6ExtensionHeaderIsSkippable (nextHeader : UInt8) : Bool :=
  nextHeader = ipv6ProtocolHopopts || nextHeader = ipv6ProtocolRouting ||
    nextHeader = ipv6ProtocolDestOpts || nextHeader = ipv6ProtocolAh

/-- The length byte counts four-byte words for AH and eight-byte units otherwise. -/
def ipv6ExtensionHeaderLength (lengthByte nextHeader : UInt8) : Nat :=
  if nextHeader = ipv6ProtocolAh then (lengthByte.toNat + 2) * 4
  else (lengthByte.toNat + 1) * 8

/-- Where the chain of skippable headers ends. Every pass skips at least eight captured bytes, so as
many passes as there are bytes are enough. -/
def skipIpv6Extensions (packet : List UInt8) (packetLen : Nat) :
    Nat → UInt8 → Nat → IPv6Transport
  | 0, nextHeader, offset => ⟨nextHeader, offset, false⟩
  | passes + 1, nextHeader, offset =>
      if !ipv6ExtensionHeaderIsSkippable nextHeader then ⟨nextHeader, offset, true⟩
      else if packetLen < offset + 2 then ⟨nextHeader, offset, false⟩
      else
        let headerLen := ipv6ExtensionHeaderLength (byteAt packet (offset + 1)) nextHeader
        if headerLen < 8 || packetLen < offset + headerLen then ⟨nextHeader, offset, false⟩
        else skipIpv6Extensions packet packetLen passes (byteAt packet offset) (offset + headerLen)

def findIpv6Transport (packet : List UInt8) (packetLen extensionOffset : Nat)
    (nextHeader : UInt8) : IPv6Transport :=
  let result := skipIpv6Extensions packet packetLen (packetLen + 1) nextHeader extensionOffset
  if !result.transportReachable then result
  else if result.nextHeader = ipv6ProtocolFragment then
    { result with
      nextHeader :=
        if packetLen ≥ result.transportOffset + 8 then byteAt packet result.transportOffset
        else result.nextHeader
      transportReachable := false }
  else if result.nextHeader = ipv6ProtocolEsp || result.nextHeader = ipv6ProtocolNoNext then
    { result with transportReachable := false }
  else result

def parseIpv6Packet (payloadDecodeLimit : Nat) (packet : List UInt8) (packetLen ipOffset : Nat)
    (info : PacketInfo) : PacketInfo :=
  if packetLen < ipOffset + ipv6HeaderLen then info
  else if byteAt packet ipOffset >>> 4 ≠ 6 then info
  else
    let payloadLength := (readU16 packet (ipOffset + 4)).toNat
    let capturedIpLength := packetLen - ipOffset
    let parsedPacketLen := ipOffset + min capturedIpLength (ipv6HeaderLen + payloadLength)
    let transport := findIpv6Transport packet parsedPacketLen (ipOffset + ipv6HeaderLen)
      (byteAt packet (ipOffset + 6))
    let addressed :=
      { info with
        srcIp := .ipv6 ((packet.drop (ipOffset + 8)).take 16)
        dstIp := .ipv6 ((packet.drop (ipOffset + 24)).take 16)
        ipVersion := 6 }
    let parsed := clearTransportPorts (setIpProtocol transport.nextHeader addressed)
    if !transport.transportReachable then parsed
    else
      match parsed.protocol with
      | .tcp =>
          parseTcpPayload payloadDecodeLimit packet parsedPacketLen transport.transportOffset
            (parseTcpSequenceAndFlags packet parsedPacketLen transport.transportOffset
              (parseTcpPorts packet parsedPacketLen transport.transportOffset parsed))
      | .udp =>
          parseUdpPayload payloadDecodeLimit packet parsedPacketLen transport.transportOffset
            (parseUdpPorts packet parsedPacketLen transport.transportOffset parsed)
      | .icmp =>
          parseIcmpPayload payloadDecodeLimit packet parsedPacketLen transport.transportOffset
            parsed
      | _ => parsed

/-! ### The link layer -/

def networkFromEthertype (ethertype : UInt16) : NetworkLayer :=
  if ethertype = ethertypeIpv4 then .ipv4
  else if ethertype = ethertypeIpv6 then .ipv6
  else if ethertype = ethertypeArp then .arp
  else .unknown

def readU32Little (packet : List UInt8) : UInt32 :=
  (byteAt packet 0).toUInt32 ||| ((byteAt packet 1).toUInt32 <<< 8) |||
    ((byteAt packet 2).toUInt32 <<< 16) ||| ((byteAt packet 3).toUInt32 <<< 24)

/-- The family word in either byte order; `AF_INET6` differs between systems. -/
def networkFromNullFamily (packet : List UInt8) : NetworkLayer :=
  let little := readU32Little packet
  let big := readU32 packet 0
  if little = 2 || big = 2 then .ipv4
  else if little = 10 || big = 10 || little = 24 || big = 24 || little = 28 || big = 28 ||
      little = 30 || big = 30 then .ipv6
  else .unknown

/-- The family is in the first four bytes. -/
theorem networkFromNullFamily_take {packet : List UInt8} {count : Nat} (enough : 4 ≤ count) :
    networkFromNullFamily (packet.take count) = networkFromNullFamily packet := by
  have little : readU32Little (packet.take count) = readU32Little packet := by
    rw [readU32Little, readU32Little, byteAt_take (by omega), byteAt_take (by omega),
      byteAt_take (by omega), byteAt_take (by omega)]
  rw [networkFromNullFamily, networkFromNullFamily, little, readU32_take (by omega)]

def inferRawIpNetwork (packet : List UInt8) (packetLen : Nat) : NetworkLayer :=
  if packetLen = 0 then .unknown
  else if byteAt packet 0 >>> 4 = 4 then .ipv4
  else if byteAt packet 0 >>> 4 = 6 then .ipv6
  else .unknown

/-- The network protocol that a header of `headerLen` bytes announces by an ethertype. -/
def selectByEthertype (packet : List UInt8) (packetLen headerLen ethertypeOffset : Nat) :
    Nat × NetworkLayer :=
  if packetLen < headerLen then (0, .unknown)
  else (headerLen, networkFromEthertype (readU16 packet ethertypeOffset))

/-- The offset of the network header and its protocol. -/
def selectNetworkLayer (packet : List UInt8) (packetLen : Nat) (datalinkType : Datalink) :
    Nat × NetworkLayer :=
  if packetLen = 0 then (0, .unknown)
  else
    match datalinkType with
    | .en10mb => selectByEthertype packet packetLen ethernetHeaderLen ethernetEthertypeOffset
    | .raw => (0, inferRawIpNetwork packet packetLen)
    | .ipv4 => (0, .ipv4)
    | .ipv6 => (0, .ipv6)
    | .null | .loop =>
        if packetLen < 4 then (0, .unknown) else (4, networkFromNullFamily packet)
    | .linuxSll => selectByEthertype packet packetLen 16 14
    | .linuxSll2 => selectByEthertype packet packetLen 20 0
    | .other => (0, .unknown)

def parserParsePacketWithDatalink (payloadDecodeLimit : Nat) (packet : List UInt8)
    (datalinkType : Datalink) : PacketInfo :=
  let info := initializePacketInfo packet.length
  match selectNetworkLayer packet packet.length datalinkType with
  | (ipOffset, .ipv4) => parseIpv4Packet payloadDecodeLimit packet packet.length ipOffset info
  | (ipOffset, .ipv6) => parseIpv6Packet payloadDecodeLimit packet packet.length ipOffset info
  | (ipOffset, .arp) => parseArpPacket packet packet.length ipOffset info
  | (_, .unknown) => info

def parserParsePacket (payloadDecodeLimit : Nat) (packet : List UInt8) : PacketInfo :=
  parserParsePacketWithDatalink payloadDecodeLimit packet .en10mb

end MiniSniffer
