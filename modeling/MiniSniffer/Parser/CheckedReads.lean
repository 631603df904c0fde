import MiniSniffer.Foundation.CheckedReads
import MiniSniffer.Parser.Parse

/-!
Contract: every read of the parser is inside the packet.

Owns the parser with each of its reads checked: a read past the end of the packet ends it with
nothing. It returns what the parser returns, for every packet and datalink type, so no read is past
the end.

Does not own what the parsed fields mean: see `Parser.Fields` and `Parser.PayloadBounds`.
-/

namespace MiniSniffer

open Foundation

/-! ### Transport -/

def checkedParseTcpPorts (packet : List UInt8) (packetLen tcpOffset : Nat) (info : PacketInfo) :
    Option PacketInfo :=
  if packetLen < tcpOffset + tcpMinHeaderLen then some info
  else do
    let srcPort ← checkedU16 packet tcpOffset
    let dstPort ← checkedU16 packet (tcpOffset + 2)
    return { info with srcPort := srcPort, dstPort := dstPort, hasPorts := true }

def checkedParseTcpSequenceAndFlags (packet : List UInt8) (packetLen tcpOffset : Nat)
    (info : PacketInfo) : Option PacketInfo :=
  if packetLen < tcpOffset + tcpMinHeaderLen then some info
  else do
    let tcpSequence ← checkedU32 packet (tcpOffset + 4)
    let tcpFlags ← checkedByte packet (tcpOffset + 13)
    some
      { info with
        tcpSequence := tcpSequence
        tcpFlags := tcpFlags &&& 0x3f
        hasTcpSequence := true }

def checkedParseUdpPorts (packet : List UInt8) (packetLen udpOffset : Nat) (info : PacketInfo) :
    Option PacketInfo :=
  if packetLen < udpOffset + udpHeaderLen then some info
  else do
    let udpLength ← checkedU16 packet (udpOffset + 4)
    if udpLength.toNat < udpHeaderLen then return info
    else
      let srcPort ← checkedU16 packet udpOffset
      let dstPort ← checkedU16 packet (udpOffset + 2)
      return { info with srcPort := srcPort, dstPort := dstPort, hasPorts := true }

/-- The preview is copied out of the packet. The payload is only pointed to, and checked whole. -/
def checkedParsePayload (payloadDecodeLimit : Nat) (packet : List UInt8)
    (packetLen payloadOffset : Nat) (info : PacketInfo) : Option PacketInfo :=
  if packetLen ≤ payloadOffset then some info
  else do
    let available := packetLen - payloadOffset
    let bytes ← checkedBytes packet payloadOffset available
    let preview ← checkedBytes packet payloadOffset
      (min available minisnifferMaxPayloadPreviewBytes)
    some
      { info with
        hasPayload := true
        payload := some { offset := payloadOffset, bytes := bytes }
        payloadDecodeLength := min available payloadDecodeLimit
        payloadPreview := preview }

def checkedParseTcpPayload (payloadDecodeLimit : Nat) (packet : List UInt8)
    (packetLen tcpOffset : Nat) (info : PacketInfo) : Option PacketInfo :=
  if packetLen < tcpOffset + tcpMinHeaderLen then some info
  else do
    let dataOffset ← checkedByte packet (tcpOffset + 12)
    let tcpHeaderLen := (dataOffset >>> 4).toNat * 4
    if tcpHeaderLen < tcpMinHeaderLen then return info
    else if packetLen < tcpOffset + tcpHeaderLen then return info
    else checkedParsePayload payloadDecodeLimit packet packetLen (tcpOffset + tcpHeaderLen) info

def checkedParseUdpPayload (payloadDecodeLimit : Nat) (packet : List UInt8)
    (packetLen udpOffset : Nat) (info : PacketInfo) : Option PacketInfo :=
  if packetLen < udpOffset + udpHeaderLen then some info
  else do
    let lengthField ← checkedU16 packet (udpOffset + 4)
    let udpLength := lengthField.toNat
    if udpLength < udpHeaderLen then return info
    else if udpLength > packetLen - udpOffset then return info
    else
      checkedParsePayload payloadDecodeLimit packet
        (if udpLength < packetLen - udpOffset then udpOffset + udpLength else packetLen)
        (udpOffset + udpHeaderLen) info

def checkedParseIcmpPayload (payloadDecodeLimit : Nat) (packet : List UInt8)
    (packetLen icmpOffset : Nat) (info : PacketInfo) : Option PacketInfo :=
  if packetLen < icmpOffset + icmpHeaderLen then some info
  else do
    let icmpType ← checkedByte packet icmpOffset
    let icmpCode ← checkedByte packet (icmpOffset + 1)
    checkedParsePayload payloadDecodeLimit packet packetLen (icmpOffset + icmpHeaderLen)
      { info with hasIcmp := true, icmpType := icmpType, icmpCode := icmpCode }

/-! ### Network protocols -/

def checkedParseArpPacket (packet : List UInt8) (packetLen arpOffset : Nat) (info : PacketInfo) :
    Option PacketInfo :=
  if packetLen < arpOffset + arpEthernetIpv4Len then some info
  else do
    let htype ← checkedU16 packet arpOffset
    let ptype ← checkedU16 packet (arpOffset + 2)
    let hlen ← checkedByte packet (arpOffset + 4)
    let plen ← checkedByte packet (arpOffset + 5)
    if htype ≠ 1 || ptype ≠ 0x0800 || hlen ≠ 6 || plen ≠ 4 then return info
    else
      let senderMac := arpOffset + arpHeaderLen
      let senderIp := senderMac + arpHlenEthernet
      let targetMac := senderIp + arpPlenIpv4
      let targetIp := targetMac + arpHlenEthernet
      let operation ← checkedU16 packet (arpOffset + 6)
      let senderMacBytes ← checkedBytes packet senderMac arpHlenEthernet
      let targetMacBytes ← checkedBytes packet targetMac arpHlenEthernet
      let senderIpBytes ← checkedBytes packet senderIp 4
      let targetIpBytes ← checkedBytes packet targetIp 4
      some
        { info with
          protocol := .arp
          hasArp := true
          arpOperation := operation
          arpSenderMac := formatMacAddress senderMacBytes
          arpTargetMac := formatMacAddress targetMacBytes
          srcIp := .ipv4 senderIpBytes
          dstIp := .ipv4 targetIpBytes }

def checkedParseIpv4Transport (payloadDecodeLimit : Nat) (packet : List UInt8)
    (packetLen transportOffset : Nat) (info : PacketInfo) : Option PacketInfo :=
  match info.protocol with
  | .tcp => do
      let ported ← checkedParseTcpPorts packet packetLen transportOffset info
      let sequenced ← checkedParseTcpSequenceAndFlags packet packetLen transportOffset ported
      checkedParseTcpPayload payloadDecodeLimit packet packetLen transportOffset sequenced
  | .udp => do
      let ported ← checkedParseUdpPorts packet packetLen transportOffset info
      checkedParseUdpPayload payloadDecodeLimit packet packetLen transportOffset ported
  | .icmp =>
      checkedParseIcmpPayload payloadDecodeLimit packet packetLen transportOffset
        (clearTransportPorts info)
  | _ => some info

def checkedIpv4Metadata (packet : List UInt8) (parsedPacketLen ipOffset ipHeaderLen : Nat)
    (info : PacketInfo) : Option PacketInfo := do
  let srcIp ← checkedBytes packet (ipOffset + 12) 4
  let dstIp ← checkedBytes packet (ipOffset + 16) 4
  let protocolNumber ← checkedByte packet (ipOffset + 9)
  let fragmentPayloadOffset := ipOffset + ipHeaderLen
  let fragmentPayload ← checkedBytes packet fragmentPayloadOffset
    (parsedPacketLen - fragmentPayloadOffset)
  let identification ← checkedU16 packet (ipOffset + 4)
  let header ← checkedBytes packet ipOffset ipHeaderLen
  let fragmentField ← checkedU16 packet (ipOffset + 6)
  let addressed := { info with srcIp := .ipv4 srcIp, dstIp := .ipv4 dstIp }
  some
    { clearTransportPorts (setIpv4Protocol protocolNumber addressed) with
      ipVersion := 4
      ipv4ProtocolNumber := protocolNumber
      ipv4FragmentPayload :=
        if parsedPacketLen ≥ fragmentPayloadOffset then
          some { offset := fragmentPayloadOffset, bytes := fragmentPayload }
        else none
      ipv4Identification := identification
      ipv4Header := header
      ipv4FragmentOffset := (fragmentField &&& ipv4FragmentOffsetMask).toNat * 8
      ipv4MoreFragments := fragmentField &&& ipv4MoreFragmentsFlag ≠ 0 }

def checkedParseIpv4Packet (payloadDecodeLimit : Nat) (packet : List UInt8)
    (packetLen ipOffset : Nat) (info : PacketInfo) : Option PacketInfo :=
  if packetLen < ipOffset + ipv4MinHeaderLen then some info
  else do
    let versionAndLength ← checkedByte packet ipOffset
    let ipHeaderLen := (versionAndLength &&& 0x0f).toNat * 4
    if versionAndLength >>> 4 ≠ 4 || ipHeaderLen < ipv4MinHeaderLen then return info
    else if packetLen < ipOffset + ipHeaderLen then return info
    else
      let totalLengthField ← checkedU16 packet (ipOffset + 2)
      let ipTotalLength := totalLengthField.toNat
      if ipTotalLength < ipHeaderLen then return info
      else
        let capturedIpLength := packetLen - ipOffset
        let parsedPacketLen := ipOffset + min capturedIpLength ipTotalLength
        let parsed ← checkedIpv4Metadata packet parsedPacketLen ipOffset ipHeaderLen info
        let fragmentField ← checkedU16 packet (ipOffset + 6)
        if fragmentField &&& (ipv4FragmentOffsetMask ||| ipv4MoreFragmentsFlag) ≠ 0 then
          return { parsed with isIpv4Fragment := true }
        else
          checkedParseIpv4Transport payloadDecodeLimit packet parsedPacketLen
            (ipOffset + ipHeaderLen) parsed

def checkedSkipIpv6Extensions (packet : List UInt8) (packetLen : Nat) :
    Nat → UInt8 → Nat → Option IPv6Transport
  | 0, nextHeader, offset => some ⟨nextHeader, offset, false⟩
  | passes + 1, nextHeader, offset =>
      if !ipv6ExtensionHeaderIsSkippable nextHeader then some ⟨nextHeader, offset, true⟩
      else if packetLen < offset + 2 then some ⟨nextHeader, offset, false⟩
      else do
        let lengthByte ← checkedByte packet (offset + 1)
        let headerLen := ipv6ExtensionHeaderLength lengthByte nextHeader
        if headerLen < 8 || packetLen < offset + headerLen then
          return ⟨nextHeader, offset, false⟩
        else
          let following ← checkedByte packet offset
          checkedSkipIpv6Extensions packet packetLen passes following (offset + headerLen)

def checkedFindIpv6Transport (packet : List UInt8) (packetLen extensionOffset : Nat)
    (nextHeader : UInt8) : Option IPv6Transport := do
  let result ← checkedSkipIpv6Extensions packet packetLen (packetLen + 1) nextHeader
    extensionOffset
  if !result.transportReachable then return result
  else if result.nextHeader = ipv6ProtocolFragment then
    if packetLen ≥ result.transportOffset + 8 then
      let following ← checkedByte packet result.transportOffset
      return { result with nextHeader := following, transportReachable := false }
    else return { result with transportReachable := false }
  else if result.nextHeader = ipv6ProtocolEsp || result.nextHeader = ipv6ProtocolNoNext then
    return { result with transportReachable := false }
  else return result

/-- As for IPv4, but ICMP keeps what it has of ports. -/
def checkedParseIpv6Transport (payloadDecodeLimit : Nat) (packet : List UInt8)
    (packetLen transportOffset : Nat) (info : PacketInfo) : Option PacketInfo :=
  match info.protocol with
  | .tcp => do
      let ported ← checkedParseTcpPorts packet packetLen transportOffset info
      let sequenced ← checkedParseTcpSequenceAndFlags packet packetLen transportOffset ported
      checkedParseTcpPayload payloadDecodeLimit packet packetLen transportOffset sequenced
  | .udp => do
      let ported ← checkedParseUdpPorts packet packetLen transportOffset info
      checkedParseUdpPayload payloadDecodeLimit packet packetLen transportOffset ported
  | .icmp => checkedParseIcmpPayload payloadDecodeLimit packet packetLen transportOffset info
  | _ => some info

def checkedParseIpv6Packet (payloadDecodeLimit : Nat) (packet : List UInt8)
    (packetLen ipOffset : Nat) (info : PacketInfo) : Option PacketInfo :=
  if packetLen < ipOffset + ipv6HeaderLen then some info
  else do
    let version ← checkedByte packet ipOffset
    if version >>> 4 ≠ 6 then return info
    else
      let lengthField ← checkedU16 packet (ipOffset + 4)
      let payloadLength := lengthField.toNat
      let nextHeader ← checkedByte packet (ipOffset + 6)
      let capturedIpLength := packetLen - ipOffset
      let parsedPacketLen := ipOffset + min capturedIpLength (ipv6HeaderLen + payloadLength)
      let srcIp ← checkedBytes packet (ipOffset + 8) 16
      let dstIp ← checkedBytes packet (ipOffset + 24) 16
      let transport ← checkedFindIpv6Transport packet parsedPacketLen (ipOffset + ipv6HeaderLen)
        nextHeader
      let addressed := { info with srcIp := .ipv6 srcIp, dstIp := .ipv6 dstIp, ipVersion := 6 }
      let parsed := clearTransportPorts (setIpProtocol transport.nextHeader addressed)
      if !transport.transportReachable then return parsed
      else
        checkedParseIpv6Transport payloadDecodeLimit packet parsedPacketLen
          transport.transportOffset parsed

/-! ### The link layer -/

def checkedSelectByEthertype (packet : List UInt8) (packetLen headerLen ethertypeOffset : Nat) :
    Option (Nat × NetworkLayer) :=
  if packetLen < headerLen then some (0, .unknown)
  else do
    let ethertype ← checkedU16 packet ethertypeOffset
    return (headerLen, networkFromEthertype ethertype)

def checkedInferRawIpNetwork (packet : List UInt8) (packetLen : Nat) : Option NetworkLayer :=
  if packetLen = 0 then some .unknown
  else do
    let version ← checkedByte packet 0
    if version >>> 4 = 4 then return .ipv4
    else if version >>> 4 = 6 then return .ipv6
    else return .unknown

def checkedSelectNetworkLayer (packet : List UInt8) (packetLen : Nat) (datalinkType : Datalink) :
    Option (Nat × NetworkLayer) :=
  if packetLen = 0 then some (0, .unknown)
  else
    match datalinkType with
    | .en10mb =>
        checkedSelectByEthertype packet packetLen ethernetHeaderLen ethernetEthertypeOffset
    | .raw => do
        let network ← checkedInferRawIpNetwork packet packetLen
        return (0, network)
    | .ipv4 => some (0, .ipv4)
    | .ipv6 => some (0, .ipv6)
    | .null | .loop =>
        if packetLen < 4 then some (0, .unknown)
        else do
          let family ← checkedBytes packet 0 4
          return (4, networkFromNullFamily family)
    | .linuxSll => checkedSelectByEthertype packet packetLen 16 14
    | .linuxSll2 => checkedSelectByEthertype packet packetLen 20 0
    | .other => some (0, .unknown)

def checkedParsePacketWithDatalink (payloadDecodeLimit : Nat) (packet : List UInt8)
    (datalinkType : Datalink) : Option PacketInfo := do
  let info := initializePacketInfo packet.length
  let (offset, network) ← checkedSelectNetworkLayer packet packet.length datalinkType
  match network with
  | .ipv4 => checkedParseIpv4Packet payloadDecodeLimit packet packet.length offset info
  | .ipv6 => checkedParseIpv6Packet payloadDecodeLimit packet packet.length offset info
  | .arp => checkedParseArpPacket packet packet.length offset info
  | .unknown => return info

/-! ### Reads inside -/

theorem formatMacAddress_take (bytes : List UInt8) :
    formatMacAddress (bytes.take arpHlenEthernet) = formatMacAddress bytes := by
  have sixth : ∀ index < 6, byteAt (bytes.take arpHlenEthernet) index = byteAt bytes index :=
    fun index inside => byteAt_take inside
  rw [formatMacAddress, formatMacAddress]
  apply List.flatMap_congr
  intro index member
  rw [sixth index (List.mem_range.mp member)]

/-! ### The parser inside -/

section Parser

variable {packet : List UInt8} {packetLen : Nat} (payloadDecodeLimit offset : Nat)
variable (info : PacketInfo)

theorem checkedParseTcpPorts_eq (inside : packetLen ≤ packet.length) :
    checkedParseTcpPorts packet packetLen offset info =
      some (parseTcpPorts packet packetLen offset info) := by
  have headerLen : tcpMinHeaderLen = 20 := rfl
  rw [checkedParseTcpPorts, parseTcpPorts]
  split_ifs with short
  · rfl
  · rw [checkedU16_inside (by omega), checkedU16_inside (by omega)]
    rfl

theorem checkedParseTcpSequenceAndFlags_eq (inside : packetLen ≤ packet.length) :
    checkedParseTcpSequenceAndFlags packet packetLen offset info =
      some (parseTcpSequenceAndFlags packet packetLen offset info) := by
  have headerLen : tcpMinHeaderLen = 20 := rfl
  rw [checkedParseTcpSequenceAndFlags, parseTcpSequenceAndFlags]
  split_ifs with short
  · rfl
  · rw [checkedU32_inside (by omega), checkedByte_inside (by omega)]
    rfl

theorem checkedParseUdpPorts_eq (inside : packetLen ≤ packet.length) :
    checkedParseUdpPorts packet packetLen offset info =
      some (parseUdpPorts packet packetLen offset info) := by
  have headerLen : udpHeaderLen = 8 := rfl
  rw [checkedParseUdpPorts, parseUdpPorts]
  split_ifs with short unsized
  · rfl
  · rw [checkedU16_inside (by omega), checked_bind, if_pos unsized]
    rfl
  · rw [checkedU16_inside (by omega), checked_bind, if_neg unsized,
      checkedU16_inside (by omega), checkedU16_inside (by omega)]
    rfl

theorem checkedParsePayload_eq (inside : packetLen ≤ packet.length) :
    checkedParsePayload payloadDecodeLimit packet packetLen offset info =
      some (parsePayload payloadDecodeLimit packet packetLen offset info) := by
  rw [checkedParsePayload, parsePayload]
  split_ifs with empty
  · rfl
  · dsimp only
    rw [checkedBytes_inside (by omega), checkedBytes_inside (by omega)]
    rfl

theorem checkedParseTcpPayload_eq (inside : packetLen ≤ packet.length) :
    checkedParseTcpPayload payloadDecodeLimit packet packetLen offset info =
      some (parseTcpPayload payloadDecodeLimit packet packetLen offset info) := by
  have headerLen : tcpMinHeaderLen = 20 := rfl
  rw [checkedParseTcpPayload, parseTcpPayload]
  split_ifs with short
  · rfl
  · rw [checkedByte_inside (by omega), checked_bind]
    dsimp only
    split_ifs with tiny cut
    · rfl
    · rfl
    · exact checkedParsePayload_eq payloadDecodeLimit _ info inside

theorem checkedParseUdpPayload_eq (inside : packetLen ≤ packet.length) :
    checkedParseUdpPayload payloadDecodeLimit packet packetLen offset info =
      some (parseUdpPayload payloadDecodeLimit packet packetLen offset info) := by
  have headerLen : udpHeaderLen = 8 := rfl
  rw [checkedParseUdpPayload, parseUdpPayload]
  split_ifs with short
  · rfl
  · rw [checkedU16_inside (by omega), checked_bind]
    dsimp only
    split_ifs with tiny cut
    · rfl
    · rfl
    · exact checkedParsePayload_eq payloadDecodeLimit _ info (by omega)
    · exact checkedParsePayload_eq payloadDecodeLimit _ info inside

theorem checkedParseIcmpPayload_eq (inside : packetLen ≤ packet.length) :
    checkedParseIcmpPayload payloadDecodeLimit packet packetLen offset info =
      some (parseIcmpPayload payloadDecodeLimit packet packetLen offset info) := by
  have headerLen : icmpHeaderLen = 8 := rfl
  rw [checkedParseIcmpPayload, parseIcmpPayload]
  split_ifs with short
  · rfl
  · rw [checkedByte_inside (by omega), checkedByte_inside (by omega)]
    exact checkedParsePayload_eq payloadDecodeLimit _ _ inside

theorem checkedParseArpPacket_eq (inside : packetLen ≤ packet.length) :
    checkedParseArpPacket packet packetLen offset info =
      some (parseArpPacket packet packetLen offset info) := by
  have length : arpEthernetIpv4Len = 28 := rfl
  have header : arpHeaderLen = 8 := rfl
  have mac : arpHlenEthernet = 6 := rfl
  have address : arpPlenIpv4 = 4 := rfl
  rw [checkedParseArpPacket, parseArpPacket]
  by_cases short : packetLen < offset + arpEthernetIpv4Len
  · rw [if_pos short, if_pos short]
  · rw [if_neg short, if_neg short]
    simp only [checkedU16_inside (show offset + 1 < packet.length by omega),
      checkedU16_inside (show offset + 2 + 1 < packet.length by omega),
      checkedByte_inside (show offset + 4 < packet.length by omega),
      checkedByte_inside (show offset + 5 < packet.length by omega), checked_bind]
    split_ifs with other
    · rfl
    · rw [checkedU16_inside (by omega), checkedBytes_inside (by omega),
        checkedBytes_inside (by omega), checkedBytes_inside (by omega),
        checkedBytes_inside (by omega)]
      simp only [checked_bind, formatMacAddress_take]

theorem checkedParseIpv4Transport_eq (inside : packetLen ≤ packet.length) :
    checkedParseIpv4Transport payloadDecodeLimit packet packetLen offset info =
      some (parseIpv4Transport payloadDecodeLimit packet packetLen offset info) := by
  unfold checkedParseIpv4Transport parseIpv4Transport
  cases info.protocol with
  | tcp =>
      simp only [checkedParseTcpPorts_eq _ _ inside, checkedParseTcpSequenceAndFlags_eq _ _ inside,
        checkedParseTcpPayload_eq _ _ _ inside, checked_bind]
  | udp =>
      simp only [checkedParseUdpPorts_eq _ _ inside, checkedParseUdpPayload_eq _ _ _ inside,
        checked_bind]
  | icmp => exact checkedParseIcmpPayload_eq payloadDecodeLimit offset _ inside
  | arp => rfl
  | other => rfl

theorem checkedIpv4Metadata_eq {ipHeaderLen : Nat} (least : offset + 20 ≤ packet.length)
    (header : offset + ipHeaderLen ≤ packet.length) (inside : packetLen ≤ packet.length) :
    checkedIpv4Metadata packet packetLen offset ipHeaderLen info =
      some (ipv4Metadata packet packetLen offset ipHeaderLen info) := by
  rw [checkedIpv4Metadata, ipv4Metadata, checkedBytes_inside (by omega),
    checkedBytes_inside (by omega), checkedByte_inside (by omega)]
  simp only [checked_bind]
  rw [checkedBytes_inside (by omega), checkedU16_inside (by omega),
    checkedBytes_inside (by omega), checkedU16_inside (by omega)]
  rfl

theorem checkedParseIpv4Packet_eq (inside : packetLen ≤ packet.length) :
    checkedParseIpv4Packet payloadDecodeLimit packet packetLen offset info =
      some (parseIpv4Packet payloadDecodeLimit packet packetLen offset info) := by
  have least : ipv4MinHeaderLen = 20 := rfl
  rw [checkedParseIpv4Packet, parseIpv4Packet]
  by_cases short : packetLen < offset + ipv4MinHeaderLen
  · rw [if_pos short, if_pos short]
  · rw [if_neg short, if_neg short, checkedByte_inside (by omega), checked_bind]
    dsimp only
    split_ifs with refused cut total fragment
    · rfl
    · rfl
    · rw [checkedU16_inside (by omega), checked_bind, if_pos total]
      rfl
    · rw [checkedU16_inside (by omega), checked_bind, if_neg total,
        checkedIpv4Metadata_eq _ _ (by omega) (by omega) (by omega), checked_bind,
        checkedU16_inside (by omega), checked_bind, if_pos fragment]
      rfl
    · rw [checkedU16_inside (by omega), checked_bind, if_neg total,
        checkedIpv4Metadata_eq _ _ (by omega) (by omega) (by omega), checked_bind,
        checkedU16_inside (by omega), checked_bind, if_neg fragment]
      exact checkedParseIpv4Transport_eq payloadDecodeLimit _ _ (by omega)

theorem checkedSkipIpv6Extensions_eq (inside : packetLen ≤ packet.length) (passes : Nat)
    (nextHeader : UInt8) :
    checkedSkipIpv6Extensions packet packetLen passes nextHeader offset =
      some (skipIpv6Extensions packet packetLen passes nextHeader offset) := by
  induction passes generalizing nextHeader offset with
  | zero => rfl
  | succ passes inductionHypothesis =>
      rw [checkedSkipIpv6Extensions, skipIpv6Extensions]
      split_ifs with ends short
      · rfl
      · rfl
      · rw [checkedByte_inside (by omega), checked_bind]
        dsimp only
        split_ifs with refused
        · rfl
        · rw [checkedByte_inside (by omega), checked_bind]
          exact inductionHypothesis _ _

theorem checkedFindIpv6Transport_eq (inside : packetLen ≤ packet.length) (nextHeader : UInt8) :
    checkedFindIpv6Transport packet packetLen offset nextHeader =
      some (findIpv6Transport packet packetLen offset nextHeader) := by
  rw [checkedFindIpv6Transport, findIpv6Transport, checkedSkipIpv6Extensions_eq offset inside,
    checked_bind]
  generalize skipIpv6Extensions packet packetLen (packetLen + 1) nextHeader offset = result
  split_ifs with unreachable fragment whole other
  · rfl
  · rw [checkedByte_inside (by omega)]
    rfl
  · rfl
  · rfl
  · rfl

theorem checkedParseIpv6Packet_eq (inside : packetLen ≤ packet.length) :
    checkedParseIpv6Packet payloadDecodeLimit packet packetLen offset info =
      some (parseIpv6Packet payloadDecodeLimit packet packetLen offset info) := by
  have least : ipv6HeaderLen = 40 := rfl
  rw [checkedParseIpv6Packet, parseIpv6Packet]
  by_cases short : packetLen < offset + ipv6HeaderLen
  · rw [if_pos short, if_pos short]
  · rw [if_neg short, if_neg short, checkedByte_inside (by omega), checked_bind]
    by_cases otherVersion : byteAt packet offset >>> 4 ≠ 6
    · rw [if_pos otherVersion, if_pos otherVersion]
      rfl
    · rw [if_neg otherVersion, if_neg otherVersion, checkedU16_inside (by omega),
        checked_bind]
      dsimp only
      rw [checkedByte_inside (by omega), checked_bind, checkedBytes_inside (by omega),
        checked_bind, checkedBytes_inside (by omega), checked_bind,
        checkedFindIpv6Transport_eq _ (by omega), checked_bind]
      split_ifs with unreachable
      · rfl
      · unfold checkedParseIpv6Transport
        have narrowed : offset + min (packetLen - offset)
            (ipv6HeaderLen + (readU16 packet (offset + 4)).toNat) ≤ packet.length := by omega
        generalize clearTransportPorts _ = parsed
        cases parsed.protocol with
        | tcp =>
            simp only [checkedParseTcpPorts_eq _ _ narrowed,
              checkedParseTcpSequenceAndFlags_eq _ _ narrowed,
              checkedParseTcpPayload_eq _ _ _ narrowed, checked_bind]
        | udp =>
            simp only [checkedParseUdpPorts_eq _ _ narrowed,
              checkedParseUdpPayload_eq _ _ _ narrowed, checked_bind]
        | icmp => exact checkedParseIcmpPayload_eq payloadDecodeLimit _ _ narrowed
        | arp => rfl
        | other => rfl

theorem checkedSelectByEthertype_eq {headerLen ethertypeOffset : Nat}
    (inside : packetLen ≤ packet.length) (within : ethertypeOffset + 1 < headerLen) :
    checkedSelectByEthertype packet packetLen headerLen ethertypeOffset =
      some (selectByEthertype packet packetLen headerLen ethertypeOffset) := by
  rw [checkedSelectByEthertype, selectByEthertype]
  split_ifs with short
  · rfl
  · rw [checkedU16_inside (by omega)]
    rfl

theorem checkedInferRawIpNetwork_eq (inside : packetLen ≤ packet.length) :
    checkedInferRawIpNetwork packet packetLen = some (inferRawIpNetwork packet packetLen) := by
  rw [checkedInferRawIpNetwork, inferRawIpNetwork]
  split_ifs with empty four six
  · rfl
  · rw [checkedByte_inside (by omega), checked_bind, if_pos four]
    rfl
  · rw [checkedByte_inside (by omega), checked_bind, if_neg four,
      if_pos six]
    rfl
  · rw [checkedByte_inside (by omega), checked_bind, if_neg four,
      if_neg six]
    rfl

theorem checkedSelectNetworkLayer_eq (inside : packetLen ≤ packet.length)
    (datalinkType : Datalink) :
    checkedSelectNetworkLayer packet packetLen datalinkType =
      some (selectNetworkLayer packet packetLen datalinkType) := by
  unfold checkedSelectNetworkLayer selectNetworkLayer
  by_cases empty : packetLen = 0
  · rw [if_pos empty, if_pos empty]
  · rw [if_neg empty, if_neg empty]
    cases datalinkType with
    | en10mb => exact checkedSelectByEthertype_eq inside (by decide)
    | linuxSll => exact checkedSelectByEthertype_eq inside (by decide)
    | linuxSll2 => exact checkedSelectByEthertype_eq inside (by decide)
    | raw =>
        simp only [checkedInferRawIpNetwork_eq inside]
        rfl
    | ipv4 => rfl
    | ipv6 => rfl
    | other => rfl
    | null | loop =>
        dsimp only
        split_ifs with short
        · rfl
        · rw [checkedBytes_inside (by omega), List.drop_zero, checked_bind,
            networkFromNullFamily_take le_rfl]
          rfl

/-- The parser with checked reads is the parser: every read is inside the packet. -/
theorem checkedParsePacketWithDatalink_eq (packet : List UInt8) (datalinkType : Datalink) :
    checkedParsePacketWithDatalink payloadDecodeLimit packet datalinkType =
      some (parserParsePacketWithDatalink payloadDecodeLimit packet datalinkType) := by
  rw [checkedParsePacketWithDatalink, parserParsePacketWithDatalink,
    checkedSelectNetworkLayer_eq le_rfl, checked_bind]
  rcases selectNetworkLayer packet packet.length datalinkType with ⟨offset, network⟩
  cases network with
  | unknown => rfl
  | ipv4 => exact checkedParseIpv4Packet_eq payloadDecodeLimit offset _ le_rfl
  | ipv6 => exact checkedParseIpv6Packet_eq payloadDecodeLimit offset _ le_rfl
  | arp => exact checkedParseArpPacket_eq offset _ le_rfl

end Parser

end MiniSniffer
