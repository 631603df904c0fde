import MiniSniffer.Parser.ExtensionChain

/-!
Contract: IP packets as a sender builds them, and what the parser reads in them (`src/parser.c`).

Owns TCP, UDP and ICMP segments with every field of their headers, IPv4 packets with options and
IPv6 packets with a chain of extension headers around them, ARP packets, and the whole record that
the parser makes of each in every framing, whatever pads the frame behind it.

Does not own fragments and captures cut short: see `Parser.CapturedFrame`.
-/

namespace MiniSniffer

open Foundation

/-! ### Segments -/

/-- A TCP segment; `trailing` is the window, the checksum and the urgent pointer. -/
structure WireTcp where
  srcPort : UInt16
  dstPort : UInt16
  sequence : UInt32
  acknowledgment : UInt32
  reserved : Fin 16
  flags : UInt8
  trailing : List UInt8
  trailingSized : trailing.length = 6
  optionWords : Fin 11
  options : List UInt8
  optionsSized : options.length = optionWords * 4
  payload : List UInt8

/-- A UDP datagram whose length is its own. -/
structure WireUdp where
  srcPort : UInt16
  dstPort : UInt16
  checksum : UInt16
  payload : List UInt8
  fits : payload.length + 8 < 65536

/-- An ICMP message; `trailing` is the checksum and the rest of the header. -/
structure WireIcmp where
  icmpType : UInt8
  icmpCode : UInt8
  trailing : List UInt8
  trailingSized : trailing.length = 6
  payload : List UInt8

inductive Segment where
  | tcp (segment : WireTcp)
  | udp (datagram : WireUdp)
  | icmp (message : WireIcmp)

/-- The low half of the data offset's byte is reserved. -/
def WireTcp.offsetByte (segment : WireTcp) : UInt8 :=
  UInt8.ofNat ((5 + segment.optionWords) * 16 + segment.reserved)

def WireTcp.header (segment : WireTcp) : List UInt8 :=
  encodeU16 segment.srcPort ++ encodeU16 segment.dstPort ++ encodeU32 segment.sequence ++
    encodeU32 segment.acknowledgment ++ [segment.offsetByte, segment.flags] ++ segment.trailing ++
    segment.options

def WireUdp.header (datagram : WireUdp) : List UInt8 :=
  encodeU16 datagram.srcPort ++ encodeU16 datagram.dstPort ++
    encodeU16 (UInt16.ofNat (datagram.payload.length + 8)) ++ encodeU16 datagram.checksum

def WireIcmp.header (message : WireIcmp) : List UInt8 :=
  [message.icmpType, message.icmpCode] ++ message.trailing

namespace Segment

def header : Segment → List UInt8
  | .tcp segment => segment.header
  | .udp datagram => datagram.header
  | .icmp message => message.header

def payload : Segment → List UInt8
  | .tcp segment => segment.payload
  | .udp datagram => datagram.payload
  | .icmp message => message.payload

def encode (segment : Segment) : List UInt8 := segment.header ++ segment.payload

def protocol : Segment → Protocol
  | .tcp _ => .tcp
  | .udp _ => .udp
  | .icmp _ => .icmp

def ipv4Number : Segment → UInt8
  | .tcp _ => ipv4ProtocolTcp
  | .udp _ => ipv4ProtocolUdp
  | .icmp _ => ipv4ProtocolIcmp

def ipv6Transport : Segment → Ipv6Transport
  | .tcp _ => .tcp
  | .udp _ => .udp
  | .icmp _ => .icmpv6

end Segment

/-- A packet that carries a payload from an offset on, if it carries one. -/
def PacketInfo.withPayload (info : PacketInfo) (payloadDecodeLimit offset : Nat)
    (payload : List UInt8) : PacketInfo :=
  if payload = [] then info
  else
    { info with
      hasPayload := true
      payload := some { offset := offset, bytes := payload }
      payloadDecodeLength := min payload.length payloadDecodeLimit
      payloadPreview := payload.take minisnifferMaxPayloadPreviewBytes }

/-- A packet with what its segment's header says. -/
def PacketInfo.withHeader (info : PacketInfo) : Segment → PacketInfo
  | .tcp segment =>
      { info with
        srcPort := segment.srcPort
        dstPort := segment.dstPort
        hasPorts := true
        tcpSequence := segment.sequence
        tcpFlags := segment.flags &&& 0x3f
        hasTcpSequence := true }
  | .udp datagram =>
      { info with
        srcPort := datagram.srcPort
        dstPort := datagram.dstPort
        hasPorts := true }
  | .icmp message =>
      { info with
        hasIcmp := true
        icmpType := message.icmpType
        icmpCode := message.icmpCode }

/-- A packet with all of its segment. -/
def PacketInfo.withSegment (info : PacketInfo) (payloadDecodeLimit : Nat) (segment : Segment) :
    PacketInfo :=
  (info.withHeader segment).withPayload payloadDecodeLimit segment.header.length segment.payload

section Segments

variable {payloadDecodeLimit : Nat} {info : PacketInfo}

theorem WireTcp.length_header (segment : WireTcp) :
    segment.header.length = 20 + segment.optionWords * 4 := by
  simp only [WireTcp.header, List.length_append, length_encodeU16, length_encodeU32,
    segment.trailingSized, segment.optionsSized, List.length_cons, List.length_nil]

theorem WireUdp.length_header (datagram : WireUdp) : datagram.header.length = 8 := rfl

theorem WireIcmp.length_header (message : WireIcmp) : message.header.length = 8 := by
  simp [WireIcmp.header, message.trailingSized]

/-- The data offset counts four-byte words. -/
theorem WireTcp.offsetByte_words (segment : WireTcp) :
    (segment.offsetByte >>> 4).toNat * 4 = 20 + segment.optionWords * 4 := by
  have each : ∀ (words : Fin 11) (reserved : Fin 16),
      (UInt8.ofNat ((5 + words) * 16 + reserved) >>> 4).toNat * 4 = 20 + words * 4 := by
    decide +kernel
  exact each segment.optionWords segment.reserved

/-- The fields of a TCP header, where the parser reads them. -/
structure WireTcp.Reads (segment : WireTcp) (data : List UInt8) : Prop where
  srcPort_eq : readU16 data 0 = segment.srcPort
  dstPort_eq : readU16 data 2 = segment.dstPort
  sequence_eq : readU32 data 4 = segment.sequence
  offset_eq : byteAt data 12 = segment.offsetByte
  flags_eq : byteAt data 13 = segment.flags

theorem WireTcp.reads_header (segment : WireTcp) (rest : List UInt8) :
    segment.Reads (segment.header ++ rest) := by
  have whole : HoldsAt (segment.header ++ rest) 0 segment.header := holdsAt_zero.mpr ⟨rest, rfl⟩
  obtain ⟨whole, -⟩ := holdsAt_append.mp whole
  obtain ⟨whole, -⟩ := holdsAt_append.mp whole
  obtain ⟨whole, bytes⟩ := holdsAt_append.mp whole
  obtain ⟨whole, -⟩ := holdsAt_append.mp whole
  obtain ⟨whole, sequence⟩ := holdsAt_append.mp whole
  obtain ⟨srcPort, dstPort⟩ := holdsAt_append.mp whole
  simp only [List.length_append, length_encodeU16, length_encodeU32, Nat.zero_add,
    Nat.reduceAdd] at dstPort sequence bytes
  rw [holdsAt_cons, holdsAt_byte] at bytes
  exact ⟨(holdsAt_u16.mp srcPort).2, (holdsAt_u16.mp dstPort).2, readU32_of_holdsAt sequence,
    bytes.1.2, bytes.2.2⟩

/-- The fields of a UDP header, where the parser reads them. -/
structure WireUdp.Reads (datagram : WireUdp) (data : List UInt8) : Prop where
  srcPort_eq : readU16 data 0 = datagram.srcPort
  dstPort_eq : readU16 data 2 = datagram.dstPort
  length_eq : (readU16 data 4).toNat = datagram.payload.length + 8

theorem WireUdp.reads_header (datagram : WireUdp) (rest : List UInt8) :
    datagram.Reads (datagram.header ++ rest) := by
  have whole : HoldsAt (datagram.header ++ rest) 0 datagram.header := holdsAt_zero.mpr ⟨rest, rfl⟩
  obtain ⟨whole, -⟩ := holdsAt_append.mp whole
  obtain ⟨whole, length⟩ := holdsAt_append.mp whole
  obtain ⟨srcPort, dstPort⟩ := holdsAt_append.mp whole
  simp only [List.length_append, length_encodeU16, Nat.zero_add, Nat.reduceAdd] at dstPort length
  refine ⟨(holdsAt_u16.mp srcPort).2, (holdsAt_u16.mp dstPort).2, ?_⟩
  rw [(holdsAt_u16.mp length).2, UInt16.toNat_ofNat_of_lt' datagram.fits]

/-- A payload behind its header is found whole, and nothing behind it is. -/
theorem parsePayload_behind (front payload rest : List UInt8) (info : PacketInfo) :
    parsePayload payloadDecodeLimit (front ++ payload ++ rest) (front.length + payload.length)
        front.length info =
      info.withPayload payloadDecodeLimit front.length payload := by
  have cut : ∀ count, ((front ++ payload ++ rest).drop front.length).take (min payload.length
      count) = payload.take count := by
    intro count
    rw [List.append_assoc, List.drop_left, List.take_append_of_le_length (Nat.min_le_left _ _),
      ← List.take_take, List.take_of_length_le (by
        rw [List.length_take]
        exact Nat.min_le_right _ _)]
  have all := cut payload.length
  rw [Nat.min_self, List.take_length] at all
  rw [parsePayload, PacketInfo.withPayload, Nat.add_sub_cancel_left, cut, all]
  by_cases empty : payload = []
  · rw [if_pos empty, if_pos (by simp [empty])]
  · have positive := List.length_pos_iff.mpr empty
    rw [if_neg empty, if_neg (by omega)]

theorem parseTcp_behind (segment : WireTcp) (rest : List UInt8)
    (length : Nat) (sized : length = segment.header.length + segment.payload.length) :
    parseTcpPayload payloadDecodeLimit (segment.header ++ segment.payload ++ rest) length 0
        (parseTcpSequenceAndFlags (segment.header ++ segment.payload ++ rest) length 0
          (parseTcpPorts (segment.header ++ segment.payload ++ rest) length 0 info)) =
      info.withSegment payloadDecodeLimit (.tcp segment) := by
  have header := segment.length_header
  have reads := segment.reads_header (segment.payload ++ rest)
  rw [← List.append_assoc] at reads
  have long : ¬ length < 0 + tcpMinHeaderLen := by
    rw [tcpMinHeaderLen]
    omega
  have payload := @parsePayload_behind payloadDecodeLimit segment.header segment.payload rest
    (info.withHeader (.tcp segment))
  rw [parseTcpPorts, if_neg long, parseTcpSequenceAndFlags, if_neg long, parseTcpPayload,
    if_neg long]
  simp only [Nat.zero_add, reads.srcPort_eq, reads.dstPort_eq, reads.sequence_eq, reads.flags_eq,
    reads.offset_eq, segment.offsetByte_words]
  rw [if_neg (by rw [tcpMinHeaderLen]; omega), if_neg (by omega), ← header, sized]
  exact payload

theorem parseUdp_behind (datagram : WireUdp) (rest : List UInt8)
    (length : Nat) (sized : length = datagram.header.length + datagram.payload.length) :
    parseUdpPayload payloadDecodeLimit (datagram.header ++ datagram.payload ++ rest) length 0
        (parseUdpPorts (datagram.header ++ datagram.payload ++ rest) length 0 info) =
      info.withSegment payloadDecodeLimit (.udp datagram) := by
  have header := datagram.length_header
  have reads := datagram.reads_header (datagram.payload ++ rest)
  rw [← List.append_assoc] at reads
  have long : ¬ length < 0 + udpHeaderLen := by
    rw [udpHeaderLen]
    omega
  have payload := @parsePayload_behind payloadDecodeLimit datagram.header datagram.payload rest
    (info.withHeader (.udp datagram))
  rw [parseUdpPorts, if_neg long, parseUdpPayload, if_neg long]
  simp only [Nat.zero_add, reads.srcPort_eq, reads.dstPort_eq, reads.length_eq]
  have small : ¬ datagram.payload.length + 8 < udpHeaderLen := by
    rw [udpHeaderLen]
    omega
  rw [if_neg small, if_neg small, if_neg (by omega), if_neg (by omega), sized]
  exact payload

theorem parseIcmp_behind (message : WireIcmp) (rest : List UInt8)
    (length : Nat) (sized : length = message.header.length + message.payload.length) :
    parseIcmpPayload payloadDecodeLimit (message.header ++ message.payload ++ rest) length 0
        info =
      info.withSegment payloadDecodeLimit (.icmp message) := by
  have header := message.length_header
  have payload := @parsePayload_behind payloadDecodeLimit message.header message.payload rest
    (info.withHeader (.icmp message))
  have icmpType : byteAt (message.header ++ message.payload ++ rest) 0 = message.icmpType := rfl
  have icmpCode : byteAt (message.header ++ message.payload ++ rest) (0 + 1) =
      message.icmpCode := rfl
  have place : 0 + icmpHeaderLen = message.header.length := by
    rw [header]
    rfl
  rw [parseIcmpPayload, if_neg (by rw [icmpHeaderLen]; omega), icmpType, icmpCode, place, sized]
  exact payload

/-- A segment is read whole, whatever follows it, into a record of its protocol. -/
theorem parseIpv4Transport_segment (segment : Segment) (rest : List UInt8) (noPorts :
    clearTransportPorts info = info) (protocol : info.protocol = segment.protocol) :
    parseIpv4Transport payloadDecodeLimit (segment.encode ++ rest) segment.encode.length 0 info =
      info.withSegment payloadDecodeLimit segment := by
  have sized : segment.encode.length = segment.header.length + segment.payload.length :=
    List.length_append
  rw [parseIpv4Transport, protocol]
  cases segment with
  | tcp segment => exact parseTcp_behind segment rest _ sized
  | udp datagram => exact parseUdp_behind datagram rest _ sized
  | icmp message =>
      simp only [Segment.protocol]
      rw [noPorts]
      exact parseIcmp_behind message rest _ sized

theorem parseIpv6Transport_segment (segment : Segment) (rest : List UInt8) (number : UInt8)
    (protocol : info.protocol = segment.protocol) :
    parseIpv6Transport payloadDecodeLimit (segment.encode ++ rest) segment.encode.length
        ⟨number, 0, true⟩ info =
      info.withSegment payloadDecodeLimit segment := by
  have sized : segment.encode.length = segment.header.length + segment.payload.length :=
    List.length_append
  rw [parseIpv6Transport, if_neg (by simp), protocol]
  cases segment with
  | tcp segment => exact parseTcp_behind segment rest _ sized
  | udp datagram => exact parseUdp_behind datagram rest _ sized
  | icmp message => exact parseIcmp_behind message rest _ sized

end Segments

/-! ### IPv4 -/

/-- An IPv4 header with its options. -/
structure Ipv4Header where
  typeOfService : UInt8
  identification : UInt16
  reserved : Bool
  dontFragment : Bool
  timeToLive : UInt8
  checksum : UInt16
  source : List UInt8
  sourceSized : source.length = 4
  destination : List UInt8
  destinationSized : destination.length = 4
  optionWords : Fin 11
  options : List UInt8
  optionsSized : options.length = optionWords * 4

namespace Ipv4Header

/-- The flags that are left when the packet is no fragment. -/
def fragmentWord (header : Ipv4Header) : UInt16 :=
  (if header.reserved then 0x8000 else 0) ||| if header.dontFragment then 0x4000 else 0

def versionAndLength (header : Ipv4Header) : UInt8 := UInt8.ofNat (64 + 5 + header.optionWords)

/-- The header in front of `payloadLength` bytes, under a fragment field. -/
def encodeWith (header : Ipv4Header) (number : UInt8) (payloadLength : Nat)
    (fragmentField : UInt16) : List UInt8 :=
  [header.versionAndLength, header.typeOfService] ++
    encodeU16 (UInt16.ofNat (20 + header.optionWords * 4 + payloadLength)) ++
    encodeU16 header.identification ++ encodeU16 fragmentField ++ [header.timeToLive, number] ++
    encodeU16 header.checksum ++ header.source ++ header.destination ++ header.options

def encode (header : Ipv4Header) (number : UInt8) (payloadLength : Nat) : List UInt8 :=
  header.encodeWith number payloadLength header.fragmentWord

/-- What the parser reports of the header, as if the packet began with its payload. `size` counts
the bytes from the payload on. -/
def metadata (header : Ipv4Header) (number : UInt8) (fragmentField : UInt16) (size : Nat)
    (payload : List UInt8) : PacketInfo where
  size := size
  srcIp := .ipv4 header.source
  dstIp := .ipv4 header.destination
  protocol := ipv4ProtocolOf number
  ipVersion := 4
  ipv4ProtocolNumber := number
  ipv4FragmentPayload := some { offset := 0, bytes := payload }
  ipv4Identification := header.identification
  ipv4Header := header.encodeWith number payload.length fragmentField
  ipv4FragmentOffset := (fragmentField &&& ipv4FragmentOffsetMask).toNat * 8
  ipv4MoreFragments := fragmentField &&& ipv4MoreFragmentsFlag ≠ 0

variable (header : Ipv4Header) (number : UInt8) (payloadLength : Nat) (fragmentField : UInt16)
variable (rest : List UInt8)

theorem length_encodeWith :
    (header.encodeWith number payloadLength fragmentField).length =
      20 + header.optionWords * 4 := by
  simp only [Ipv4Header.encodeWith, List.length_append, length_encodeU16, header.sourceSized,
    header.destinationSized, header.optionsSized, List.length_cons, List.length_nil]

theorem versionAndLength_spec : header.versionAndLength >>> 4 = 4 ∧
    (header.versionAndLength &&& 0x0f).toNat * 4 = 20 + header.optionWords * 4 := by
  have each : ∀ words : Fin 11, UInt8.ofNat (64 + 5 + words) >>> 4 = 4 ∧
      (UInt8.ofNat (64 + 5 + words) &&& 0x0f).toNat * 4 = 20 + words * 4 := by
    decide +kernel
  exact each header.optionWords

theorem fragmentWord_spec :
    header.fragmentWord &&& (ipv4FragmentOffsetMask ||| ipv4MoreFragmentsFlag) = 0 ∧
      header.fragmentWord &&& ipv4FragmentOffsetMask = 0 ∧
      header.fragmentWord &&& ipv4MoreFragmentsFlag = 0 := by
  unfold fragmentWord
  cases header.reserved <;> cases header.dontFragment <;> decide

/-- The fields of the header, where the parser reads them. -/
structure Reads (data : List UInt8) : Prop where
  versionAndLength_eq : byteAt data 0 = header.versionAndLength
  totalLength_eq : readU16 data 2 = UInt16.ofNat (20 + header.optionWords * 4 + payloadLength)
  identification_eq : readU16 data 4 = header.identification
  fragmentField_eq : readU16 data 6 = fragmentField
  number_eq : byteAt data 9 = number
  source_eq : (data.drop 12).take 4 = header.source
  destination_eq : (data.drop 16).take 4 = header.destination

theorem reads_encodeWith :
    header.Reads number payloadLength fragmentField
      (header.encodeWith number payloadLength fragmentField ++ rest) := by
  have whole : HoldsAt (header.encodeWith number payloadLength fragmentField ++ rest) 0
      (header.encodeWith number payloadLength fragmentField) := holdsAt_zero.mpr ⟨rest, rfl⟩
  obtain ⟨whole, -⟩ := holdsAt_append.mp whole
  obtain ⟨whole, destination⟩ := holdsAt_append.mp whole
  obtain ⟨whole, source⟩ := holdsAt_append.mp whole
  obtain ⟨whole, -⟩ := holdsAt_append.mp whole
  obtain ⟨whole, bytes⟩ := holdsAt_append.mp whole
  obtain ⟨whole, fragment⟩ := holdsAt_append.mp whole
  obtain ⟨whole, identification⟩ := holdsAt_append.mp whole
  obtain ⟨first, totalLength⟩ := holdsAt_append.mp whole
  simp only [List.length_append, length_encodeU16, header.sourceSized, List.length_cons,
    List.length_nil, Nat.zero_add,
    Nat.reduceAdd] at destination source bytes fragment identification totalLength
  rw [holdsAt_cons, holdsAt_byte] at first bytes
  refine ⟨first.1.2, (holdsAt_u16.mp totalLength).2, (holdsAt_u16.mp identification).2,
    (holdsAt_u16.mp fragment).2, bytes.2.2, ?_, ?_⟩
  · rw [← header.sourceSized]
    exact holdsAt_iff_slice.mp source
  · rw [← header.destinationSized]
    exact holdsAt_iff_slice.mp destination

/-- The version stands first. -/
theorem encodeWith_version :
    byteAt (header.encodeWith number payloadLength fragmentField ++ rest) 0 >>> 4 = 4 := by
  rw [(header.reads_encodeWith number payloadLength fragmentField rest).versionAndLength_eq]
  exact header.versionAndLength_spec.1

end Ipv4Header

section Ipv4

variable (payloadDecodeLimit : Nat) (header : Ipv4Header) {number : UInt8}
variable {fragmentField : UInt16} {front payload : List UInt8} (padding : List UInt8)

theorem ipv4Metadata_encodeWith
    (encoded : front = header.encodeWith number payload.length fragmentField) :
    ipv4Metadata (front ++ (payload ++ padding)) (front.length + payload.length) 0 front.length
        (initializePacketInfo (front ++ (payload ++ padding)).length) =
      (header.metadata number fragmentField (payload.length + padding.length) payload).relocate
        front.length := by
  have reads := header.reads_encodeWith number payload.length fragmentField (payload ++ padding)
  have body : (List.drop front.length (front ++ (payload ++ padding))).take payload.length =
      payload := by
    rw [List.drop_left, List.take_left]
  have head : (front ++ (payload ++ padding)).take front.length = front := List.take_left
  have protocol : ∀ info : PacketInfo, setIpv4Protocol number info =
      { info with protocol := ipv4ProtocolOf number } := by
    intro info
    unfold setIpv4Protocol ipv4ProtocolOf
    split_ifs <;> rfl
  rw [← encoded] at reads
  simp only [ipv4Metadata, Nat.zero_add, reads.number_eq, reads.source_eq, reads.destination_eq,
    reads.identification_eq, reads.fragmentField_eq, protocol, Nat.add_sub_cancel_left,
    List.drop_zero, body, head, List.length_append]
  rw [if_pos (Nat.le_add_right _ _), encoded]
  rfl

/-- A packet under its header is a fragment by its fragment field, or else is parsed on. -/
theorem parseIpv4Packet_encodeWith
    (fits : 20 + header.optionWords * 4 + payload.length < 65536)
    (encoded : front = header.encodeWith number payload.length fragmentField) :
    parseIpv4Packet payloadDecodeLimit (front ++ (payload ++ padding))
        (front ++ (payload ++ padding)).length 0
        (initializePacketInfo (front ++ (payload ++ padding)).length) =
      (let info := header.metadata number fragmentField (payload.length + padding.length) payload
        if fragmentField &&& (ipv4FragmentOffsetMask ||| ipv4MoreFragmentsFlag) ≠ 0 then
          { info with isIpv4Fragment := true }
        else parseIpv4Transport payloadDecodeLimit (payload ++ padding) payload.length 0
          info).relocate front.length := by
  have metadata := ipv4Metadata_encodeWith header padding encoded
  have reads := header.reads_encodeWith number payload.length fragmentField (payload ++ padding)
  have sized := header.length_encodeWith number payload.length fragmentField
  rw [← encoded] at reads sized
  have total : (UInt16.ofNat (20 + header.optionWords * 4 + payload.length)).toNat =
      front.length + payload.length := by
    rw [UInt16.toNat_ofNat_of_lt' fits, sized]
  have captured : (front ++ (payload ++ padding)).length =
      front.length + (payload.length + padding.length) := by
    rw [List.length_append, List.length_append]
  have parsedLen : min (front ++ (payload ++ padding)).length (front.length + payload.length) =
      front.length + payload.length := by
    omega
  have version := header.versionAndLength_spec
  rw [← sized] at version
  have minimum : ipv4MinHeaderLen = 20 := rfl
  rw [parseIpv4Packet, if_neg (by omega)]
  simp only [Nat.zero_add, Nat.sub_zero, reads.versionAndLength_eq, version, reads.totalLength_eq,
    total, reads.fragmentField_eq, parsedLen, metadata]
  rw [if_neg (by simp; omega), if_neg (by omega), if_neg (by omega)]
  split_ifs
  · rfl
  · exact parseIpv4Transport_relocate front (payload ++ padding) payloadDecodeLimit payload.length 0
      _

end Ipv4

/-! ### Packets -/

/-- An IPv4 packet, or an IPv6 packet with its extension headers, whose lengths are its own. -/
inductive IpPacket where
  | v4 (header : Ipv4Header) (segment : Segment)
      (fits : 20 + header.optionWords * 4 + segment.encode.length < 65536)
  | v6 (fixed : Ipv6Fixed) (chain : List ExtensionHeader) (segment : Segment)
      (fits : (chainBytes chain segment.ipv6Transport.number).length + segment.encode.length <
        65536)

namespace IpPacket

def version : IpPacket → IpVersion
  | .v4 _ _ _ => .v4
  | .v6 _ _ _ _ => .v6

def segment : IpPacket → Segment
  | .v4 _ segment _ => segment
  | .v6 _ _ segment _ => segment

/-- The bytes in front of the segment. -/
def front : IpPacket → List UInt8
  | .v4 header segment _ => header.encode segment.ipv4Number segment.encode.length
  | .v6 fixed chain segment _ =>
      fixed.encode (UInt16.ofNat ((chainBytes chain segment.ipv6Transport.number).length +
        segment.encode.length)) (firstKind chain segment.ipv6Transport.number) ++
        chainBytes chain segment.ipv6Transport.number

def encode (packet : IpPacket) : List UInt8 := packet.front ++ packet.segment.encode

/-- What the parser reports of the bytes in front of the segment, as if it began there. `size`
counts the bytes from the segment on. -/
def envelope (size : Nat) : IpPacket → PacketInfo
  | .v4 header segment _ =>
      { size := size
        srcIp := .ipv4 header.source
        dstIp := .ipv4 header.destination
        protocol := segment.protocol
        ipVersion := 4
        ipv4ProtocolNumber := segment.ipv4Number
        ipv4FragmentPayload := some { offset := 0, bytes := segment.encode }
        ipv4Identification := header.identification
        ipv4Header := header.encode segment.ipv4Number segment.encode.length }
  | .v6 fixed _ segment _ =>
      { size := size
        srcIp := .ipv6 fixed.source
        dstIp := .ipv6 fixed.destination
        protocol := segment.protocol
        ipVersion := 6 }

/-- What the parser reports of a packet with `padding` bytes behind it. -/
def info (packet : IpPacket) (payloadDecodeLimit padding : Nat) : PacketInfo :=
  ((packet.envelope (packet.segment.encode.length + padding)).withSegment payloadDecodeLimit
    packet.segment).relocate packet.front.length

end IpPacket

/-- The ways in which a packet of a version is announced. -/
inductive IpFraming (version : IpVersion) where
  | raw
  | ip
  | link (header : LinkHeader version)

namespace IpFraming

variable {version : IpVersion}

def bytes : IpFraming version → List UInt8
  | .raw => []
  | .ip => []
  | .link header => header.bytes

def datalink : IpFraming version → Datalink
  | .raw => .raw
  | .ip => match version with
      | .v4 => .ipv4
      | .v6 => .ipv6
  | .link header => header.datalink

end IpFraming

section Packets

variable (payloadDecodeLimit : Nat)

/-- The parser of a version. -/
def parseVersion (version : IpVersion) (packet : List UInt8) (packetLen ipOffset : Nat)
    (info : PacketInfo) : PacketInfo :=
  match version with
  | .v4 => parseIpv4Packet payloadDecodeLimit packet packetLen ipOffset info
  | .v6 => parseIpv6Packet payloadDecodeLimit packet packetLen ipOffset info

/-- However a packet is announced, it is parsed where it begins. -/
theorem IpFraming.parse_eq {version : IpVersion} (framing : IpFraming version)
    {packet : List UInt8} (announced : byteAt packet 0 >>> 4 = version.nibble) :
    parserParsePacketWithDatalink payloadDecodeLimit (framing.bytes ++ packet) framing.datalink =
      (parseVersion payloadDecodeLimit version packet packet.length 0
        (initializePacketInfo packet.length)).relocate framing.bytes.length := by
  have someByte : packet.length ≠ 0 := by
    intro empty
    rw [List.eq_nil_of_length_eq_zero empty] at announced
    cases version <;> contradiction
  cases framing with
  | raw =>
      show parserParsePacketWithDatalink payloadDecodeLimit packet .raw = PacketInfo.relocate 0 _
      rw [PacketInfo.relocate_zero, parserParsePacketWithDatalink, selectNetworkLayer_raw announced]
      cases version <;> rfl
  | ip =>
      show parserParsePacketWithDatalink payloadDecodeLimit packet _ = PacketInfo.relocate 0 _
      rw [PacketInfo.relocate_zero]
      cases version with
      | v4 =>
          rw [IpFraming.datalink, parserParsePacketWithDatalink, selectNetworkLayer,
            if_neg someByte]
          rfl
      | v6 =>
          rw [IpFraming.datalink, parserParsePacketWithDatalink, selectNetworkLayer,
            if_neg someByte]
          rfl
  | link header =>
      show parserParsePacketWithDatalink payloadDecodeLimit (header.bytes ++ packet)
        header.datalink = PacketInfo.relocate header.bytes.length _
      rw [parserParsePacketWithDatalink, header.selectNetworkLayer_bytes,
        initializePacketInfo_append, List.length_append]
      cases version with
      | v4 => exact parseIpv4Packet_relocate header.bytes packet payloadDecodeLimit _ 0 _
      | v6 => exact parseIpv6Packet_relocate header.bytes packet payloadDecodeLimit _ 0 _

theorem Segment.ipv4Number_protocol (segment : Segment) :
    ipv4ProtocolOf segment.ipv4Number = segment.protocol := by
  cases segment <;> rfl

/-- The envelope of an IPv4 packet is its header's metadata. -/
theorem IpPacket.envelope_v4 (header : Ipv4Header) (segment : Segment)
    (fits : 20 + header.optionWords * 4 + segment.encode.length < 65536) (size : Nat) :
    header.metadata segment.ipv4Number header.fragmentWord size segment.encode =
      (IpPacket.v4 header segment fits).envelope size := by
  rw [Ipv4Header.metadata, header.fragmentWord_spec.2.1, header.fragmentWord_spec.2.2,
    segment.ipv4Number_protocol]
  rfl

/-- An IPv4 packet is read whole. -/
theorem parseIpv4Packet_encode (header : Ipv4Header) (segment : Segment) (padding : List UInt8)
    (fits : 20 + header.optionWords * 4 + segment.encode.length < 65536) {front : List UInt8}
    (encoded : front = header.encode segment.ipv4Number segment.encode.length) :
    parseIpv4Packet payloadDecodeLimit (front ++ (segment.encode ++ padding))
        (front ++ (segment.encode ++ padding)).length 0
        (initializePacketInfo (front ++ (segment.encode ++ padding)).length) =
      (((IpPacket.v4 header segment fits).envelope
        (segment.encode.length + padding.length)).withSegment payloadDecodeLimit
          segment).relocate front.length := by
  have read := @parseIpv4Transport_segment payloadDecodeLimit
    ((IpPacket.v4 header segment fits).envelope (segment.encode.length + padding.length)) segment
    padding rfl rfl
  rw [parseIpv4Packet_encodeWith payloadDecodeLimit header padding fits encoded,
    header.fragmentWord_spec.1, IpPacket.envelope_v4 header segment fits, ← read]
  rfl

/-- However it is announced and whatever pads it, a packet is read field by field as it was
built. -/
theorem parser_reads_packet (packet : IpPacket) (framing : IpFraming packet.version)
    (padding : List UInt8) :
    parserParsePacketWithDatalink payloadDecodeLimit
        (framing.bytes ++ (packet.encode ++ padding)) framing.datalink =
      (packet.info payloadDecodeLimit padding.length).relocate framing.bytes.length := by
  cases packet with
  | v4 header segment fits =>
      have announced := header.encodeWith_version segment.ipv4Number segment.encode.length
        header.fragmentWord (segment.encode ++ padding)
      have read := parseIpv4Packet_encode payloadDecodeLimit header segment padding fits rfl
      have same : (IpPacket.v4 header segment fits).encode ++ padding =
          header.encodeWith segment.ipv4Number segment.encode.length header.fragmentWord ++
            (segment.encode ++ padding) := List.append_assoc _ _ _
      rw [same]
      rw [framing.parse_eq payloadDecodeLimit announced]
      exact congrArg _ read
  | v6 fixed chain segment fits =>
      have same : (IpPacket.v6 fixed chain segment fits).encode ++ padding =
          fixed.carrying chain segment.ipv6Transport segment.encode.length
            (segment.encode ++ padding) := by
        simp only [IpPacket.encode, IpPacket.front, IpPacket.segment, Ipv6Fixed.carrying,
          Ipv6Fixed.packet, List.append_assoc]
      have announced : byteAt (fixed.carrying chain segment.ipv6Transport segment.encode.length
          (segment.encode ++ padding)) 0 >>> 4 = IpVersion.nibble .v6 := fixed.packet_version _ _
      have envelope : fixed.metadata segment.ipv6Transport.number
          (segment.encode.length + padding.length) =
          (IpPacket.v6 fixed chain segment fits).envelope
            (segment.encode.length + padding.length) := by
        cases segment <;> rfl
      have covered : min (segment.encode ++ padding).length segment.encode.length =
          segment.encode.length := by
        rw [List.length_append]
        omega
      have front : (IpPacket.v6 fixed chain segment fits).front.length =
          40 + (chainBytes chain segment.ipv6Transport.number).length := by
        rw [IpPacket.front, List.length_append, fixed.length_encode]
      have read := parseIpv6Packet_carrying payloadDecodeLimit fixed segment.ipv6Transport
        (segment.encode ++ padding) fits
      rw [covered, List.length_append, envelope, parseIpv6Transport_segment _ _ _ (by rfl),
        ← front] at read
      rw [same, framing.parse_eq payloadDecodeLimit announced]
      exact congrArg _ read

end Packets

end MiniSniffer
