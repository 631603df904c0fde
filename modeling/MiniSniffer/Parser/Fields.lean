import MiniSniffer.Parser.CapturedFrame

/-!
Contract: which bytes of a packet its parsed fields come from.

Owns, for each network protocol, where the parser reads the addresses, the
protocol and the ports that it reports, under the checks it made before
reporting them; and the case split over an Ethernet frame, whose network header
follows fourteen bytes of link header.

Does not own payloads or application metadata.
-/

namespace MiniSniffer

open Foundation

/-! ### Protocol numbers -/

/-- What IPv4 makes of a protocol number. -/
def ipv4ProtocolOf (number : UInt8) : Protocol :=
  if number = ipv4ProtocolIcmp then .icmp
  else if number = ipv4ProtocolTcp then .tcp
  else if number = ipv4ProtocolUdp then .udp
  else .other

/-- What IPv6 makes of a next header. -/
def ipProtocolOf (number : UInt8) : Protocol :=
  if number = ipv4ProtocolIcmp || number = ipv6ProtocolIcmpv6 then .icmp
  else if number = ipv4ProtocolTcp then .tcp
  else if number = ipv4ProtocolUdp then .udp
  else .other

/-- The ports at an offset of the packet are the ones reported. -/
def PacketInfo.PortsAt (info : PacketInfo) (packet : List UInt8) (offset : Nat) : Prop :=
  offset + 4 ≤ packet.length ∧ info.srcPort = readU16 packet offset ∧
    info.dstPort = readU16 packet (offset + 2)

/-- Both are reported with the same addresses and protocol. -/
structure SameEndpoints (info other : PacketInfo) : Prop where
  srcIp_eq : other.srcIp = info.srcIp
  dstIp_eq : other.dstIp = info.dstIp
  protocol_eq : other.protocol = info.protocol

/-- Both are reported with the same ports. -/
structure SameTransportPorts (info other : PacketInfo) : Prop where
  hasPorts_eq : other.hasPorts = info.hasPorts
  srcPort_eq : other.srcPort = info.srcPort
  dstPort_eq : other.dstPort = info.dstPort

section Transport

variable {payloadDecodeLimit packetLen offset : Nat} {packet : List UInt8} {info : PacketInfo}

theorem setIpv4Protocol_protocol (number : UInt8) (info : PacketInfo) :
    (setIpv4Protocol number info).protocol = ipv4ProtocolOf number := by
  unfold setIpv4Protocol ipv4ProtocolOf
  split_ifs <;> rfl

theorem setIpProtocol_protocol (number : UInt8) (info : PacketInfo) :
    (setIpProtocol number info).protocol = ipProtocolOf number := by
  unfold setIpProtocol ipProtocolOf
  split_ifs <;> rfl

theorem setIpProtocol_srcIp (number : UInt8) (info : PacketInfo) :
    (setIpProtocol number info).srcIp = info.srcIp := by
  unfold setIpProtocol
  split_ifs <;> rfl

theorem setIpProtocol_dstIp (number : UInt8) (info : PacketInfo) :
    (setIpProtocol number info).dstIp = info.dstIp := by
  unfold setIpProtocol
  split_ifs <;> rfl

theorem parsePayload_same (packetLen offset : Nat) (info : PacketInfo) :
    SameEndpoints info (parsePayload payloadDecodeLimit packet packetLen offset info) ∧
      SameTransportPorts info (parsePayload payloadDecodeLimit packet packetLen offset info) := by
  unfold parsePayload
  split_ifs <;> exact ⟨⟨rfl, rfl, rfl⟩, ⟨rfl, rfl, rfl⟩⟩

theorem parseTcpPayload_same (packetLen offset : Nat) (info : PacketInfo) :
    SameEndpoints info (parseTcpPayload payloadDecodeLimit packet packetLen offset info) ∧
      SameTransportPorts info
        (parseTcpPayload payloadDecodeLimit packet packetLen offset info) := by
  unfold parseTcpPayload
  dsimp only
  split_ifs
  · exact ⟨⟨rfl, rfl, rfl⟩, ⟨rfl, rfl, rfl⟩⟩
  · exact ⟨⟨rfl, rfl, rfl⟩, ⟨rfl, rfl, rfl⟩⟩
  · exact ⟨⟨rfl, rfl, rfl⟩, ⟨rfl, rfl, rfl⟩⟩
  · exact parsePayload_same _ _ _

theorem parseUdpPayload_same (packetLen offset : Nat) (info : PacketInfo) :
    SameEndpoints info (parseUdpPayload payloadDecodeLimit packet packetLen offset info) ∧
      SameTransportPorts info
        (parseUdpPayload payloadDecodeLimit packet packetLen offset info) := by
  unfold parseUdpPayload
  dsimp only
  split_ifs
  · exact ⟨⟨rfl, rfl, rfl⟩, ⟨rfl, rfl, rfl⟩⟩
  · exact ⟨⟨rfl, rfl, rfl⟩, ⟨rfl, rfl, rfl⟩⟩
  · exact ⟨⟨rfl, rfl, rfl⟩, ⟨rfl, rfl, rfl⟩⟩
  · exact parsePayload_same _ _ _
  · exact parsePayload_same _ _ _

theorem parseIcmpPayload_same (packetLen offset : Nat) (info : PacketInfo) :
    SameEndpoints info (parseIcmpPayload payloadDecodeLimit packet packetLen offset info) ∧
      SameTransportPorts info
        (parseIcmpPayload payloadDecodeLimit packet packetLen offset info) := by
  unfold parseIcmpPayload
  split_ifs
  · exact ⟨⟨rfl, rfl, rfl⟩, ⟨rfl, rfl, rfl⟩⟩
  · have same := @parsePayload_same payloadDecodeLimit packet packetLen (offset + icmpHeaderLen)
      { info with
        hasIcmp := true
        icmpType := byteAt packet offset
        icmpCode := byteAt packet (offset + 1) }
    exact ⟨⟨same.1.1, same.1.2, same.1.3⟩, ⟨same.2.1, same.2.2, same.2.3⟩⟩

/-- What the transport parsers make of a packet without ports: the addresses and the protocol stay,
and ports are those where the transport starts. -/
structure TransportFields (packet : List UInt8) (packetLen offset : Nat)
    (info result : PacketInfo) : Prop where
  endpoints : SameEndpoints info result
  ports : result.hasPorts = true →
    (info.protocol = .tcp ∨ info.protocol = .udp) ∧ offset + 4 ≤ packetLen ∧
      result.srcPort = readU16 packet offset ∧ result.dstPort = readU16 packet (offset + 2)

theorem parseIpv4Transport_fields (noPorts : info.hasPorts = false) :
    TransportFields packet packetLen offset info
      (parseIpv4Transport payloadDecodeLimit packet packetLen offset info) := by
  unfold parseIpv4Transport
  split
  next isTcp =>
    have sameTail := @parseTcpPayload_same payloadDecodeLimit packet packetLen offset
      (parseTcpSequenceAndFlags packet packetLen offset
        (parseTcpPorts packet packetLen offset info))
    generalize parseTcpPayload payloadDecodeLimit packet packetLen offset
      (parseTcpSequenceAndFlags packet packetLen offset
        (parseTcpPorts packet packetLen offset info)) = result at sameTail
    unfold parseTcpSequenceAndFlags parseTcpPorts at sameTail
    split_ifs at sameTail with short
    · refine ⟨⟨sameTail.1.1, sameTail.1.2, sameTail.1.3⟩, ?_⟩
      intro ported
      rw [sameTail.2.1, noPorts] at ported
      contradiction
    · refine ⟨⟨sameTail.1.1, sameTail.1.2, sameTail.1.3⟩, ?_⟩
      intro _
      rw [tcpMinHeaderLen] at short
      exact ⟨Or.inl isTcp, by omega, sameTail.2.2, sameTail.2.3⟩
  next isUdp =>
    have sameTail := @parseUdpPayload_same payloadDecodeLimit packet packetLen offset
      (parseUdpPorts packet packetLen offset info)
    generalize parseUdpPayload payloadDecodeLimit packet packetLen offset
      (parseUdpPorts packet packetLen offset info) = result at sameTail
    unfold parseUdpPorts at sameTail
    split_ifs at sameTail with short unsized
    · refine ⟨⟨sameTail.1.1, sameTail.1.2, sameTail.1.3⟩, ?_⟩
      intro ported
      rw [sameTail.2.1, noPorts] at ported
      contradiction
    · refine ⟨⟨sameTail.1.1, sameTail.1.2, sameTail.1.3⟩, ?_⟩
      intro ported
      rw [sameTail.2.1, noPorts] at ported
      contradiction
    · refine ⟨⟨sameTail.1.1, sameTail.1.2, sameTail.1.3⟩, ?_⟩
      intro _
      rw [udpHeaderLen] at short
      exact ⟨Or.inr isUdp, by omega, sameTail.2.2, sameTail.2.3⟩
  · have same := @parseIcmpPayload_same payloadDecodeLimit packet packetLen offset
      (clearTransportPorts info)
    refine ⟨⟨same.1.1, same.1.2, same.1.3⟩, ?_⟩
    intro ported
    rw [same.2.1] at ported
    contradiction
  · refine ⟨⟨rfl, rfl, rfl⟩, ?_⟩
    intro ported
    rw [noPorts] at ported
    contradiction

end Transport

/-! ### Network protocols -/

/-- The transport header of an IPv4 packet follows `ihl` words of header. -/
def ipv4TransportOffset (packet : List UInt8) (ipOffset : Nat) : Nat :=
  ipOffset + (byteAt packet ipOffset &&& 0x0f).toNat * 4

/-- Where the fields of an IPv4 fragment come from. -/
structure Ipv4FragmentFields (packet : List UInt8) (ipOffset : Nat) (result : PacketInfo) :
    Prop where
  version : byteAt packet ipOffset >>> 4 = 4
  headerInside : ipv4TransportOffset packet ipOffset ≤ packet.length
  header_eq : result.ipv4Header =
    (packet.drop ipOffset).take (ipv4TransportOffset packet ipOffset - ipOffset)
  protocolNumber_eq : result.ipv4ProtocolNumber = byteAt packet (ipOffset + 9)
  fragmented :
    readU16 packet (ipOffset + 6) &&& (ipv4FragmentOffsetMask ||| ipv4MoreFragmentsFlag) ≠ 0
  moreFragments_eq : result.ipv4MoreFragments =
    decide (readU16 packet (ipOffset + 6) &&& ipv4MoreFragmentsFlag ≠ 0)

/-- Where the fields of a parsed IPv4 packet come from. Only a packet that is no fragment has
ports. -/
structure Ipv4Fields (packet : List UInt8) (ipOffset : Nat) (result : PacketInfo) : Prop where
  inside : ipOffset + 20 ≤ packet.length
  srcIp_eq : result.srcIp = .ipv4 ((packet.drop (ipOffset + 12)).take 4)
  dstIp_eq : result.dstIp = .ipv4 ((packet.drop (ipOffset + 16)).take 4)
  protocol_eq : result.protocol = ipv4ProtocolOf (byteAt packet (ipOffset + 9))
  whole : result.isIpv4Fragment = false →
    readU16 packet (ipOffset + 6) &&& (ipv4FragmentOffsetMask ||| ipv4MoreFragmentsFlag) = 0
  fragment : result.isIpv4Fragment = true → Ipv4FragmentFields packet ipOffset result
  ports : result.hasPorts = true → result.isIpv4Fragment = false ∧
    (result.protocol = .tcp ∨ result.protocol = .udp) ∧
    result.PortsAt packet (ipv4TransportOffset packet ipOffset)

/-- The part of an IPv6 packet that was captured and belongs to it. -/
def ipv6ParsedLength (packet : List UInt8) (ipOffset : Nat) : Nat :=
  ipOffset + min (packet.length - ipOffset) (ipv6HeaderLen + (readU16 packet (ipOffset + 4)).toNat)

def ipv6TransportOf (packet : List UInt8) (ipOffset : Nat) : IPv6Transport :=
  findIpv6Transport packet (ipv6ParsedLength packet ipOffset) (ipOffset + ipv6HeaderLen)
    (byteAt packet (ipOffset + 6))

/-- Where the fields of a parsed IPv6 packet come from. -/
structure Ipv6Fields (packet : List UInt8) (ipOffset : Nat) (transport : IPv6Transport)
    (result : PacketInfo) : Prop where
  inside : ipOffset + 40 ≤ packet.length
  srcIp_eq : result.srcIp = .ipv6 ((packet.drop (ipOffset + 8)).take 16)
  dstIp_eq : result.dstIp = .ipv6 ((packet.drop (ipOffset + 24)).take 16)
  whole : result.isIpv4Fragment = false
  protocol_eq : result.protocol = ipProtocolOf transport.nextHeader
  ports : result.hasPorts = true → transport.transportReachable = true ∧
    (result.protocol = .tcp ∨ result.protocol = .udp) ∧
    result.PortsAt packet transport.transportOffset

/-- Where the fields of a parsed ARP packet come from. -/
structure ArpFields (packet : List UInt8) (arpOffset : Nat) (result : PacketInfo) : Prop where
  inside : arpOffset + 28 ≤ packet.length
  srcIp_eq : result.srcIp = .ipv4 ((packet.drop (arpOffset + 14)).take 4)
  dstIp_eq : result.dstIp = .ipv4 ((packet.drop (arpOffset + 24)).take 4)
  whole : result.isIpv4Fragment = false
  protocol_eq : result.protocol = .arp
  noPorts : result.hasPorts = false

section Network

variable {payloadDecodeLimit ipOffset : Nat} {packet : List UInt8} {info : PacketInfo}

theorem parseIpv4Packet_fields (noFragment : info.isIpv4Fragment = false) :
    parseIpv4Packet payloadDecodeLimit packet packet.length ipOffset info = info ∨
      Ipv4Fields packet ipOffset
        (parseIpv4Packet payloadDecodeLimit packet packet.length ipOffset info) := by
  unfold parseIpv4Packet
  dsimp only
  split_ifs with short badHeader shortHeader badTotal fragmented
  · exact Or.inl rfl
  · exact Or.inl rfl
  · exact Or.inl rfl
  · exact Or.inl rfl
  · right
    rw [ipv4MinHeaderLen] at short
    exact
      { inside := by omega
        srcIp_eq := setIpv4Protocol_srcIp _ _
        dstIp_eq := setIpv4Protocol_dstIp _ _
        protocol_eq := setIpv4Protocol_protocol _ _
        whole := fun whole => absurd whole (by simp)
        fragment := fun _ =>
          { version := by
              simp only [Bool.or_eq_true, decide_eq_true_eq, not_or, not_not] at badHeader
              exact badHeader.1
            headerInside := Nat.le_of_not_lt shortHeader
            header_eq := by
              rw [ipv4TransportOffset, Nat.add_sub_cancel_left]
              rfl
            protocolNumber_eq := rfl
            fragmented := fragmented
            moreFragments_eq := rfl }
        ports := fun ported => absurd ported (by simp [ipv4Metadata, clearTransportPorts]) }
  · right
    rw [ipv4MinHeaderLen] at short
    set parsedPacketLen := ipOffset + min (packet.length - ipOffset)
      (readU16 packet (ipOffset + 2)).toNat with parsedPacketLenEq
    have bounded : parsedPacketLen ≤ packet.length := by omega
    have fields := @parseIpv4Transport_fields payloadDecodeLimit parsedPacketLen
      (ipv4TransportOffset packet ipOffset) packet
      (ipv4Metadata packet parsedPacketLen ipOffset ((byteAt packet ipOffset &&& 0x0f).toNat * 4)
        info) rfl
    have protocolEq : (ipv4Metadata packet parsedPacketLen ipOffset
        ((byteAt packet ipOffset &&& 0x0f).toNat * 4) info).protocol =
          ipv4ProtocolOf (byteAt packet (ipOffset + 9)) := setIpv4Protocol_protocol _ _
    exact
      { inside := by omega
        srcIp_eq := fields.endpoints.srcIp_eq.trans (setIpv4Protocol_srcIp _ _)
        dstIp_eq := fields.endpoints.dstIp_eq.trans (setIpv4Protocol_dstIp _ _)
        protocol_eq := fields.endpoints.protocol_eq.trans protocolEq
        whole := fun _ => not_not.mp fragmented
        fragment := by
          intro isFragment
          rw [parseIpv4Transport_isIpv4Fragment] at isFragment
          exact absurd isFragment (by simp [ipv4Metadata, clearTransportPorts, noFragment])
        ports := by
          intro ported
          obtain ⟨transport, within, srcPort, dstPort⟩ := fields.ports ported
          refine ⟨?_, ?_, by omega, srcPort, dstPort⟩
          · rw [parseIpv4Transport_isIpv4Fragment]
            simp [ipv4Metadata, clearTransportPorts, noFragment]
          · exact transport.imp fields.endpoints.protocol_eq.trans
              fields.endpoints.protocol_eq.trans }

theorem parseIpv6Packet_fields (noFragment : info.isIpv4Fragment = false) :
    parseIpv6Packet payloadDecodeLimit packet packet.length ipOffset info = info ∨
      Ipv6Fields packet ipOffset (ipv6TransportOf packet ipOffset)
        (parseIpv6Packet payloadDecodeLimit packet packet.length ipOffset info) := by
  unfold parseIpv6Packet
  split_ifs with short version
  · exact Or.inl rfl
  · exact Or.inl rfl
  right
  extract_lets _ _ parsedPacketLen transport addressed parsed
  rw [ipv6HeaderLen] at short
  have srcIpEq : parsed.srcIp = .ipv6 ((packet.drop (ipOffset + 8)).take 16) :=
    setIpProtocol_srcIp _ _
  have dstIpEq : parsed.dstIp = .ipv6 ((packet.drop (ipOffset + 24)).take 16) :=
    setIpProtocol_dstIp _ _
  have protocolEq : parsed.protocol = ipProtocolOf transport.nextHeader :=
    setIpProtocol_protocol _ _
  have noPorts : parsed.hasPorts = false := rfl
  have cleared : clearTransportPorts parsed = parsed := rfl
  have whole : parsed.isIpv4Fragment = false := by
    simp only [parsed, clearTransportPorts, setIpProtocol]
    split_ifs <;> exact noFragment
  have bounded : parsedPacketLen ≤ packet.length := by omega
  rw [show ipv6TransportOf packet ipOffset = transport from rfl]
  clear_value parsed transport
  split_ifs with unreachable
  · exact
      { inside := by omega
        srcIp_eq := srcIpEq
        dstIp_eq := dstIpEq
        whole := whole
        protocol_eq := protocolEq
        ports := fun ported => absurd (noPorts.symm.trans ported) Bool.false_ne_true }
  · have fields := @parseIpv4Transport_fields payloadDecodeLimit parsedPacketLen
      transport.transportOffset packet parsed noPorts
    have viaIpv4 : Ipv6Fields packet ipOffset transport
        (parseIpv4Transport payloadDecodeLimit packet parsedPacketLen transport.transportOffset
          parsed) :=
      { inside := by omega
        srcIp_eq := fields.endpoints.srcIp_eq.trans srcIpEq
        dstIp_eq := fields.endpoints.dstIp_eq.trans dstIpEq
        whole := by rw [parseIpv4Transport_isIpv4Fragment, whole]
        protocol_eq := fields.endpoints.protocol_eq.trans protocolEq
        ports := by
          intro ported
          obtain ⟨carried, within, srcPort, dstPort⟩ := fields.ports ported
          refine ⟨by simpa using unreachable, ?_, by omega, srcPort, dstPort⟩
          exact carried.imp fields.endpoints.protocol_eq.trans fields.endpoints.protocol_eq.trans }
    -- Ports that are cleared already make the ICMP case of IPv4 that of IPv6.
    unfold parseIpv4Transport at viaIpv4
    rw [cleared] at viaIpv4
    exact viaIpv4

theorem parseArpPacket_fields (noFragment : info.isIpv4Fragment = false)
    (noPorts : info.hasPorts = false) :
    parseArpPacket packet packet.length ipOffset info = info ∨
      ArpFields packet ipOffset (parseArpPacket packet packet.length ipOffset info) := by
  unfold parseArpPacket
  split_ifs with short unknown
  · exact Or.inl rfl
  · exact Or.inl rfl
  · right
    have sized : arpEthernetIpv4Len = 28 := rfl
    exact
      { inside := by omega
        srcIp_eq := rfl
        dstIp_eq := rfl
        whole := noFragment
        protocol_eq := rfl
        noPorts := noPorts }

end Network

/-! ### Ethernet -/

/-- What an Ethernet frame was parsed as. -/
inductive EthernetFields (frame : List UInt8) (result : PacketInfo) : Prop
  | unknown (same : result = initializePacketInfo frame.length)
  | ipv4 (announced : readU16 frame 12 = ethertypeIpv4) (fields : Ipv4Fields frame 14 result)
  | ipv6 (announced : readU16 frame 12 = ethertypeIpv6)
      (fields : Ipv6Fields frame 14 (ipv6TransportOf frame 14) result)
  | arp (announced : readU16 frame 12 = ethertypeArp) (fields : ArpFields frame 14 result)

theorem parserParsePacket_fields (payloadDecodeLimit : Nat) (frame : List UInt8) :
    EthernetFields frame (parserParsePacketWithDatalink payloadDecodeLimit frame .en10mb) := by
  rw [parserParsePacketWithDatalink]
  unfold selectNetworkLayer selectByEthertype
  dsimp only
  by_cases empty : frame.length = 0
  · simp only [if_pos empty]
    exact .unknown rfl
  simp only [if_neg empty]
  by_cases short : frame.length < ethernetHeaderLen
  · simp only [if_pos short]
    exact .unknown rfl
  simp only [if_neg short]
  unfold networkFromEthertype
  by_cases isIpv4 : readU16 frame ethernetEthertypeOffset = ethertypeIpv4
  · simp only [if_pos isIpv4]
    rcases @parseIpv4Packet_fields payloadDecodeLimit ethernetHeaderLen frame
      (initializePacketInfo frame.length) rfl with same | fields
    · exact .unknown same
    · exact .ipv4 isIpv4 fields
  simp only [if_neg isIpv4]
  by_cases isIpv6 : readU16 frame ethernetEthertypeOffset = ethertypeIpv6
  · simp only [if_pos isIpv6]
    rcases @parseIpv6Packet_fields payloadDecodeLimit ethernetHeaderLen frame
      (initializePacketInfo frame.length) rfl with same | fields
    · exact .unknown same
    · exact .ipv6 isIpv6 fields
  simp only [if_neg isIpv6]
  by_cases isArp : readU16 frame ethernetEthertypeOffset = ethertypeArp
  · simp only [if_pos isArp]
    rcases @parseArpPacket_fields ethernetHeaderLen frame (initializePacketInfo frame.length) rfl
      rfl with same | fields
    · exact .unknown same
    · exact .arp isArp fields
  · simp only [if_neg isArp]
    exact .unknown rfl

end MiniSniffer
