import MiniSniffer.Parser.ExtensionWalk

/-!
Contract: parsing behind other bytes (`src/parser.c`).

Owns that the network and transport parsers depend on the bytes from their own offset on: with
other bytes in front, and each length and offset moved by as many, the result is the same but for
its size and for where its pointers are.

Does not own which bytes stand in front: see `Parser.LinkLayer` and `Parser.ExtensionChain`.
-/

namespace MiniSniffer

open Foundation

def PacketView.relocate (distance : Nat) (view : PacketView) : PacketView :=
  { view with offset := distance + view.offset }

/-- The same packet with `distance` more bytes in front. -/
def PacketInfo.relocate (distance : Nat) (info : PacketInfo) : PacketInfo :=
  { info with
    size := distance + info.size
    payload := info.payload.map (PacketView.relocate distance)
    ipv4FragmentPayload := info.ipv4FragmentPayload.map (PacketView.relocate distance) }

/-! ### Reads -/

section Reads

theorem readU32_append_right (before data : List UInt8) (offset : Nat) :
    readU32 (before ++ data) (before.length + offset) = readU32 data offset := by
  rw [readU32, readU32, Nat.add_assoc, Nat.add_assoc, Nat.add_assoc, byteAt_append_right,
    byteAt_append_right, byteAt_append_right, byteAt_append_right]

theorem PacketInfo.relocate_zero (info : PacketInfo) : info.relocate 0 = info := by
  have views : ∀ view : Option PacketView, view.map (PacketView.relocate 0) = view := by
    intro view
    cases view with
    | none => rfl
    | some view => simp only [Option.map_some, PacketView.relocate, Nat.zero_add]
  rw [PacketInfo.relocate, views, views, Nat.zero_add]

theorem PacketInfo.relocate_relocate (first second : Nat) (info : PacketInfo) :
    (info.relocate second).relocate first = info.relocate (first + second) := by
  have views : ∀ view : Option PacketView,
      (view.map (PacketView.relocate second)).map (PacketView.relocate first) =
        view.map (PacketView.relocate (first + second)) := by
    intro view
    cases view with
    | none => rfl
    | some view =>
        simp only [Option.map_some, PacketView.relocate, Nat.add_assoc]
  rw [PacketInfo.relocate, PacketInfo.relocate, PacketInfo.relocate]
  simp only [views, Nat.add_assoc]

end Reads

/-! ### Transport -/

section Transport

variable (front packet : List UInt8) (payloadDecodeLimit packetLen offset : Nat)
variable (info : PacketInfo)

theorem parseTcpPorts_relocate :
    parseTcpPorts (front ++ packet) (front.length + packetLen) (front.length + offset)
        (info.relocate front.length) =
      (parseTcpPorts packet packetLen offset info).relocate front.length := by
  simp only [parseTcpPorts, Nat.add_assoc, Nat.add_lt_add_iff_left, readU16_append_right]
  split_ifs <;> rfl

theorem parseTcpSequenceAndFlags_relocate :
    parseTcpSequenceAndFlags (front ++ packet) (front.length + packetLen) (front.length + offset)
        (info.relocate front.length) =
      (parseTcpSequenceAndFlags packet packetLen offset info).relocate front.length := by
  simp only [parseTcpSequenceAndFlags, Nat.add_assoc, Nat.add_lt_add_iff_left,
    readU32_append_right, byteAt_append_right]
  split_ifs <;> rfl

theorem parseUdpPorts_relocate :
    parseUdpPorts (front ++ packet) (front.length + packetLen) (front.length + offset)
        (info.relocate front.length) =
      (parseUdpPorts packet packetLen offset info).relocate front.length := by
  simp only [parseUdpPorts, Nat.add_assoc, Nat.add_lt_add_iff_left, readU16_append_right]
  split_ifs <;> rfl

theorem parsePayload_relocate :
    parsePayload payloadDecodeLimit (front ++ packet) (front.length + packetLen)
        (front.length + offset) (info.relocate front.length) =
      (parsePayload payloadDecodeLimit packet packetLen offset info).relocate front.length := by
  simp only [parsePayload, Nat.add_le_add_iff_left, Nat.add_sub_add_left,
    List.drop_length_add_append]
  split_ifs <;> rfl

theorem parseTcpPayload_relocate :
    parseTcpPayload payloadDecodeLimit (front ++ packet) (front.length + packetLen)
        (front.length + offset) (info.relocate front.length) =
      (parseTcpPayload payloadDecodeLimit packet packetLen offset info).relocate front.length := by
  simp only [parseTcpPayload, Nat.add_assoc, Nat.add_lt_add_iff_left, byteAt_append_right]
  split_ifs
  · rfl
  · rfl
  · rfl
  · exact parsePayload_relocate front packet payloadDecodeLimit packetLen _ info

theorem parseUdpPayload_relocate :
    parseUdpPayload payloadDecodeLimit (front ++ packet) (front.length + packetLen)
        (front.length + offset) (info.relocate front.length) =
      (parseUdpPayload payloadDecodeLimit packet packetLen offset info).relocate front.length := by
  simp only [parseUdpPayload, Nat.add_assoc, Nat.add_lt_add_iff_left, readU16_append_right,
    Nat.add_sub_add_left]
  split_ifs
  · rfl
  · rfl
  · rfl
  · exact parsePayload_relocate front packet payloadDecodeLimit _ _ info
  · exact parsePayload_relocate front packet payloadDecodeLimit packetLen _ info

theorem parseIcmpPayload_relocate :
    parseIcmpPayload payloadDecodeLimit (front ++ packet) (front.length + packetLen)
        (front.length + offset) (info.relocate front.length) =
      (parseIcmpPayload payloadDecodeLimit packet packetLen offset info).relocate
        front.length := by
  simp only [parseIcmpPayload, Nat.add_assoc, Nat.add_lt_add_iff_left, byteAt_append_right]
  split_ifs
  · rfl
  · exact parsePayload_relocate front packet payloadDecodeLimit packetLen _
      { info with
        hasIcmp := true
        icmpType := byteAt packet offset
        icmpCode := byteAt packet (offset + 1) }

theorem parseIpv4Transport_relocate :
    parseIpv4Transport payloadDecodeLimit (front ++ packet) (front.length + packetLen)
        (front.length + offset) (info.relocate front.length) =
      (parseIpv4Transport payloadDecodeLimit packet packetLen offset info).relocate
        front.length := by
  have protocol : (info.relocate front.length).protocol = info.protocol := rfl
  have cleared : clearTransportPorts (info.relocate front.length) =
      (clearTransportPorts info).relocate front.length := rfl
  rw [parseIpv4Transport, parseIpv4Transport, protocol]
  cases info.protocol with
  | tcp =>
      simp only
      rw [parseTcpPorts_relocate, parseTcpSequenceAndFlags_relocate, parseTcpPayload_relocate]
  | udp =>
      simp only
      rw [parseUdpPorts_relocate, parseUdpPayload_relocate]
  | icmp =>
      simp only
      rw [cleared, parseIcmpPayload_relocate]
  | _ => rfl

end Transport

/-! ### Network protocols -/

/-- The packet's metadata under the protocol of a header. -/
def ipv6Metadata (packet : List UInt8) (ipOffset : Nat) (nextHeader : UInt8)
    (info : PacketInfo) : PacketInfo :=
  clearTransportPorts (setIpProtocol nextHeader
    { info with
      srcIp := .ipv6 ((packet.drop (ipOffset + 8)).take 16)
      dstIp := .ipv6 ((packet.drop (ipOffset + 24)).take 16)
      ipVersion := 6 })

/-- What an IPv6 packet carries for its transport, if the walk came to it. -/
def parseIpv6Transport (payloadDecodeLimit : Nat) (packet : List UInt8) (packetLen : Nat)
    (transport : IPv6Transport) (info : PacketInfo) : PacketInfo :=
  if !transport.transportReachable then info
  else
    match info.protocol with
    | .tcp =>
        parseTcpPayload payloadDecodeLimit packet packetLen transport.transportOffset
          (parseTcpSequenceAndFlags packet packetLen transport.transportOffset
            (parseTcpPorts packet packetLen transport.transportOffset info))
    | .udp =>
        parseUdpPayload payloadDecodeLimit packet packetLen transport.transportOffset
          (parseUdpPorts packet packetLen transport.transportOffset info)
    | .icmp =>
        parseIcmpPayload payloadDecodeLimit packet packetLen transport.transportOffset info
    | _ => info

theorem parseIpv6Packet_eq (payloadDecodeLimit : Nat) (packet : List UInt8)
    (packetLen ipOffset : Nat) (info : PacketInfo) :
    parseIpv6Packet payloadDecodeLimit packet packetLen ipOffset info =
      if packetLen < ipOffset + ipv6HeaderLen then info
      else if byteAt packet ipOffset >>> 4 ≠ 6 then info
      else
        let parsedPacketLen := ipOffset +
          min (packetLen - ipOffset) (ipv6HeaderLen + (readU16 packet (ipOffset + 4)).toNat)
        let transport := findIpv6Transport packet parsedPacketLen (ipOffset + ipv6HeaderLen)
          (byteAt packet (ipOffset + 6))
        parseIpv6Transport payloadDecodeLimit packet parsedPacketLen transport
          (ipv6Metadata packet ipOffset transport.nextHeader info) := by
  rw [parseIpv6Packet]
  rfl

section Network

variable (front packet : List UInt8) (payloadDecodeLimit packetLen offset : Nat)
variable (info : PacketInfo)

theorem ipv4Metadata_relocate (ipHeaderLen : Nat) :
    ipv4Metadata (front ++ packet) (front.length + packetLen) (front.length + offset) ipHeaderLen
        (info.relocate front.length) =
      (ipv4Metadata packet packetLen offset ipHeaderLen info).relocate front.length := by
  simp only [ipv4Metadata, Nat.add_assoc, byteAt_append_right, readU16_append_right,
    List.drop_length_add_append, ge_iff_le, Nat.add_le_add_iff_left, Nat.add_sub_add_left,
    setIpv4Protocol]
  split_ifs <;> rfl

theorem parseIpv4Packet_relocate :
    parseIpv4Packet payloadDecodeLimit (front ++ packet) (front.length + packetLen)
        (front.length + offset) (info.relocate front.length) =
      (parseIpv4Packet payloadDecodeLimit packet packetLen offset info).relocate
        front.length := by
  simp only [parseIpv4Packet, Nat.add_assoc, Nat.add_lt_add_iff_left, byteAt_append_right,
    readU16_append_right, Nat.add_sub_add_left, ipv4Metadata_relocate]
  split_ifs
  · rfl
  · rfl
  · rfl
  · rfl
  · rfl
  · exact parseIpv4Transport_relocate front packet payloadDecodeLimit _ _ _

def IPv6Transport.relocate (distance : Nat) (transport : IPv6Transport) : IPv6Transport :=
  { transport with transportOffset := distance + transport.transportOffset }

theorem ExtensionWalk.relocate {nextHeader : UInt8} {result : IPv6Transport} {packet : List UInt8}
    {packetLen offset : Nat} (walk : ExtensionWalk packet packetLen nextHeader offset result)
    (front : List UInt8) :
    ExtensionWalk (front ++ packet) (front.length + packetLen) nextHeader (front.length + offset)
      (result.relocate front.length) := by
  have lengths : ∀ nextHeader offset,
      extensionLengthAt (front ++ packet) nextHeader (front.length + offset) =
        extensionLengthAt packet nextHeader offset := by
    intro nextHeader offset
    rw [extensionLengthAt, extensionLengthAt, Nat.add_assoc, byteAt_append_right]
  induction walk with
  | reached other => exact .reached other
  | cut skippable short =>
      refine .cut skippable ?_
      rw [lengths]
      omega
  | skip skippable captured rest inductionHypothesis =>
      refine .skip skippable ?_ ?_
      · rw [lengths]
        omega
      · rw [lengths, byteAt_append_right, Nat.add_assoc]
        exact inductionHypothesis

theorem transportBehind_relocate (stopped : IPv6Transport) :
    transportBehind (front ++ packet) (front.length + packetLen) (stopped.relocate front.length) =
      (transportBehind packet packetLen stopped).relocate front.length := by
  obtain ⟨nextHeader, transportOffset, reachable⟩ := stopped
  simp only [transportBehind, IPv6Transport.relocate, Nat.add_assoc, ge_iff_le,
    Nat.add_le_add_iff_left, byteAt_append_right]
  cases reachable with
  | false => rfl
  | true =>
      simp only [Bool.not_true, Bool.false_eq_true, if_false, Bool.or_eq_true, decide_eq_true_eq]
      by_cases fragment : nextHeader = ipv6ProtocolFragment
      · simp [fragment]
      by_cases stops : nextHeader = ipv6ProtocolEsp ∨ nextHeader = ipv6ProtocolNoNext
      · rcases stops with rfl | rfl <;> rfl
      · rw [not_or] at stops
        simp [fragment, stops]

theorem findIpv6Transport_relocate (nextHeader : UInt8) :
    findIpv6Transport (front ++ packet) (front.length + packetLen) (front.length + offset)
        nextHeader =
      (findIpv6Transport packet packetLen offset nextHeader).relocate front.length := by
  have walk : ExtensionWalk packet packetLen nextHeader offset _ := extensionWalk_iff.mpr rfl
  rw [findIpv6Transport_of_walk walk, findIpv6Transport_of_walk (walk.relocate front),
    transportBehind_relocate]

theorem ipv6Metadata_relocate (nextHeader : UInt8) :
    ipv6Metadata (front ++ packet) (front.length + offset) nextHeader
        (info.relocate front.length) =
      (ipv6Metadata packet offset nextHeader info).relocate front.length := by
  simp only [ipv6Metadata, Nat.add_assoc, List.drop_length_add_append, setIpProtocol]
  split_ifs <;> rfl

theorem parseIpv6Transport_relocate (transport : IPv6Transport) :
    parseIpv6Transport payloadDecodeLimit (front ++ packet) (front.length + packetLen)
        (transport.relocate front.length) (info.relocate front.length) =
      (parseIpv6Transport payloadDecodeLimit packet packetLen transport info).relocate
        front.length := by
  have protocol : (info.relocate front.length).protocol = info.protocol := rfl
  have reachable : (transport.relocate front.length).transportReachable =
      transport.transportReachable := rfl
  have moved : (transport.relocate front.length).transportOffset =
      front.length + transport.transportOffset := rfl
  rw [parseIpv6Transport, parseIpv6Transport, protocol, reachable, moved]
  by_cases stopped : (!transport.transportReachable) = true
  · rw [if_pos stopped, if_pos stopped]
  rw [if_neg stopped, if_neg stopped]
  cases info.protocol with
  | tcp =>
      simp only
      rw [parseTcpPorts_relocate, parseTcpSequenceAndFlags_relocate, parseTcpPayload_relocate]
  | udp =>
      simp only
      rw [parseUdpPorts_relocate, parseUdpPayload_relocate]
  | icmp =>
      simp only
      rw [parseIcmpPayload_relocate]
  | _ => rfl

theorem parseIpv6Packet_relocate :
    parseIpv6Packet payloadDecodeLimit (front ++ packet) (front.length + packetLen)
        (front.length + offset) (info.relocate front.length) =
      (parseIpv6Packet payloadDecodeLimit packet packetLen offset info).relocate
        front.length := by
  have nextHeader : ∀ transport : IPv6Transport,
      (transport.relocate front.length).nextHeader = transport.nextHeader := fun _ => rfl
  simp only [parseIpv6Packet_eq, Nat.add_assoc, Nat.add_lt_add_iff_left, byteAt_append_right,
    readU16_append_right, Nat.add_sub_add_left, findIpv6Transport_relocate, nextHeader,
    ipv6Metadata_relocate, parseIpv6Transport_relocate]
  split_ifs <;> rfl

end Network

end MiniSniffer
