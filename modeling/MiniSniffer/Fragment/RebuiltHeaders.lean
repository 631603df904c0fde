import MiniSniffer.Fragment.Invariant
import MiniSniffer.Parser.Fields
import MiniSniffer.Parser.LinkLayer

/-!
Contract: the header that a rebuilt datagram is parsed with.

Owns the invariant that each incomplete datagram keeps the header of one of its own fragments, so
that its addresses and its protocol are those of its key; and that what is parsed of a rebuilt
packet has the addresses and the protocol of the fragment that completed it.

Does not own the transport header, which only the rebuilt packet has.
-/

namespace MiniSniffer

open Foundation

/-! ### Headers -/

/-- A header as the parser reads one, of the datagrams with the key. -/
structure HeaderOf (key : IPv4FragmentKey) (header : List UInt8) : Prop where
  version : byteAt header 0 >>> 4 = 4
  length_eq : header.length = (byteAt header 0 &&& 0x0f).toNat * 4
  protocol_eq : byteAt header 9 = key.protocol
  srcIp_eq : key.srcIp = .ipv4 ((header.drop 12).take 4)
  dstIp_eq : key.dstIp = .ipv4 ((header.drop 16).take 4)

/-- A fragment whose header is one of its datagram. -/
def HasOwnHeader (fragment : PacketInfo) : Prop :=
  HeaderOf (makeKey fragment) fragment.ipv4Header ∧
    fragment.protocol = ipv4ProtocolOf fragment.ipv4ProtocolNumber

section Headers

variable {payloadDecodeLimit ipOffset : Nat} {packet header : List UInt8} {info : PacketInfo}
variable {key : IPv4FragmentKey} {datalink : Datalink}

theorem byteAt_header {length index : Nat} (inside : index < length) :
    byteAt ((packet.drop ipOffset).take length) index = byteAt packet (ipOffset + index) := by
  rw [byteAt_take inside, byteAt, byteAt, List.getD_eq_getElem?_getD, List.getElem?_drop,
    List.getD_eq_getElem?_getD]

/-- A field of a header is the same bytes of its packet. -/
theorem take_drop_header {length start count : Nat} (inside : start + count ≤ length) :
    (((packet.drop ipOffset).take length).drop start).take count =
      (packet.drop (ipOffset + start)).take count := by
  rw [List.drop_take, List.take_take, List.drop_drop, Nat.min_eq_left (by omega)]

/-- A fragment is parsed with the header that it came with. -/
theorem parseIpv4Packet_ownHeader (fresh : info.isIpv4Fragment = false)
    (isFragment : (parseIpv4Packet payloadDecodeLimit packet packet.length ipOffset
      info).isIpv4Fragment = true) (sized : 20 ≤ (parseIpv4Packet payloadDecodeLimit packet
        packet.length ipOffset info).ipv4HeaderLength) :
    HasOwnHeader (parseIpv4Packet payloadDecodeLimit packet packet.length ipOffset info) := by
  rcases @parseIpv4Packet_fields payloadDecodeLimit ipOffset packet info fresh with same | fields
  · rw [same, fresh] at isFragment
    contradiction
  have own := fields.fragment isFragment
  have inside := own.headerInside
  have header := own.header_eq
  generalize parseIpv4Packet payloadDecodeLimit packet packet.length ipOffset info = parsed
    at fields isFragment sized own header ⊢
  have length : parsed.ipv4Header.length = (byteAt packet ipOffset &&& 0x0f).toNat * 4 := by
    rw [header, List.length_take, List.length_drop, ipv4TransportOffset]
    rw [ipv4TransportOffset] at inside
    omega
  have words : ipv4TransportOffset packet ipOffset - ipOffset =
      (byteAt packet ipOffset &&& 0x0f).toNat * 4 := by
    rw [ipv4TransportOffset, Nat.add_sub_cancel_left]
  have twenty : 20 ≤ (byteAt packet ipOffset &&& 0x0f).toNat * 4 := length ▸ sized
  rw [words] at header
  have first : byteAt parsed.ipv4Header 0 = byteAt packet ipOffset := by
    rw [header, byteAt_header (by omega), Nat.add_zero]
  refine ⟨⟨?_, ?_, ?_, ?_, ?_⟩, ?_⟩
  · rw [first]
    exact own.version
  · rw [length, first]
  · rw [header, byteAt_header (by omega)]
    exact own.protocolNumber_eq.symm
  · rw [header, take_drop_header (by omega)]
    exact fields.srcIp_eq
  · rw [header, take_drop_header (by omega)]
    exact fields.dstIp_eq
  · rw [own.protocolNumber_eq]
    exact fields.protocol_eq

/-- Whatever was captured, a fragment that the table takes has a header of its own. -/
theorem AcceptableFragment.hasOwnHeader
    (acceptable : AcceptableFragment
      (parserParsePacketWithDatalink payloadDecodeLimit packet datalink)) :
    HasOwnHeader (parserParsePacketWithDatalink payloadDecodeLimit packet datalink) := by
  have isFragment := acceptable.1
  have sized := acceptable.header_bounds.1
  have fresh : (initializePacketInfo packet.length).isIpv4Fragment = false := rfl
  unfold parserParsePacketWithDatalink at isFragment sized ⊢
  generalize selectNetworkLayer packet packet.length datalink = selected at isFragment sized ⊢
  rcases selected with ⟨ipOffset, network⟩
  cases network <;> dsimp only at isFragment sized ⊢
  case ipv4 => exact parseIpv4Packet_ownHeader fresh isFragment sized
  case ipv6 =>
    rcases @parseIpv6Packet_fields payloadDecodeLimit ipOffset packet _ fresh with same | fields
    · rw [same] at isFragment
      contradiction
    · rw [fields.whole] at isFragment
      contradiction
  case arp =>
    rcases @parseArpPacket_fields ipOffset packet _ fresh rfl with same | fields
    · rw [same] at isFragment
      contradiction
    · rw [fields.whole] at isFragment
      contradiction
  case unknown => contradiction

end Headers

/-! ### The table -/

/-- Every incomplete datagram has a header of its key's. -/
def KeepsHeaders (table : IPv4FragmentTable) : Prop :=
  ∀ datagram ∈ table.datagrams, HeaderOf datagram.key datagram.header

section Table

variable {state : FragmentState} {event : FragmentEvent} {packet : List UInt8}

theorem acceptable_of_reassembled
    (reassembled : fragmentReassembly.output state event = .reassembled packet) :
    AcceptableFragment event.fragment := by
  by_contra unacceptable
  rcases (@process_unacceptable state event unacceptable).2 with ignored | malformed
  · rw [ignored] at reassembled
    contradiction
  · rw [malformed] at reassembled
    contradiction

/-- Fragments with headers of their own leave each datagram with such a header. -/
theorem process_keepsHeaders (represented : state.1.Represented) (keeps : KeepsHeaders state.1)
    (own : AcceptableFragment event.fragment → HasOwnHeader event.fragment) :
    KeepsHeaders (fragmentReassembly.next state event).1 ∧
      ∀ packet, fragmentReassembly.output state event = .reassembled packet →
        ∃ header data, HeaderOf (makeKey event.fragment) header ∧ 20 ≤ header.length ∧
          header.length + data.length ≤ ipv4MaxTotalLength ∧
          packet = rebuiltHeader header (header.length + data.length) ++ data := by
  have processed := @process_holds
    (fun datagram => HeaderOf datagram.key datagram.header ∧ datagram.Wellformed) state event
    represented.toWellformed
    (fun datagram member => ⟨keeps datagram member, represented.entries datagram member⟩)
    (fun acceptable => ⟨(own acceptable).1, freshDatagram_wellformed acceptable _ _⟩)
    (by
      rintro datagram acceptable keyed ⟨header, wellformed⟩ admits
      refine ⟨?_, wellformed.accept acceptable admits event.now⟩
      rw [acceptedDatagram_key, acceptedDatagram_header]
      split_ifs
      · rw [keyed]
        exact (own acceptable).1
      · exact header)
  refine ⟨fun datagram member => (processed.1 datagram member).1, fun packet reassembled => ?_⟩
  obtain ⟨complete, keyed, ⟨header, wellformed⟩, covered, built⟩ := processed.2 packet reassembled
  have ends : complete.hasLastFragment = true := by
    unfold coverageIsComplete at covered
    split_ifs at covered with incomplete
    simp only [Bool.or_eq_true, Bool.not_eq_true', not_or, Bool.not_eq_false] at incomplete
    exact incomplete.1
  have inside : complete.totalPayloadLength ≤ complete.data.length := wellformed.total ends
  obtain ⟨fits, rebuilt⟩ := buildPacket_eq wellformed.header.1 built
  have length : (complete.data.take complete.totalPayloadLength).length =
      complete.totalPayloadLength := by
    rw [List.length_take]
    omega
  rw [keyed] at header
  refine ⟨complete.header, complete.data.take complete.totalPayloadLength, header,
    wellformed.header.1, ?_, ?_⟩
  · rw [length]
    exact fits
  · rw [length]
    exact rebuilt

end Table

/-! ### Rebuilt packets -/

section Rebuilt

variable {key : IPv4FragmentKey} {header data : List UInt8}

theorem drop_writeU16 (bytes : List UInt8) {offset start : Nat} (value : UInt16)
    (behind : offset + 2 ≤ start) :
    (writeU16 bytes offset value).drop start = bytes.drop start := by
  rw [writeU16, List.drop_set, if_pos (by omega), List.drop_set, if_pos (by omega)]

/-- The addresses of a header are left alone. -/
theorem take_drop_rebuiltHeader {start : Nat} (behind : 12 ≤ start)
    (inside : start + 4 ≤ header.length) (totalLength : Nat) (data : List UInt8) :
    ((rebuiltHeader header totalLength ++ data).drop start).take 4 =
      (header.drop start).take 4 := by
  rw [List.drop_append_of_le_length (by rw [length_rebuiltHeader]; omega), rebuiltHeader,
    drop_writeU16 _ _ (by omega), drop_writeU16 _ _ (by omega), drop_writeU16 _ _ (by omega),
    List.take_append_of_le_length (by rw [List.length_drop]; omega)]

theorem readU16_rebuiltHeader_length (sized : 20 ≤ header.length) {totalLength : Nat}
    (fits : totalLength ≤ ipv4MaxTotalLength) :
    (readU16 (rebuiltHeader header totalLength ++ data) 2).toNat = totalLength := by
  rw [readU16_append_left _ (by rw [length_rebuiltHeader]; omega), rebuiltHeader,
    readU16_writeU16_apart _ (by omega), readU16_writeU16_apart _ (by omega),
    readU16_writeU16 _ (by omega), UInt16.toNat_ofNat_of_lt' (by
      rw [ipv4MaxTotalLength] at fits
      exact Nat.lt_succ_of_le fits)]

/-- A packet whose header passes the checks is parsed with the header's addresses and protocol. -/
theorem parseIpv4Packet_endpoints (payloadDecodeLimit : Nat) {packet : List UInt8}
    (info : PacketInfo) (version : byteAt packet 0 >>> 4 = 4)
    (sized : 20 ≤ (byteAt packet 0 &&& 0x0f).toNat * 4)
    (inside : (byteAt packet 0 &&& 0x0f).toNat * 4 ≤ packet.length)
    (total : (byteAt packet 0 &&& 0x0f).toNat * 4 ≤ (readU16 packet 2).toNat) :
    let parsed := parseIpv4Packet payloadDecodeLimit packet packet.length 0 info
    parsed.srcIp = .ipv4 ((packet.drop 12).take 4) ∧
      parsed.dstIp = .ipv4 ((packet.drop 16).take 4) ∧
      parsed.protocol = ipv4ProtocolOf (byteAt packet 9) := by
  intro parsed
  have metadata : ∀ parsedPacketLen ipHeaderLen,
      (ipv4Metadata packet parsedPacketLen 0 ipHeaderLen info).srcIp =
          .ipv4 ((packet.drop 12).take 4) ∧
        (ipv4Metadata packet parsedPacketLen 0 ipHeaderLen info).dstIp =
          .ipv4 ((packet.drop 16).take 4) ∧
        (ipv4Metadata packet parsedPacketLen 0 ipHeaderLen info).protocol =
          ipv4ProtocolOf (byteAt packet 9) :=
    fun _ _ => ⟨setIpv4Protocol_srcIp _ _, setIpv4Protocol_dstIp _ _, setIpv4Protocol_protocol _ _⟩
  have accepted : ¬ (decide (byteAt packet 0 >>> 4 ≠ 4) ||
      decide ((byteAt packet 0 &&& 0x0f).toNat * 4 < ipv4MinHeaderLen)) = true := by
    simp only [version, ne_eq, not_true_eq_false, decide_false, Bool.false_or, decide_eq_true_eq]
    exact Nat.not_lt_of_le sized
  simp only [parsed, parseIpv4Packet, Nat.zero_add]
  rw [if_neg (by rw [ipv4MinHeaderLen]; omega), if_neg accepted, if_neg (by omega),
    if_neg (by omega)]
  have own := metadata (min (packet.length - 0) (readU16 packet 2).toNat)
    ((byteAt packet 0 &&& 0x0f).toNat * 4)
  split_ifs
  · exact own
  · have transport := @parseIpv4Transport_fields payloadDecodeLimit
      (min (packet.length - 0) (readU16 packet 2).toNat)
      ((byteAt packet 0 &&& 0x0f).toNat * 4) packet
      (ipv4Metadata packet (min (packet.length - 0) (readU16 packet 2).toNat) 0
        ((byteAt packet 0 &&& 0x0f).toNat * 4) info) rfl
    exact ⟨transport.endpoints.srcIp_eq.trans own.1, transport.endpoints.dstIp_eq.trans own.2.1,
      transport.endpoints.protocol_eq.trans own.2.2⟩

/-- What is parsed of a rebuilt packet has the addresses and the protocol of its key. -/
theorem parse_rebuilt (payloadDecodeLimit : Nat) (own : HeaderOf key header)
    (sized : 20 ≤ header.length) (fits : header.length + data.length ≤ ipv4MaxTotalLength) :
    let parsed := parserParsePacketWithDatalink payloadDecodeLimit
      (rebuiltHeader header (header.length + data.length) ++ data) .raw
    parsed.srcIp = key.srcIp ∧ parsed.dstIp = key.dstIp ∧
      parsed.protocol = ipv4ProtocolOf key.protocol := by
  have total := @readU16_rebuiltHeader_length header data sized _ fits
  have source := @take_drop_rebuiltHeader header 12 le_rfl (by omega)
    (header.length + data.length) data
  have target := @take_drop_rebuiltHeader header 16 (by omega) (by omega)
    (header.length + data.length) data
  have kept : ∀ index, index ∉ [2, 3, 6, 7, 10, 11] → index < header.length →
      byteAt (rebuiltHeader header (header.length + data.length) ++ data) index =
        byteAt header index := by
    intro index untouched inside
    rw [byteAt_append_left _ (by rw [length_rebuiltHeader]; exact inside),
      byteAt_rebuiltHeader untouched]
  have first := kept 0 (by decide) (by omega)
  have number := kept 9 (by decide) (by omega)
  have length : (rebuiltHeader header (header.length + data.length) ++ data).length =
      header.length + data.length := by
    rw [List.length_append, length_rebuiltHeader]
  generalize rebuiltHeader header (header.length + data.length) ++ data = packet
    at total source target first number length
  have version : byteAt packet 0 >>> 4 = 4 := by
    rw [first]
    exact own.version
  have words := own.length_eq
  rw [← first] at words
  have select : selectNetworkLayer packet packet.length .raw = (0, .ipv4) :=
    @selectNetworkLayer_raw .v4 packet version
  rw [own.srcIp_eq, own.dstIp_eq, ← own.protocol_eq, ← source, ← target, ← number,
    parserParsePacketWithDatalink, select]
  exact parseIpv4Packet_endpoints payloadDecodeLimit _ version (by omega) (by omega) (by omega)

end Rebuilt

end MiniSniffer
