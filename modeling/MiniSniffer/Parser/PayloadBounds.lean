import MiniSniffer.Parser.CheckedReads
import MiniSniffer.Parser.Fields

/-!
Contract: which bytes of a packet the parser exposes.

Owns the bounds of the payload and of the IPv4 fragment payload: both lie behind the header before
them, inside the packet and inside the datagram that its own length field ends, so that padding of
the link layer is never part of them. A fragment exposes nothing of its transport.

Does not own what the decoders make of a payload.
-/

namespace MiniSniffer

open Foundation

/-! ### Bounds -/

/-- Where the transport of an IP packet starts, and where its datagram ends by its own length
field. -/
structure IpDatagram where
  transportOffset : Nat
  datagramEnd : Nat
deriving DecidableEq, Repr

/-- The datagram that the link and network headers announce. -/
def ipDatagram (packet : List UInt8) (datalinkType : Datalink) : Option IpDatagram :=
  match selectNetworkLayer packet packet.length datalinkType with
  | (ipOffset, .ipv4) =>
      some
        { transportOffset := ipv4TransportOffset packet ipOffset
          datagramEnd := ipOffset + (readU16 packet (ipOffset + 2)).toNat }
  | (ipOffset, .ipv6) =>
      some
        { transportOffset := (ipv6TransportOf packet ipOffset).transportOffset
          datagramEnd := ipOffset + ipv6HeaderLen + (readU16 packet (ipOffset + 4)).toNat }
  | (_, _) => none

/-- The length of the transport header at an offset. -/
def transportHeaderLen (packet : List UInt8) (protocol : Protocol) (offset : Nat) : Nat :=
  match protocol with
  | .tcp => (byteAt packet (offset + 12) >>> 4).toNat * 4
  | .udp => udpHeaderLen
  | .icmp => icmpHeaderLen
  | _ => 0

/-- A view of the packet's bytes between two offsets. -/
structure ViewInside (packet : List UInt8) (start stop : Nat) (view : PacketView) : Prop where
  behind : start ≤ view.offset
  before : view.offset + view.bytes.length ≤ stop
  bytes_eq : view.bytes = (packet.drop view.offset).take view.bytes.length

/-- A payload between two offsets, with its decode length and its preview. -/
structure PayloadInside (payloadDecodeLimit : Nat) (packet : List UInt8) (start stop : Nat)
    (info : PacketInfo) (view : PacketView) : Prop where
  inside : ViewInside packet start stop view
  nonempty : 0 < view.bytes.length
  decode_le_capture : info.payloadDecodeLength ≤ view.bytes.length
  decode_le_limit : info.payloadDecodeLength ≤ payloadDecodeLimit
  preview : info.payloadPreview = view.bytes.take info.payloadPreview.length
  preview_length : info.payloadPreview.length ≤ minisnifferMaxPayloadPreviewBytes

/-- What may be exposed of a packet's payload. -/
structure PayloadExposed (payloadDecodeLimit : Nat) (packet : List UInt8) (datagram : IpDatagram)
    (info : PacketInfo) (view : PacketView) : Prop where
  payload : PayloadInside payloadDecodeLimit packet
    (datagram.transportOffset + transportHeaderLen packet info.protocol datagram.transportOffset)
    (min packet.length datagram.datagramEnd) info view
  withinUdp : info.protocol = .udp → view.offset + view.bytes.length ≤
    datagram.transportOffset + (readU16 packet (datagram.transportOffset + 4)).toNat

/-- Nothing of a transport is exposed. -/
structure NoTransport (info : PacketInfo) : Prop where
  noPorts : info.hasPorts = false
  noSequence : info.hasTcpSequence = false
  noPayload : info.hasPayload = false ∧ info.payload = none

/-- The fields that tell of a fragment. -/
structure SameFragment (info other : PacketInfo) : Prop where
  isIpv4Fragment_eq : other.isIpv4Fragment = info.isIpv4Fragment
  moreFragments_eq : other.ipv4MoreFragments = info.ipv4MoreFragments
  fragmentOffset_eq : other.ipv4FragmentOffset = info.ipv4FragmentOffset
  fragmentPayload_eq : other.ipv4FragmentPayload = info.ipv4FragmentPayload

/-- What a transport parser may add to a packet that was narrowed to `packetLen` bytes. -/
structure TransportPayload (payloadDecodeLimit : Nat) (packet : List UInt8)
    (packetLen offset : Nat) (info result : PacketInfo) : Prop where
  protocol_eq : result.protocol = info.protocol
  sameFragment : SameFragment info result
  payload : result.hasPayload = true → ∃ view, result.payload = some view ∧
    PayloadInside payloadDecodeLimit packet
      (offset + transportHeaderLen packet info.protocol offset) packetLen result view ∧
    (info.protocol = .udp →
      view.offset + view.bytes.length ≤ offset + (readU16 packet (offset + 4)).toNat)

/-! ### Transport -/

section Transport

variable {payloadDecodeLimit packetLen offset start stop : Nat} {packet : List UInt8}
variable {info result : PacketInfo}

theorem SameFragment.refl (info : PacketInfo) : SameFragment info info := ⟨rfl, rfl, rfl, rfl⟩

theorem SameFragment.trans {other last : PacketInfo} (first : SameFragment info other)
    (second : SameFragment other last) : SameFragment info last :=
  ⟨second.1.trans first.1, second.2.trans first.2, second.3.trans first.3,
    second.4.trans first.4⟩

theorem PayloadInside.mono {view : PacketView} {later : Nat}
    (payload : PayloadInside payloadDecodeLimit packet start stop info view)
    (wider : stop ≤ later) : PayloadInside payloadDecodeLimit packet start later info view :=
  { payload with
    inside := { payload.inside with before := payload.inside.before.trans wider } }

theorem parsePayload_inside (fresh : info.hasPayload = false)
    (within : packetLen ≤ packet.length)
    (present : (parsePayload payloadDecodeLimit packet packetLen offset info).hasPayload = true) :
    ∃ view, (parsePayload payloadDecodeLimit packet packetLen offset info).payload = some view ∧
      PayloadInside payloadDecodeLimit packet offset packetLen
        (parsePayload payloadDecodeLimit packet packetLen offset info) view := by
  unfold parsePayload at present ⊢
  by_cases empty : packetLen ≤ offset
  · rw [if_pos empty, fresh] at present
    contradiction
  · rw [if_neg empty]
    have length : ((packet.drop offset).take (packetLen - offset)).length = packetLen - offset := by
      rw [List.length_take, List.length_drop]
      omega
    have previewLength : ((packet.drop offset).take
        (min (packetLen - offset) minisnifferMaxPayloadPreviewBytes)).length =
          min (packetLen - offset) minisnifferMaxPayloadPreviewBytes := by
      rw [List.length_take, List.length_drop]
      omega
    refine ⟨_, rfl, ⟨⟨le_rfl, ?_, ?_⟩, ?_, ?_, ?_, ?_, ?_⟩⟩
    · dsimp only
      omega
    · dsimp only
      rw [length]
    · dsimp only
      omega
    · dsimp only
      omega
    · exact min_le_right _ _
    · dsimp only
      rw [previewLength, List.take_take]
      congr 1
      omega
    · dsimp only
      omega

theorem parsePayload_sameFragment (packetLen offset : Nat) (info : PacketInfo) :
    SameFragment info (parsePayload payloadDecodeLimit packet packetLen offset info) := by
  unfold parsePayload
  split_ifs <;> exact ⟨rfl, rfl, rfl, rfl⟩

/-- Without a payload there is nothing to bound. -/
theorem TransportPayload.of_none (protocol : result.protocol = info.protocol)
    (same : SameFragment info result) (none : result.hasPayload = false) :
    TransportPayload payloadDecodeLimit packet packetLen offset info result :=
  { protocol_eq := protocol
    sameFragment := same
    payload := fun present => absurd (none.symm.trans present) Bool.false_ne_true }

theorem parseTcpPayload_payload (isTcp : info.protocol = .tcp) (fresh : info.hasPayload = false)
    (within : packetLen ≤ packet.length) :
    TransportPayload payloadDecodeLimit packet packetLen offset info
      (parseTcpPayload payloadDecodeLimit packet packetLen offset info) := by
  have protocol := (@parseTcpPayload_same payloadDecodeLimit packet packetLen offset
    info).1.protocol_eq
  unfold parseTcpPayload at protocol ⊢
  dsimp only at protocol ⊢
  split_ifs at protocol ⊢ with short tiny cut
  · exact .of_none rfl (.refl info) fresh
  · exact .of_none rfl (.refl info) fresh
  · exact .of_none rfl (.refl info) fresh
  · refine ⟨protocol, parsePayload_sameFragment _ _ _, ?_⟩
    intro present
    obtain ⟨view, payload, inside⟩ := parsePayload_inside fresh within present
    refine ⟨view, payload, ?_, fun isUdp => by rw [isTcp] at isUdp; contradiction⟩
    rw [isTcp]
    exact inside

theorem parseUdpPayload_payload (isUdp : info.protocol = .udp) (fresh : info.hasPayload = false)
    (within : packetLen ≤ packet.length) :
    TransportPayload payloadDecodeLimit packet packetLen offset info
      (parseUdpPayload payloadDecodeLimit packet packetLen offset info) := by
  have protocol := (@parseUdpPayload_same payloadDecodeLimit packet packetLen offset
    info).1.protocol_eq
  have headerLen : udpHeaderLen = 8 := rfl
  unfold parseUdpPayload at protocol ⊢
  dsimp only at protocol ⊢
  by_cases short : packetLen < offset + udpHeaderLen
  · rw [if_pos short]
    exact .of_none rfl (.refl info) fresh
  rw [if_neg short] at protocol ⊢
  by_cases tiny : (readU16 packet (offset + 4)).toNat < udpHeaderLen
  · rw [if_pos tiny]
    exact .of_none rfl (.refl info) fresh
  rw [if_neg tiny] at protocol ⊢
  by_cases cut : (readU16 packet (offset + 4)).toNat > packetLen - offset
  · rw [if_pos cut]
    exact .of_none rfl (.refl info) fresh
  rw [if_neg cut] at protocol ⊢
  -- the datagram ends by its own length, padded or not
  have ends : (if (readU16 packet (offset + 4)).toNat < packetLen - offset then
      offset + (readU16 packet (offset + 4)).toNat else packetLen) =
        offset + (readU16 packet (offset + 4)).toNat := by
    split_ifs <;> omega
  rw [ends] at protocol ⊢
  refine ⟨protocol, parsePayload_sameFragment _ _ _, ?_⟩
  intro present
  obtain ⟨view, payload, inside⟩ := parsePayload_inside fresh (by omega) present
  refine ⟨view, payload, ?_, fun _ => inside.inside.before⟩
  rw [isUdp]
  exact inside.mono (by omega)

theorem parseIcmpPayload_payload (isIcmp : info.protocol = .icmp)
    (fresh : info.hasPayload = false) (within : packetLen ≤ packet.length) :
    TransportPayload payloadDecodeLimit packet packetLen offset info
      (parseIcmpPayload payloadDecodeLimit packet packetLen offset info) := by
  have protocol := (@parseIcmpPayload_same payloadDecodeLimit packet packetLen offset
    info).1.protocol_eq
  unfold parseIcmpPayload at protocol ⊢
  split_ifs at protocol ⊢ with short
  · exact .of_none rfl (.refl info) fresh
  · have same := @parsePayload_sameFragment payloadDecodeLimit packet packetLen
      (offset + icmpHeaderLen)
      { info with
        hasIcmp := true
        icmpType := byteAt packet offset
        icmpCode := byteAt packet (offset + 1) }
    refine ⟨protocol, ⟨same.1, same.2, same.3, same.4⟩, ?_⟩
    intro present
    obtain ⟨view, payload, inside⟩ := parsePayload_inside (by exact fresh) within present
    refine ⟨view, payload, ?_, fun isUdp => by rw [isIcmp] at isUdp; contradiction⟩
    have header : transportHeaderLen packet info.protocol offset = icmpHeaderLen := by
      rw [isIcmp]
      rfl
    rw [header]
    exact inside

/-- The payload of a packet, by its transport. -/
theorem parseIpv4Transport_payload (fresh : info.hasPayload = false)
    (within : packetLen ≤ packet.length) :
    TransportPayload payloadDecodeLimit packet packetLen offset info
      (parseIpv4Transport payloadDecodeLimit packet packetLen offset info) := by
  unfold parseIpv4Transport
  split
  next isTcp =>
    have ported : (parseTcpSequenceAndFlags packet packetLen offset
        (parseTcpPorts packet packetLen offset info)).protocol = info.protocol ∧
        (parseTcpSequenceAndFlags packet packetLen offset
          (parseTcpPorts packet packetLen offset info)).hasPayload = info.hasPayload ∧
        SameFragment info (parseTcpSequenceAndFlags packet packetLen offset
          (parseTcpPorts packet packetLen offset info)) := by
      unfold parseTcpSequenceAndFlags parseTcpPorts
      split_ifs <;> exact ⟨rfl, rfl, rfl, rfl, rfl, rfl⟩
    generalize parseTcpSequenceAndFlags packet packetLen offset
      (parseTcpPorts packet packetLen offset info) = sequenced at ported
    obtain ⟨protocol, noPayload, same⟩ := ported
    have step := @parseTcpPayload_payload payloadDecodeLimit packetLen offset packet sequenced
      (protocol.trans isTcp) (noPayload.trans fresh) within
    exact ⟨step.protocol_eq.trans protocol, same.trans step.sameFragment, protocol ▸ step.payload⟩
  next isUdp =>
    have ported : (parseUdpPorts packet packetLen offset info).protocol = info.protocol ∧
        (parseUdpPorts packet packetLen offset info).hasPayload = info.hasPayload ∧
        SameFragment info (parseUdpPorts packet packetLen offset info) := by
      unfold parseUdpPorts
      split_ifs <;> exact ⟨rfl, rfl, rfl, rfl, rfl, rfl⟩
    generalize parseUdpPorts packet packetLen offset info = sequenced at ported
    obtain ⟨protocol, noPayload, same⟩ := ported
    have step := @parseUdpPayload_payload payloadDecodeLimit packetLen offset packet sequenced
      (protocol.trans isUdp) (noPayload.trans fresh) within
    exact ⟨step.protocol_eq.trans protocol, same.trans step.sameFragment, protocol ▸ step.payload⟩
  next isIcmp =>
    have step := @parseIcmpPayload_payload payloadDecodeLimit packetLen offset packet
      (clearTransportPorts info) isIcmp fresh within
    have same := step.sameFragment
    exact ⟨step.protocol_eq, ⟨same.1, same.2, same.3, same.4⟩, step.payload⟩
  · exact .of_none rfl (.refl info) fresh

end Transport

/-! ### Packets -/

/-- What a parsed packet exposes. -/
structure PacketExposed (payloadDecodeLimit : Nat) (packet : List UInt8) (datalinkType : Datalink)
    (info : PacketInfo) : Prop where
  payload : info.hasPayload = true → ∃ datagram view,
    ipDatagram packet datalinkType = some datagram ∧ info.payload = some view ∧
      PayloadExposed payloadDecodeLimit packet datagram info view
  fragmentPayload : ∀ view, info.ipv4FragmentPayload = some view → ∃ datagram,
    ipDatagram packet datalinkType = some datagram ∧
      ViewInside packet datagram.transportOffset (min packet.length datagram.datagramEnd) view
  fragment : info.isIpv4Fragment = true ∨ info.ipv4MoreFragments = true ∨
    info.ipv4FragmentOffset ≠ 0 → NoTransport info

section Packets

variable {payloadDecodeLimit ipOffset : Nat} {packet : List UInt8} {datalinkType : Datalink}
variable {datagram : IpDatagram} {info result : PacketInfo}

/-- A packet without payload and fragment exposes nothing. -/
theorem PacketExposed.of_none (noPayload : info.hasPayload = false)
    (noView : info.ipv4FragmentPayload = none) (whole : info.isIpv4Fragment = false)
    (last : info.ipv4MoreFragments = false) (first : info.ipv4FragmentOffset = 0) :
    PacketExposed payloadDecodeLimit packet datalinkType info where
  payload := fun present => absurd (noPayload.symm.trans present) Bool.false_ne_true
  fragmentPayload := by simp [noView]
  fragment := by simp [whole, last, first]

/-- What the transport adds to a packet that was narrowed to its datagram. -/
theorem PacketExposed.of_transport
    (announced : ipDatagram packet datalinkType = some datagram)
    (step : TransportPayload payloadDecodeLimit packet (min packet.length datagram.datagramEnd)
      datagram.transportOffset info result)
    (view : ∀ view, info.ipv4FragmentPayload = some view →
      ViewInside packet datagram.transportOffset (min packet.length datagram.datagramEnd) view)
    (whole : info.isIpv4Fragment = false) (last : info.ipv4MoreFragments = false)
    (first : info.ipv4FragmentOffset = 0) :
    PacketExposed payloadDecodeLimit packet datalinkType result where
  payload := by
    intro present
    obtain ⟨payload, found, inside, withinUdp⟩ := step.payload present
    rw [← step.protocol_eq] at inside withinUdp
    exact ⟨datagram, payload, announced, found, inside, withinUdp⟩
  fragmentPayload := by
    intro payload found
    rw [step.sameFragment.fragmentPayload_eq] at found
    exact ⟨datagram, announced, view payload found⟩
  fragment := by
    rw [step.sameFragment.isIpv4Fragment_eq, step.sameFragment.moreFragments_eq,
      step.sameFragment.fragmentOffset_eq]
    simp [whole, last, first]

theorem fragmentField_whole {field : UInt16}
    (whole : field &&& (ipv4FragmentOffsetMask ||| ipv4MoreFragmentsFlag) = 0) :
    (field &&& ipv4FragmentOffsetMask).toNat * 8 = 0 ∧ field &&& ipv4MoreFragmentsFlag = 0 := by
  have bits : ∀ mask : UInt16, mask &&& (ipv4FragmentOffsetMask ||| ipv4MoreFragmentsFlag) = mask →
      field &&& mask = 0 := by
    intro mask part
    rw [← part, UInt16.and_comm mask, ← UInt16.and_assoc, whole, UInt16.zero_and]
  rw [bits ipv4FragmentOffsetMask (by decide)]
  exact ⟨rfl, bits ipv4MoreFragmentsFlag (by decide)⟩

theorem ipv4Metadata_view {parsedPacketLen ipHeaderLen : Nat}
    (header : ipOffset + ipHeaderLen ≤ packet.length)
    (narrowed : parsedPacketLen ≤ packet.length) (view : PacketView)
    (found : (ipv4Metadata packet parsedPacketLen ipOffset ipHeaderLen info).ipv4FragmentPayload =
      some view) : ViewInside packet (ipOffset + ipHeaderLen) parsedPacketLen view := by
  simp only [ipv4Metadata] at found
  split_ifs at found with room
  obtain rfl := Option.some.inj found
  have length : ((packet.drop (ipOffset + ipHeaderLen)).take
      (parsedPacketLen - (ipOffset + ipHeaderLen))).length =
        parsedPacketLen - (ipOffset + ipHeaderLen) := by
    rw [List.length_take, List.length_drop]
    omega
  refine ⟨le_rfl, ?_, ?_⟩
  · dsimp only
    omega
  · dsimp only
    rw [length]

/-- Only the protocol is set. -/
theorem setIpv4Protocol_eq (number : UInt8) (info : PacketInfo) :
    setIpv4Protocol number info = { info with protocol := ipv4ProtocolOf number } := by
  unfold setIpv4Protocol ipv4ProtocolOf
  split_ifs <;> rfl

theorem setIpProtocol_eq (number : UInt8) (info : PacketInfo) :
    setIpProtocol number info = { info with protocol := ipProtocolOf number } := by
  unfold setIpProtocol ipProtocolOf
  split_ifs <;> rfl

theorem ipv4Metadata_noTransport (parsedPacketLen ipHeaderLen size : Nat) :
    NoTransport (ipv4Metadata packet parsedPacketLen ipOffset ipHeaderLen
        (initializePacketInfo size)) ∧
      (ipv4Metadata packet parsedPacketLen ipOffset ipHeaderLen
        (initializePacketInfo size)).isIpv4Fragment = false := by
  unfold ipv4Metadata
  dsimp only
  rw [setIpv4Protocol_eq]
  exact ⟨⟨rfl, rfl, rfl, rfl⟩, rfl⟩

theorem parseIpv4Packet_exposed
    (announced : selectNetworkLayer packet packet.length datalinkType = (ipOffset, .ipv4)) :
    PacketExposed payloadDecodeLimit packet datalinkType
      (parseIpv4Packet payloadDecodeLimit packet packet.length ipOffset
        (initializePacketInfo packet.length)) := by
  have datagram : ipDatagram packet datalinkType = some
      { transportOffset := ipv4TransportOffset packet ipOffset
        datagramEnd := ipOffset + (readU16 packet (ipOffset + 2)).toNat } := by
    rw [ipDatagram, announced]
  unfold parseIpv4Packet
  dsimp only
  by_cases short : packet.length < ipOffset + ipv4MinHeaderLen
  · rw [if_pos short]
    exact .of_none rfl rfl rfl rfl rfl
  rw [if_neg short]
  split_ifs with badHeader shortHeader badTotal fragmented
  · exact .of_none rfl rfl rfl rfl rfl
  · exact .of_none rfl rfl rfl rfl rfl
  · exact .of_none rfl rfl rfl rfl rfl
  all_goals
    have narrowed : ipOffset + min (packet.length - ipOffset)
        (readU16 packet (ipOffset + 2)).toNat =
          min packet.length (ipOffset + (readU16 packet (ipOffset + 2)).toNat) := by
      omega
    rw [narrowed]
    have view := @ipv4Metadata_view ipOffset packet (initializePacketInfo packet.length)
      (min packet.length (ipOffset + (readU16 packet (ipOffset + 2)).toNat))
      ((byteAt packet ipOffset &&& 0x0f).toNat * 4) (by omega) (by omega)
    obtain ⟨noTransport, whole⟩ := @ipv4Metadata_noTransport ipOffset packet
      (min packet.length (ipOffset + (readU16 packet (ipOffset + 2)).toNat))
      ((byteAt packet ipOffset &&& 0x0f).toNat * 4) packet.length
  · refine ⟨fun present => ?_, fun payload found => ⟨_, datagram, view payload found⟩, fun _ => ?_⟩
    · exact absurd (noTransport.noPayload.1.symm.trans present) Bool.false_ne_true
    · exact ⟨noTransport.noPorts, noTransport.noSequence, noTransport.noPayload⟩
  · obtain ⟨first, last⟩ := fragmentField_whole (not_not.mp fragmented)
    exact .of_transport datagram
      (parseIpv4Transport_payload noTransport.noPayload.1 (by dsimp only; omega)) view whole
      (decide_eq_false (not_not_intro last)) first

theorem parseIpv6Packet_exposed
    (announced : selectNetworkLayer packet packet.length datalinkType = (ipOffset, .ipv6)) :
    PacketExposed payloadDecodeLimit packet datalinkType
      (parseIpv6Packet payloadDecodeLimit packet packet.length ipOffset
        (initializePacketInfo packet.length)) := by
  have datagram : ipDatagram packet datalinkType = some
      { transportOffset := (ipv6TransportOf packet ipOffset).transportOffset
        datagramEnd := ipOffset + ipv6HeaderLen + (readU16 packet (ipOffset + 4)).toNat } := by
    rw [ipDatagram, announced]
  unfold parseIpv6Packet
  by_cases short : packet.length < ipOffset + ipv6HeaderLen
  · rw [if_pos short]
    exact .of_none rfl rfl rfl rfl rfl
  rw [if_neg short]
  split_ifs with version
  · exact .of_none rfl rfl rfl rfl rfl
  extract_lets _ _ parsedPacketLen transport addressed parsed
  have narrowed : parsedPacketLen = min packet.length
      (ipOffset + ipv6HeaderLen + (readU16 packet (ipOffset + 4)).toNat) := by
    omega
  have fields : parsed = clearTransportPorts
      { addressed with protocol := ipProtocolOf transport.nextHeader } := by
    rw [← setIpProtocol_eq]
  have noPayload : parsed.hasPayload = false := by rw [fields]; rfl
  have noView : parsed.ipv4FragmentPayload = none := by rw [fields]; rfl
  have whole : parsed.isIpv4Fragment = false := by rw [fields]; rfl
  have last : parsed.ipv4MoreFragments = false := by rw [fields]; rfl
  have first : parsed.ipv4FragmentOffset = 0 := by rw [fields]; rfl
  have cleared : clearTransportPorts parsed = parsed := rfl
  rw [show ipv6TransportOf packet ipOffset = transport from rfl] at datagram
  clear_value parsed transport
  split_ifs with unreachable
  · exact .of_none noPayload noView whole last first
  · have step : TransportPayload payloadDecodeLimit packet parsedPacketLen
        transport.transportOffset parsed (parseIpv4Transport payloadDecodeLimit packet
          parsedPacketLen transport.transportOffset parsed) :=
      parseIpv4Transport_payload noPayload (by omega)
    -- ports that are cleared already make the ICMP case of IPv4 that of IPv6
    unfold parseIpv4Transport at step
    rw [cleared, narrowed] at step
    rw [narrowed]
    exact .of_transport datagram step (by simp [noView]) whole last first

theorem parseArpPacket_exposed :
    PacketExposed payloadDecodeLimit packet datalinkType
      (parseArpPacket packet packet.length ipOffset (initializePacketInfo packet.length)) := by
  unfold parseArpPacket
  dsimp only
  split_ifs
  · exact .of_none rfl rfl rfl rfl rfl
  · exact .of_none rfl rfl rfl rfl rfl
  · exact .of_none rfl rfl rfl rfl rfl

end Packets

/-- Parsing reads inside the packet only, and what it exposes of the payload lies behind the
transport header and inside both the packet and its datagram. -/
theorem parser_exposes_datagram (payloadDecodeLimit : Nat) (packet : List UInt8)
    (datalinkType : Datalink) :
    checkedParsePacketWithDatalink payloadDecodeLimit packet datalinkType =
        some (parserParsePacketWithDatalink payloadDecodeLimit packet datalinkType) ∧
      PacketExposed payloadDecodeLimit packet datalinkType
        (parserParsePacketWithDatalink payloadDecodeLimit packet datalinkType) := by
  refine ⟨checkedParsePacketWithDatalink_eq payloadDecodeLimit packet datalinkType, ?_⟩
  rw [parserParsePacketWithDatalink]
  cases announced : selectNetworkLayer packet packet.length datalinkType with
  | mk ipOffset network =>
      cases network with
      | unknown => exact .of_none rfl rfl rfl rfl rfl
      | ipv4 => exact parseIpv4Packet_exposed announced
      | ipv6 => exact parseIpv6Packet_exposed announced
      | arp => exact parseArpPacket_exposed

end MiniSniffer
