import MiniSniffer.Capture.Prefilter
import MiniSniffer.Fragment.Contents

/-!
Contract: which flows and datagrams the pre-filter's expression stands for.

Owns the reading of the expression on keys: a TCP packet is what the expression stands for exactly
if its flow's key is, and without a port clause so is a fragment, or the packet rebuilt from
fragments, with its datagram's key. A rebuilt packet is parsed with the addresses and the protocol
of its key because every entry keeps a header that names them.

Does not own what the tables do with keys: see `Capture.FlowPart` and `Fragment.Part`.
-/

namespace MiniSniffer

open Foundation

/-! ### Flows -/

/-- `describes` on the key of a TCP packet's flow. -/
def BpfPrimitive.describesFlow (key : FlowKey) (primitive : BpfPrimitive) : Bool :=
  match primitive with
  | .tcp => true
  | .port number => key.aPort = number || key.bPort = number
  | .host address =>
      parseIpAddress address = some key.aIp || parseIpAddress address = some key.bIp
  | .udp | .icmpOrIcmp6 | .arp => false

/-- The installed expression stands for the flow's packets. -/
def isDescribedFlow (config : AppConfig) (key : FlowKey) : Bool :=
  (installedExpression config).all (BpfPrimitive.describesFlow key)

/-- Both addresses of the packet are known. -/
def PacketInfo.Addressed (info : PacketInfo) : Prop :=
  info.srcIp.isAddress = true ∧ info.dstIp.isAddress = true

section Flows

variable {config : AppConfig} {info : PacketInfo} {packet frame : List UInt8} {ipOffset : Nat}
variable {key : FlowKey} {direction : FlowDirection} {primitive : BpfPrimitive}

/-- Zero-filling to sixteen bytes loses nothing of a text that is an address. -/
theorem parseIpAddress_injective {left right : IpText} (isLeft : left.isAddress = true)
    (isRight : right.isAddress = true) :
    parseIpAddress left = parseIpAddress right ↔ left = right := by
  constructor
  · intro same
    have filled : ∀ (count : Nat) (first second : List UInt8), first.length = count →
        second.length = count → count ≤ 16 →
        (first ++ List.replicate 16 0).take 16 = (second ++ List.replicate 16 0).take 16 →
        first = second := by
      intro count first second firstSized secondSized small equal
      have prefixes := congrArg (List.take count) equal
      rw [List.take_take, List.take_take, Nat.min_eq_left small,
        List.take_append_of_le_length (Nat.le_of_eq firstSized.symm),
        List.take_append_of_le_length (Nat.le_of_eq secondSized.symm),
        List.take_of_length_le (Nat.le_of_eq firstSized),
        List.take_of_length_le (Nat.le_of_eq secondSized)] at prefixes
      exact prefixes
    cases left with
    | empty => contradiction
    | ipv4 first =>
        cases right with
        | empty => contradiction
        | ipv4 second =>
            simp only [parseIpAddress, Option.some.injEq, IPAddress.mk.injEq, true_and] at same
            simp only [IpText.isAddress, decide_eq_true_eq] at isLeft isRight
            rw [filled 4 first second isLeft isRight (by decide) same]
        | ipv6 second => simp [parseIpAddress, afInet, afInet6] at same
    | ipv6 first =>
        cases right with
        | empty => contradiction
        | ipv4 second => simp [parseIpAddress, afInet, afInet6] at same
        | ipv6 second =>
            simp only [parseIpAddress, Option.some.injEq, IPAddress.mk.injEq, true_and] at same
            simp only [IpText.isAddress, decide_eq_true_eq] at isLeft isRight
            rw [filled 16 first second isLeft isRight (by decide) same]
  · rintro rfl
    rfl

theorem Ipv4Fields.addressed (fields : Ipv4Fields packet ipOffset info) : info.Addressed := by
  have inside := fields.inside
  rw [PacketInfo.Addressed, fields.srcIp_eq, fields.dstIp_eq]
  simp only [IpText.isAddress, List.length_take, List.length_drop, decide_eq_true_eq]
  omega

theorem Ipv6Fields.addressed {transport : IPv6Transport}
    (fields : Ipv6Fields packet ipOffset transport info) : info.Addressed := by
  have inside := fields.inside
  rw [PacketInfo.Addressed, fields.srcIp_eq, fields.dstIp_eq]
  simp only [IpText.isAddress, List.length_take, List.length_drop, decide_eq_true_eq]
  omega

/-- A packet with a flow is a TCP segment with ports, and its addresses and ports are the key's in
one order or the other. -/
theorem trackedAs_fields (tracked : trackedAs info = some (key, direction)) :
    info.protocol = .tcp ∧ info.hasPorts = true ∧
      ((parseIpAddress info.srcIp = some key.aIp ∧ parseIpAddress info.dstIp = some key.bIp ∧
          info.srcPort = key.aPort ∧ info.dstPort = key.bPort) ∨
        (parseIpAddress info.srcIp = some key.bIp ∧ parseIpAddress info.dstIp = some key.aIp ∧
          info.srcPort = key.bPort ∧ info.dstPort = key.aPort)) := by
  unfold trackedAs at tracked
  split_ifs at tracked with isTcp
  unfold flowKeyFromPacket at tracked
  split_ifs at tracked with ported
  refine ⟨not_not.mp isTcp, by simpa using ported, ?_⟩
  split at tracked
  next _ srcIp dstIp _ source destination =>
    split_ifs at tracked with swapped
    · obtain ⟨rfl, -⟩ := Prod.mk.inj (Option.some.inj tracked)
      exact Or.inr ⟨source, destination, rfl, rfl⟩
    · obtain ⟨rfl, -⟩ := Prod.mk.inj (Option.some.inj tracked)
      exact Or.inl ⟨source, destination, rfl, rfl⟩
  next => contradiction

/-- A clause describes a packet exactly if it describes the packet's flow. -/
theorem describes_tracked (tracked : trackedAs info = some (key, direction))
    (addressed : info.Addressed) (compiles : primitive.compiles = true) :
    primitive.describes info = primitive.describesFlow key := by
  have fields := trackedAs_fields tracked
  cases primitive with
  | tcp => simp [BpfPrimitive.describes, BpfPrimitive.describesFlow, fields.1]
  | udp | icmpOrIcmp6 | arp =>
      simp [BpfPrimitive.describes, BpfPrimitive.describesFlow, fields.1]
  | port number =>
      rw [BpfPrimitive.describes, BpfPrimitive.describesFlow, fields.2.1, Bool.true_and]
      rcases fields.2.2 with ⟨_, _, source, destination⟩ | ⟨_, _, source, destination⟩
      · rw [source, destination]
      · rw [source, destination, Bool.or_comm]
  | host address =>
      have sourceSame := @parseIpAddress_injective address info.srcIp compiles addressed.1
      have destinationSame := @parseIpAddress_injective address info.dstIp compiles addressed.2
      rw [Bool.eq_iff_iff]
      simp only [BpfPrimitive.describes, BpfPrimitive.describesFlow, Bool.or_eq_true,
        decide_eq_true_eq]
      rw [eq_comm, ← sourceSame, @eq_comm _ info.dstIp, ← destinationSame]
      rcases fields.2.2 with ⟨source, destination, _⟩ | ⟨source, destination, _⟩
      · rw [source, destination]
      · rw [source, destination, or_comm]

theorem isDescribed_tracked (config : AppConfig)
    (tracked : trackedAs info = some (key, direction)) (addressed : info.Addressed) :
    isDescribed config info = isDescribedFlow config key := by
  unfold isDescribed isDescribedFlow
  rw [Bool.eq_iff_iff, List.all_eq_true, List.all_eq_true]
  apply forall₂_congr
  intro primitive member
  rw [describes_tracked tracked addressed (mem_installedExpression member).1]

/-- A frame that carries a packet with a flow has its addresses. -/
theorem EthernetFields.addressed (fields : EthernetFields frame info)
    (tracked : trackedAs info = some (key, direction)) : info.Addressed := by
  have isTcp := (trackedAs_fields tracked).1
  cases fields with
  | unknown same =>
      rw [same] at isTcp
      contradiction
  | ipv4 _ fields => exact fields.addressed
  | ipv6 _ fields => exact fields.addressed
  | arp _ fields =>
      rw [fields.protocol_eq] at isTcp
      contradiction

end Flows

/-! ### Datagrams -/

/-- What every packet of a datagram is reported with. -/
def datagramInfo (key : IPv4FragmentKey) : PacketInfo where
  srcIp := key.srcIp
  dstIp := key.dstIp
  protocol := ipv4ProtocolOf key.protocol

/-- The installed expression stands for the datagram. -/
def isDescribedDatagram (config : AppConfig) (key : IPv4FragmentKey) : Bool :=
  isDescribed config (datagramInfo key)

def hasPortClause (config : AppConfig) : Bool :=
  (installedExpression config).any fun primitive =>
    match primitive with
    | .port _ => true
    | _ => false

/-- The bytes begin with an IPv4 header that names the key's addresses and protocol. -/
structure CarriesKey (key : IPv4FragmentKey) (bytes : List UInt8) : Prop where
  long : 20 ≤ bytes.length
  version : byteAt bytes 0 >>> 4 = 4
  protocol_eq : byteAt bytes 9 = key.protocol
  srcIp_eq : key.srcIp = .ipv4 ((bytes.drop 12).take 4)
  dstIp_eq : key.dstIp = .ipv4 ((bytes.drop 16).take 4)

section Datagrams

variable {config : AppConfig} {info other : PacketInfo} {packet frame header : List UInt8}
variable {key : IPv4FragmentKey} {datagram : IPv4FragmentDatagram} {event : FragmentEvent}
variable {primitive : BpfPrimitive}

/-- Without a port clause the expression looks at addresses and protocol only. -/
theorem isDescribed_congr (portless : hasPortClause config = false)
    (same : SameEndpoints info other) : isDescribed config other = isDescribed config info := by
  unfold isDescribed
  rw [Bool.eq_iff_iff, List.all_eq_true, List.all_eq_true]
  apply forall₂_congr
  intro primitive member
  have noPort := List.any_eq_false.mp portless primitive member
  cases primitive with
  | port number => simp at noPort
  | tcp | udp | icmpOrIcmp6 | arp | host =>
      simp only [BpfPrimitive.describes, same.srcIp_eq, same.dstIp_eq, same.protocol_eq]

/-- Under a port clause only the first fragment of a datagram is handed over. -/
theorem moreFragments_of_delivered (fields : EthernetFields frame info)
    (isFragment : info.isIpv4Fragment = true) (portClause : hasPortClause config = true)
    (delivered : delivers config frame = true) : info.ipv4MoreFragments = true := by
  obtain ⟨primitive, member, isPort⟩ := List.any_eq_true.mp portClause
  have accepted := List.all_eq_true.mp delivered primitive member
  cases primitive with
  | tcp | udp | icmpOrIcmp6 | arp | host => contradiction
  | port number =>
      cases fields with
      | unknown same =>
          rw [same] at isFragment
          contradiction
      | ipv6 _ fields =>
          rw [fields.whole] at isFragment
          contradiction
      | arp _ fields =>
          rw [fields.whole] at isFragment
          contradiction
      | ipv4 announced fields =>
          have fragment := fields.fragment isFragment
          have notIpv6 : ip6PortIs frame number = false := by
            rw [ip6PortIs, wordIs_other announced (by decide)]
            rfl
          rw [BpfPrimitive.accepts, notIpv6, Bool.or_false, ip4PortIs] at accepted
          simp only [Bool.and_eq_true, decide_eq_true_eq] at accepted
          have first : readU16 frame (14 + 6) &&& ipv4FragmentOffsetMask = 0 := accepted.1.2
          rw [fragment.moreFragments_eq, decide_eq_true_eq]
          intro last
          -- neither an offset nor more to come would be no fragment
          apply fragment.fragmented
          have split : readU16 frame (14 + 6) &&&
              (ipv4FragmentOffsetMask ||| ipv4MoreFragmentsFlag) =
                (readU16 frame (14 + 6) &&& ipv4FragmentOffsetMask) |||
                  (readU16 frame (14 + 6) &&& ipv4MoreFragmentsFlag) :=
            UInt16.toBitVec_inj.mp BitVec.and_or_distrib_left
          rw [split, first, last]
          rfl

/-- A packet without ports is not what a port clause stands for. -/
theorem isDescribed_portless (portClause : hasPortClause config = true)
    (portless : info.hasPorts = false) : isDescribed config info = false := by
  obtain ⟨primitive, member, isPort⟩ := List.any_eq_true.mp portClause
  rw [isDescribed, List.all_eq_false]
  refine ⟨primitive, member, ?_⟩
  cases primitive with
  | tcp | udp | icmpOrIcmp6 | arp | host => contradiction
  | port number => simp [BpfPrimitive.describes, portless]

theorem makeKey_endpoints (fields : Ipv4Fields frame 14 info)
    (isFragment : info.isIpv4Fragment = true) :
    SameEndpoints (datagramInfo (makeKey info)) info where
  srcIp_eq := rfl
  dstIp_eq := rfl
  protocol_eq := by
    rw [fields.protocol_eq, datagramInfo, makeKey, (fields.fragment isFragment).protocolNumber_eq]

/-- A fragment that is not malformed carries a header with its key. -/
theorem Ipv4Fields.carriesKey (fields : Ipv4Fields frame 14 info)
    (acceptable : AcceptableFragment info) : CarriesKey (makeKey info) info.ipv4Header := by
  have fragment := fields.fragment acceptable.1
  have least : 20 ≤ info.ipv4Header.length := acceptable.header_bounds.1
  have inside := fragment.headerInside
  rw [fragment.header_eq] at least ⊢
  have taken : 20 ≤ ipv4TransportOffset frame 14 - 14 := by
    rw [List.length_take] at least
    omega
  have readsThrough : ∀ index, index < 20 →
      byteAt ((frame.drop 14).take (ipv4TransportOffset frame 14 - 14)) index =
        byteAt frame (14 + index) := by
    intro index small
    rw [byteAt_take (by omega), byteAt, byteAt, List.getD_eq_getElem?_getD,
      List.getD_eq_getElem?_getD, List.getElem?_drop]
  have slices : ∀ start, start + 4 ≤ 20 →
      (((frame.drop 14).take (ipv4TransportOffset frame 14 - 14)).drop start).take 4 =
        (frame.drop (14 + start)).take 4 := by
    intro start small
    rw [List.drop_take, List.take_take, List.drop_drop, Nat.min_eq_left (by omega)]
  exact
    { long := least
      version := by
        rw [readsThrough 0 (by decide)]
        exact fragment.version
      protocol_eq := by
        rw [readsThrough 9 (by decide), makeKey, fragment.protocolNumber_eq]
      srcIp_eq := by
        rw [slices 12 (by decide), makeKey, fields.srcIp_eq]
      dstIp_eq := by
        rw [slices 16 (by decide), makeKey, fields.dstIp_eq] }

/-- Rebuilding writes neither the addresses nor the protocol. -/
theorem CarriesKey.buildPacket (carries : CarriesKey key datagram.header)
    (built : buildPacket datagram = some packet) : CarriesKey key packet := by
  have long := carries.long
  obtain ⟨-, rfl⟩ := buildPacket_eq carries.long built
  generalize datagram.headerLength + datagram.totalPayloadLength = totalLength
  have sized := length_rebuiltHeader datagram.header totalLength
  have sameByte : ∀ index, index < 20 → index ∉ [2, 3, 6, 7, 10, 11] →
      byteAt (rebuiltHeader datagram.header totalLength ++
        datagram.data.take datagram.totalPayloadLength) index = byteAt datagram.header index := by
    intro index small untouched
    rw [byteAt_append_left _ (by omega), byteAt_rebuiltHeader untouched]
  have sameSlice : ∀ start, 12 ≤ start → start + 4 ≤ 20 →
      ((rebuiltHeader datagram.header totalLength ++
        datagram.data.take datagram.totalPayloadLength).drop start).take 4 =
          (datagram.header.drop start).take 4 := by
    intro start past small
    rw [List.drop_append_of_le_length (by omega), List.take_append_of_le_length
      (by rw [List.length_drop]; omega)]
    simp only [rebuiltHeader, writeU16, List.drop_set, show 10 < start by omega,
      show 10 + 1 < start by omega, show 6 < start by omega, show 6 + 1 < start by omega,
      show 2 < start by omega, show 2 + 1 < start by omega, if_true]
  exact
    { long := by
        rw [List.length_append, sized]
        omega
      version := by
        rw [sameByte 0 (by decide) (by decide)]
        exact carries.version
      protocol_eq := by
        rw [sameByte 9 (by decide) (by decide)]
        exact carries.protocol_eq
      srcIp_eq := by
        rw [sameSlice 12 (by decide) (by decide)]
        exact carries.srcIp_eq
      dstIp_eq := by
        rw [sameSlice 16 (by decide) (by decide)]
        exact carries.dstIp_eq }

/-- What a packet rebuilt for a key is parsed as. -/
theorem CarriesKey.parsed (carries : CarriesKey key packet) (payloadDecodeLimit : Nat) :
    parserParsePacketWithDatalink payloadDecodeLimit packet .raw =
        initializePacketInfo packet.length ∨
      (Ipv4Fields packet 0 (parserParsePacketWithDatalink payloadDecodeLimit packet .raw) ∧
        SameEndpoints (datagramInfo key)
          (parserParsePacketWithDatalink payloadDecodeLimit packet .raw)) := by
  have long := carries.long
  have selected : selectNetworkLayer packet packet.length .raw = (0, .ipv4) := by
    simp only [selectNetworkLayer, inferRawIpNetwork]
    rw [if_neg (by omega), if_neg (by omega), if_pos carries.version]
  rw [parserParsePacketWithDatalink, selected]
  rcases @parseIpv4Packet_fields payloadDecodeLimit 0 packet (initializePacketInfo packet.length)
    rfl with same | fields
  · exact Or.inl same
  · right
    refine ⟨fields, ?_, ?_, ?_⟩
    · rw [fields.srcIp_eq]
      exact carries.srcIp_eq.symm
    · rw [fields.dstIp_eq]
      exact carries.dstIp_eq.symm
    · rw [fields.protocol_eq, datagramInfo, ← carries.protocol_eq]

/-- Every entry keeps a header that names its key, and so does what is rebuilt from it. -/
theorem process_carriesKey {state : FragmentState} (wellformed : state.1.Wellformed)
    (entries : ∀ datagram ∈ state.1.datagrams, CarriesKey datagram.key datagram.header)
    (carries : AcceptableFragment event.fragment →
      CarriesKey (makeKey event.fragment) event.fragment.ipv4Header) :
    (∀ datagram ∈ (fragmentReassembly.next state event).1.datagrams,
        CarriesKey datagram.key datagram.header) ∧
      ∀ packet, fragmentReassembly.output state event = .reassembled packet →
        CarriesKey (makeKey event.fragment) packet := by
  have step := @process_holds (fun datagram => CarriesKey datagram.key datagram.header) state event
    wellformed entries carries (by
      intro datagram acceptable keyed held _
      rw [acceptedDatagram_key, acceptedDatagram_header]
      split_ifs
      · rw [keyed]
        exact carries acceptable
      · exact held)
  refine ⟨step.1, ?_⟩
  intro packet reassembled
  obtain ⟨complete, keyed, held, -, built⟩ := step.2 packet reassembled
  rw [keyed] at held
  exact held.buildPacket built

/-- While no fragment declares an end, nothing is rebuilt. -/
theorem process_unended {state : FragmentState} (wellformed : state.1.Wellformed)
    (entries : ∀ datagram ∈ state.1.datagrams, datagram.hasLastFragment = false)
    (more : event.fragment.ipv4MoreFragments = true) :
    (∀ datagram ∈ (fragmentReassembly.next state event).1.datagrams,
        datagram.hasLastFragment = false) ∧
      ∀ packet, fragmentReassembly.output state event ≠ .reassembled packet := by
  have step := @process_holds (fun datagram => datagram.hasLastFragment = false) state event
    wellformed entries (fun _ => rfl) (by
      intro datagram _ _ held _
      rw [acceptedDatagram_hasLastFragment, held, endsDatagram, more]
      rfl)
  refine ⟨step.1, ?_⟩
  intro packet reassembled
  obtain ⟨complete, -, held, covered, -⟩ := step.2 packet reassembled
  simp [coverageIsComplete, held] at covered

end Datagrams

end MiniSniffer
