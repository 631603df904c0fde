import MiniSniffer.Parser.LinkLayer
import MiniSniffer.Parser.PayloadBounds

/-!
Contract: IPv6 packets with a chain of extension headers (`src/parser.c`).

Owns packets as a fixed header, a chain and what stands behind it, that the walk comes to the end
of a chain that is all there, and that what is reported of the packet is what is reported of the
same packet without the chain. A chain that is cut, or that ends in a header without a transport,
shows nothing of one.

Does not own the walk itself: see `Parser.ExtensionWalk`.
-/

namespace MiniSniffer

open Foundation

/-! ### Packets -/

/-- A Hop-by-Hop, Routing, Destination Options or Authentication header. The length byte counts
eight-byte units behind the first, or four-byte words less two. -/
structure ExtensionHeader where
  kind : UInt8
  known : kind ∈ [ipv6ProtocolHopopts, ipv6ProtocolRouting, ipv6ProtocolDestOpts, ipv6ProtocolAh]
  lengthByte : UInt8
  body : List UInt8
  legal : body.length + 2 =
    if kind = ipv6ProtocolAh then (lengthByte.toNat + 2) * 4 else (lengthByte.toNat + 1) * 8

/-- The kind of the first header of a chain that leads to `last`. -/
def firstKind (chain : List ExtensionHeader) (last : UInt8) : UInt8 :=
  match chain with
  | [] => last
  | header :: _ => header.kind

/-- Each header begins with the kind of the next one. -/
def chainBytes (chain : List ExtensionHeader) (last : UInt8) : List UInt8 :=
  match chain with
  | [] => []
  | header :: rest =>
      firstKind rest last :: header.lengthByte :: header.body ++ chainBytes rest last

/-- The fixed header but for its payload length and next header. -/
structure Ipv6Fixed where
  start : List UInt8
  startSized : start.length = 4
  version : byteAt start 0 >>> 4 = 6
  hopLimit : UInt8
  source : List UInt8
  sourceSized : source.length = 16
  destination : List UInt8
  destinationSized : destination.length = 16

def Ipv6Fixed.encode (fixed : Ipv6Fixed) (payloadLength : UInt16) (nextHeader : UInt8) :
    List UInt8 :=
  fixed.start ++ encodeU16 payloadLength ++ [nextHeader, fixed.hopLimit] ++ fixed.source ++
    fixed.destination

/-- A packet with its chain and whatever was sent behind it. -/
def Ipv6Fixed.packet (fixed : Ipv6Fixed) (payloadLength : UInt16) (chain : List ExtensionHeader)
    (last : UInt8) (behind : List UInt8) : List UInt8 :=
  fixed.encode payloadLength (firstKind chain last) ++ (chainBytes chain last ++ behind)

inductive Ipv6Transport where
  | tcp
  | udp
  | icmpv6

def Ipv6Transport.number : Ipv6Transport → UInt8
  | .tcp => ipv4ProtocolTcp
  | .udp => ipv4ProtocolUdp
  | .icmpv6 => ipv6ProtocolIcmpv6

def Ipv6Transport.protocol : Ipv6Transport → Protocol
  | .tcp => .tcp
  | .udp => .udp
  | .icmpv6 => .icmp

/-- The datalink types under which an IPv6 packet is announced. -/
inductive Ipv6Framing where
  | raw
  | ipv6
  | link (header : LinkHeader .v6)

def Ipv6Framing.bytes : Ipv6Framing → List UInt8
  | .raw => []
  | .ipv6 => []
  | .link header => header.bytes

def Ipv6Framing.datalink : Ipv6Framing → Datalink
  | .raw => .raw
  | .ipv6 => .ipv6
  | .link header => header.datalink

/-- What is reported of a packet in its framing. -/
def Ipv6Framing.parse (framing : Ipv6Framing) (payloadDecodeLimit : Nat) (packet : List UInt8) :
    PacketInfo :=
  parserParsePacketWithDatalink payloadDecodeLimit (framing.bytes ++ packet) framing.datalink

/-- A packet with a transport behind its chain. `behind` is the segment and whatever was captured
behind it; the payload length covers the chain and `covered` bytes more. -/
def Ipv6Fixed.carrying (fixed : Ipv6Fixed) (chain : List ExtensionHeader)
    (transport : Ipv6Transport) (covered : Nat) (behind : List UInt8) : List UInt8 :=
  fixed.packet (UInt16.ofNat ((chainBytes chain transport.number).length + covered)) chain
    transport.number behind

/-! ### The walk over a chain -/

section Chain

variable {chain : List ExtensionHeader} {last : UInt8}

theorem ExtensionHeader.skippable (header : ExtensionHeader) :
    ipv6ExtensionHeaderIsSkippable header.kind = true := by
  have each : [ipv6ProtocolHopopts, ipv6ProtocolRouting, ipv6ProtocolDestOpts,
      ipv6ProtocolAh].all ipv6ExtensionHeaderIsSkippable = true := rfl
  exact List.all_eq_true.mp each header.kind header.known

/-- The bytes of one header. -/
def ExtensionHeader.bytes (header : ExtensionHeader) (next : UInt8) : List UInt8 :=
  next :: header.lengthByte :: header.body

theorem chainBytes_cons (header : ExtensionHeader) (rest : List ExtensionHeader) (last : UInt8) :
    chainBytes (header :: rest) last =
      header.bytes (firstKind rest last) ++ chainBytes rest last := rfl

theorem ExtensionHeader.length_bytes (header : ExtensionHeader) (next : UInt8) :
    (header.bytes next).length = ipv6ExtensionHeaderLength header.lengthByte header.kind :=
  header.legal

theorem ExtensionHeader.lengthAt (header : ExtensionHeader) (next : UInt8) (behind : List UInt8) :
    extensionLengthAt (header.bytes next ++ behind) header.kind 0 = (header.bytes next).length := by
  rw [header.length_bytes]
  rfl

/-- A walk from behind a header is a walk from before it. -/
theorem ExtensionWalk.header {header : ExtensionHeader} {next : UInt8} {behind : List UInt8}
    {packetLen : Nat} {result : IPv6Transport}
    (walk : ExtensionWalk behind packetLen next 0 result) :
    ExtensionWalk (header.bytes next ++ behind) ((header.bytes next).length + packetLen)
      header.kind 0 (result.relocate (header.bytes next).length) := by
  refine .skip header.skippable ?_ ?_
  · rw [header.lengthAt]
    omega
  · rw [header.lengthAt, Nat.zero_add]
    exact walk.relocate (header.bytes next)

/-- Over a chain that is all there, the walk comes to what stands behind it. -/
theorem chain_reached (other : ipv6ExtensionHeaderIsSkippable last = false)
    (behind : List UInt8) (packetLen : Nat) :
    ExtensionWalk (chainBytes chain last ++ behind) ((chainBytes chain last).length + packetLen)
      (firstKind chain last) 0 ⟨last, (chainBytes chain last).length, true⟩ := by
  induction chain with
  | nil => exact .reached other
  | cons header rest inductionHypothesis =>
      rw [chainBytes_cons, List.append_assoc, List.length_append, Nat.add_assoc]
      exact inductionHypothesis.header

/-- A chain that ends early stops the walk in front of a transport. -/
theorem chain_cut (behind : List UInt8) {captured packetLen : Nat}
    (inside : packetLen ≤ captured) (short : packetLen < (chainBytes chain last).length) :
    ∃ result, result.transportReachable = false ∧
      ExtensionWalk ((chainBytes chain last ++ behind).take captured) packetLen
        (firstKind chain last) 0 result := by
  induction chain generalizing captured packetLen with
  | nil => exact absurd short (Nat.not_lt_zero _)
  | cons header rest inductionHypothesis =>
      rw [chainBytes_cons] at short ⊢
      rw [List.length_append] at short
      rw [List.append_assoc]
      by_cases cut : packetLen < (header.bytes (firstKind rest last)).length
      · refine ⟨⟨header.kind, 0, false⟩, rfl, .cut header.skippable ?_⟩
        by_cases noLength : packetLen < 0 + 2
        · exact Or.inl noLength
        · right
          rw [extensionLengthAt, byteAt_take (by omega)]
          rw [header.length_bytes] at cut
          rw [Nat.zero_add]
          exact cut
      · obtain ⟨more, rfl⟩ := Nat.exists_eq_add_of_le (Nat.le_of_not_lt cut)
        obtain ⟨taken, rfl⟩ := Nat.exists_eq_add_of_le (Nat.le_trans (Nat.le_of_not_lt cut) inside)
        obtain ⟨result, unreached, walk⟩ := @inductionHypothesis taken more (by omega)
          (by omega)
        refine ⟨result.relocate (header.bytes (firstKind rest last)).length, unreached, ?_⟩
        rw [List.take_length_add_append]
        exact walk.header

end Chain

/-! ### Behind the fixed header -/

section Fixed

variable (fixed : Ipv6Fixed) (payloadLength : UInt16) (nextHeader : UInt8) (rest : List UInt8)

theorem Ipv6Fixed.length_encode : (fixed.encode payloadLength nextHeader).length = 40 := by
  simp [Ipv6Fixed.encode, fixed.startSized, fixed.sourceSized, fixed.destinationSized]

/-- The fixed header's fields, where the parser reads them. -/
structure Ipv6Fixed.Reads (data : List UInt8) : Prop where
  version : byteAt data 0 >>> 4 = 6
  payloadLength_eq : readU16 data 4 = payloadLength
  nextHeader_eq : byteAt data 6 = nextHeader
  source_eq : (data.drop 8).take 16 = fixed.source
  destination_eq : (data.drop 24).take 16 = fixed.destination

theorem Ipv6Fixed.reads_encode :
    fixed.Reads payloadLength nextHeader (fixed.encode payloadLength nextHeader ++ rest) := by
  have whole : HoldsAt (fixed.encode payloadLength nextHeader ++ rest) 0
      (fixed.encode payloadLength nextHeader) := holdsAt_zero.mpr ⟨rest, rfl⟩
  obtain ⟨whole, destination⟩ := holdsAt_append.mp whole
  obtain ⟨whole, source⟩ := holdsAt_append.mp whole
  obtain ⟨whole, hop⟩ := holdsAt_append.mp whole
  obtain ⟨start, length⟩ := holdsAt_append.mp whole
  simp only [List.length_append, fixed.startSized, length_encodeU16, fixed.sourceSized,
    List.length_cons, List.length_nil, Nat.zero_add, Nat.reduceAdd] at destination source hop length
  have first : byteAt (fixed.encode payloadLength nextHeader ++ rest) 0 = byteAt fixed.start 0 := by
    rw [Ipv6Fixed.encode]
    simp only [List.append_assoc]
    exact byteAt_append_left _ (by rw [fixed.startSized]; decide)
  refine ⟨first ▸ fixed.version, (holdsAt_u16.mp length).2, (holdsAt_cons.mp hop).1.2, ?_, ?_⟩
  · rw [← fixed.sourceSized]
    exact holdsAt_iff_slice.mp source
  · rw [← fixed.destinationSized]
    exact holdsAt_iff_slice.mp destination

/-- The metadata of the packet without its fixed header. -/
def Ipv6Fixed.metadata (fixed : Ipv6Fixed) (number : UInt8) (size : Nat) : PacketInfo :=
  clearTransportPorts (setIpProtocol number
    { initializePacketInfo size with
      srcIp := .ipv6 fixed.source
      dstIp := .ipv6 fixed.destination
      ipVersion := 6 })

theorem Ipv6Fixed.metadata_relocate (number : UInt8) (distance size : Nat) :
    fixed.metadata number (distance + size) = (fixed.metadata number size).relocate distance := by
  simp only [Ipv6Fixed.metadata, setIpProtocol_eq]
  rfl

theorem Ipv6Fixed.metadata_noTransport (number : UInt8) (size : Nat) :
    NoTransport (fixed.metadata number size) := by
  rw [Ipv6Fixed.metadata, setIpProtocol_eq]
  exact ⟨rfl, rfl, rfl, rfl⟩

theorem NoTransport.relocate {info : PacketInfo} (none : NoTransport info) (distance : Nat) :
    NoTransport (info.relocate distance) := by
  refine ⟨none.noPorts, none.noSequence, none.noPayload.1, ?_⟩
  rw [PacketInfo.relocate, none.noPayload.2]
  rfl

/-- The packet is parsed as what stands behind its fixed header. -/
theorem parseIpv6Packet_fixed (payloadDecodeLimit : Nat) :
    parseIpv6Packet payloadDecodeLimit (fixed.encode payloadLength nextHeader ++ rest)
        (fixed.encode payloadLength nextHeader ++ rest).length 0
        (initializePacketInfo (fixed.encode payloadLength nextHeader ++ rest).length) =
      (parseIpv6Transport payloadDecodeLimit rest (min rest.length payloadLength.toNat)
        (findIpv6Transport rest (min rest.length payloadLength.toNat) 0 nextHeader)
        (fixed.metadata
          (findIpv6Transport rest (min rest.length payloadLength.toNat) 0 nextHeader).nextHeader
          rest.length)).relocate 40 := by
  have sized := fixed.length_encode payloadLength nextHeader
  have reads := fixed.reads_encode payloadLength nextHeader rest
  have header : ipv6HeaderLen = 40 := rfl
  have total : (fixed.encode payloadLength nextHeader ++ rest).length = 40 + rest.length := by
    rw [List.length_append, sized]
  have parsedLen : min (40 + rest.length - 0) (40 + payloadLength.toNat) =
      40 + min rest.length payloadLength.toNat := by omega
  have metadata : ∀ number, ipv6Metadata (fixed.encode payloadLength nextHeader ++ rest) 0 number
      (initializePacketInfo (40 + rest.length)) =
      (fixed.metadata number rest.length).relocate 40 := by
    intro number
    rw [← fixed.metadata_relocate, ipv6Metadata, Nat.zero_add, Nat.zero_add, reads.source_eq,
      reads.destination_eq]
    rfl
  have walked := findIpv6Transport_relocate (fixed.encode payloadLength nextHeader) rest
    (min rest.length payloadLength.toNat) 0 nextHeader
  have transport := parseIpv6Transport_relocate (fixed.encode payloadLength nextHeader) rest
    payloadDecodeLimit (min rest.length payloadLength.toNat)
  rw [sized] at walked transport
  rw [parseIpv6Packet_eq, total, header, if_neg (by omega), reads.version, if_neg (by decide)]
  simp only [Nat.zero_add, reads.payloadLength_eq, reads.nextHeader_eq]
  rw [parsedLen, show 40 = 40 + 0 from rfl, walked, metadata, transport]
  rfl

end Fixed

/-! ### Packets of a chain -/

section Packets

variable (payloadDecodeLimit : Nat) (fixed : Ipv6Fixed) {chain : List ExtensionHeader}
variable {last : UInt8}

theorem Ipv6Transport.number_spec (transport : Ipv6Transport) :
    ipv6ExtensionHeaderIsSkippable transport.number = false ∧
      transport.number ≠ ipv6ProtocolFragment ∧
      ¬ (transport.number = ipv6ProtocolEsp || transport.number = ipv6ProtocolNoNext) = true ∧
      ipProtocolOf transport.number = transport.protocol := by
  cases transport <;> decide

theorem Ipv6Transport.behind (transport : Ipv6Transport) (packet : List UInt8)
    (packetLen offset : Nat) :
    transportBehind packet packetLen ⟨transport.number, offset, true⟩ =
      ⟨transport.number, offset, true⟩ := by
  obtain ⟨_, notFragment, notStopped, _⟩ := transport.number_spec
  rw [transportBehind, if_neg (by simp), if_neg notFragment, if_neg notStopped]

/-- A packet whose chain is all there is parsed as what stands behind the chain. -/
theorem parseIpv6Packet_carrying (transport : Ipv6Transport) (behind : List UInt8) {covered : Nat}
    (short : (chainBytes chain transport.number).length + covered < 65536) :
    parseIpv6Packet payloadDecodeLimit (fixed.carrying chain transport covered behind)
        (fixed.carrying chain transport covered behind).length 0
        (initializePacketInfo (fixed.carrying chain transport covered behind).length) =
      (parseIpv6Transport payloadDecodeLimit behind (min behind.length covered)
        ⟨transport.number, 0, true⟩ (fixed.metadata transport.number behind.length)).relocate
        (40 + (chainBytes chain transport.number).length) := by
  have length : (UInt16.ofNat ((chainBytes chain transport.number).length + covered)).toNat =
      (chainBytes chain transport.number).length + covered := UInt16.toNat_ofNat_of_lt' short
  have parsedLen : min (chainBytes chain transport.number ++ behind).length
      ((chainBytes chain transport.number).length + covered) =
      (chainBytes chain transport.number).length + min behind.length covered := by
    rw [List.length_append]
    omega
  have found := findIpv6Transport_of_walk (@chain_reached chain _
    transport.number_spec.1 behind (min behind.length covered))
  rw [transport.behind] at found
  have moved := parseIpv6Transport_relocate (chainBytes chain transport.number) behind
    payloadDecodeLimit (min behind.length covered)
    (fixed.metadata transport.number behind.length) ⟨transport.number, 0, true⟩
  rw [Ipv6Fixed.carrying, Ipv6Fixed.packet, parseIpv6Packet_fixed, length, parsedLen, found,
    List.length_append, fixed.metadata_relocate, ← PacketInfo.relocate_relocate, ← moved]
  rfl

/-- A chain that is cut, or that leads to no transport, leaves the walk without one. -/
theorem chain_unreached (behind : List UInt8) {captured packetLen : Nat}
    (inside : packetLen ≤ captured)
    (unreached : packetLen < (chainBytes chain last).length ∨
      last ∈ [ipv6ProtocolFragment, ipv6ProtocolEsp, ipv6ProtocolNoNext]) :
    (findIpv6Transport ((chainBytes chain last ++ behind).take captured) packetLen 0
      (firstKind chain last)).transportReachable = false := by
  by_cases short : packetLen < (chainBytes chain last).length
  · obtain ⟨result, stopped, walk⟩ := chain_cut behind inside short
    rw [findIpv6Transport_of_walk walk, transportBehind, stopped]
    exact stopped
  · have stops : ([ipv6ProtocolFragment, ipv6ProtocolEsp, ipv6ProtocolNoNext].all fun last =>
        ipv6ExtensionHeaderIsSkippable last = false ∧
          (last = ipv6ProtocolFragment ∨
            (last = ipv6ProtocolEsp || last = ipv6ProtocolNoNext) = true)) = true := rfl
    obtain ⟨other, kind⟩ :=
      of_decide_eq_true (List.all_eq_true.mp stops last (unreached.resolve_left short))
    obtain ⟨more, rfl⟩ := Nat.exists_eq_add_of_le (Nat.le_of_not_lt short)
    obtain ⟨taken, rfl⟩ := Nat.exists_eq_add_of_le (Nat.le_trans (Nat.le_of_not_lt short) inside)
    rw [List.take_length_add_append,
      findIpv6Transport_of_walk (chain_reached other (behind.take taken) more), transportBehind,
      if_neg (by simp)]
    by_cases fragment : last = ipv6ProtocolFragment
    · rw [if_pos fragment]
    · rw [if_neg fragment, if_pos (kind.resolve_left fragment)]

theorem parseIpv6Packet_unreached (payloadLength : UInt16) (behind : List UInt8) (captured : Nat)
    (unreached : captured < 40 + (chainBytes chain last).length ∨
      payloadLength.toNat < (chainBytes chain last).length ∨
      last ∈ [ipv6ProtocolFragment, ipv6ProtocolEsp, ipv6ProtocolNoNext]) :
    NoTransport (parseIpv6Packet payloadDecodeLimit
      ((fixed.packet payloadLength chain last behind).take captured)
      ((fixed.packet payloadLength chain last behind).take captured).length 0
      (initializePacketInfo
        ((fixed.packet payloadLength chain last behind).take captured).length)) := by
  have sized := fixed.length_encode payloadLength (firstKind chain last)
  have header : ipv6HeaderLen = 40 := rfl
  by_cases noHeader : ((fixed.packet payloadLength chain last behind).take captured).length < 40
  · rw [parseIpv6Packet_eq, if_pos (by omega)]
    exact ⟨rfl, rfl, rfl, rfl⟩
  rw [List.length_take] at noHeader
  obtain ⟨taken, rfl⟩ := Nat.exists_eq_add_of_le (show 40 ≤ captured by omega)
  have split : (fixed.packet payloadLength chain last behind).take (40 + taken) =
      fixed.encode payloadLength (firstKind chain last) ++
        (chainBytes chain last ++ behind).take taken := by
    rw [Ipv6Fixed.packet, ← sized, List.take_length_add_append]
  have early : min ((chainBytes chain last ++ behind).take taken).length payloadLength.toNat <
        (chainBytes chain last).length ∨
      last ∈ [ipv6ProtocolFragment, ipv6ProtocolEsp, ipv6ProtocolNoNext] := by
    rw [List.length_take]
    rcases unreached with cut | uncovered | stops
    · left
      omega
    · left
      omega
    · exact Or.inr stops
  have inside : min ((chainBytes chain last ++ behind).take taken).length payloadLength.toNat ≤
      taken := by
    rw [List.length_take]
    omega
  rw [split, parseIpv6Packet_fixed, parseIpv6Transport, chain_unreached behind inside early]
  exact (fixed.metadata_noTransport _ _).relocate 40

/-- The protocol is the transport's, whatever of the segment is there. -/
theorem parseIpv6Transport_protocol (transport : Ipv6Transport) (packet : List UInt8)
    (packetLen size : Nat) :
    (parseIpv6Transport payloadDecodeLimit packet packetLen ⟨transport.number, 0, true⟩
      (fixed.metadata transport.number size)).protocol = transport.protocol := by
  have cleared : clearTransportPorts (fixed.metadata transport.number size) =
      fixed.metadata transport.number size := rfl
  have viaIpv4 : parseIpv6Transport payloadDecodeLimit packet packetLen
      ⟨transport.number, 0, true⟩ (fixed.metadata transport.number size) =
      parseIpv4Transport payloadDecodeLimit packet packetLen 0
        (fixed.metadata transport.number size) := by
    rw [parseIpv4Transport, cleared]
    rfl
  have fields := @parseIpv4Transport_fields payloadDecodeLimit packetLen 0 packet
    (fixed.metadata transport.number size) rfl
  have protocol : (fixed.metadata transport.number size).protocol = transport.protocol :=
    (setIpProtocol_protocol _ _).trans transport.number_spec.2.2.2
  rw [viaIpv4, fields.endpoints.protocol_eq, protocol]

/-- Under each framing the packet is parsed where it begins. -/
theorem Ipv6Framing.parsed (framing : Ipv6Framing) {packet : List UInt8}
    (version : packet ≠ [] → byteAt packet 0 >>> 4 = 6) :
    framing.parse payloadDecodeLimit packet =
      (parseIpv6Packet payloadDecodeLimit packet packet.length 0
        (initializePacketInfo packet.length)).relocate framing.bytes.length := by
  cases framing with
  | raw =>
      show parserParsePacketWithDatalink payloadDecodeLimit packet .raw = PacketInfo.relocate 0 _
      rw [PacketInfo.relocate_zero]
      by_cases empty : packet = []
      · rw [empty]
        rfl
      · have selected := @selectNetworkLayer_raw .v6 packet (version empty)
        rw [parserParsePacketWithDatalink, selected]
        rfl
  | ipv6 =>
      show parserParsePacketWithDatalink payloadDecodeLimit packet .ipv6 = PacketInfo.relocate 0 _
      rw [PacketInfo.relocate_zero]
      by_cases empty : packet = []
      · rw [empty]
        rfl
      · rw [parserParsePacketWithDatalink, selectNetworkLayer,
          if_neg (fun short => empty (List.eq_nil_of_length_eq_zero short))]
  | link header =>
      show parserParsePacketWithDatalink payloadDecodeLimit (header.bytes ++ packet)
        header.datalink = PacketInfo.relocate header.bytes.length _
      rw [parserParsePacketWithDatalink, header.selectNetworkLayer_bytes,
        initializePacketInfo_append, List.length_append]
      exact parseIpv6Packet_relocate header.bytes packet payloadDecodeLimit packet.length 0 _

/-- A packet begins with its version. -/
theorem Ipv6Fixed.packet_version (payloadLength : UInt16) (behind : List UInt8) :
    byteAt (fixed.packet payloadLength chain last behind) 0 >>> 4 = 6 :=
  (fixed.reads_encode payloadLength (firstKind chain last) _).version

theorem Ipv6Fixed.take_packet_version (payloadLength : UInt16) (behind : List UInt8)
    (captured : Nat) :
    (fixed.packet payloadLength chain last behind).take captured ≠ [] →
      byteAt ((fixed.packet payloadLength chain last behind).take captured) 0 >>> 4 = 6 := by
  intro someByte
  have positive : 0 < captured := by
    rw [ne_eq, List.take_eq_nil_iff, not_or] at someByte
    omega
  rw [byteAt_take positive]
  exact fixed.packet_version payloadLength behind

/-- A packet in its framing, by what stands behind its chain. -/
theorem Ipv6Framing.parse_carrying (framing : Ipv6Framing) (transport : Ipv6Transport)
    (behind : List UInt8) {covered : Nat}
    (short : (chainBytes chain transport.number).length + covered < 65536) :
    framing.parse payloadDecodeLimit (fixed.carrying chain transport covered behind) =
      (parseIpv6Transport payloadDecodeLimit behind (min behind.length covered)
        ⟨transport.number, 0, true⟩ (fixed.metadata transport.number behind.length)).relocate
        (framing.bytes.length + (40 + (chainBytes chain transport.number).length)) := by
  have version : byteAt (fixed.carrying chain transport covered behind) 0 >>> 4 = 6 :=
    fixed.packet_version _ behind
  rw [framing.parsed payloadDecodeLimit (fun _ => version),
    parseIpv6Packet_carrying payloadDecodeLimit fixed transport behind short,
    PacketInfo.relocate_relocate]

end Packets

/-- Over a chain that is all there the parser reports the transport's protocol and what it reports
of the same packet without the chain, moved by the chain's length. A chain that the capture or the
payload length cuts, or that leads to a Fragment, ESP or No-Next header, shows no transport. The
walk over the headers ends on every input. -/
theorem extension_chain_transparent (payloadDecodeLimit : Nat) (framing : Ipv6Framing)
    (fixed : Ipv6Fixed) (chain : List ExtensionHeader) (behind : List UInt8) :
    (∀ (transport : Ipv6Transport) (covered alone : Nat),
      (chainBytes chain transport.number).length + covered < 65536 → alone < 65536 →
      min behind.length covered = min behind.length alone →
      (framing.parse payloadDecodeLimit
        (fixed.carrying chain transport covered behind)).protocol = transport.protocol ∧
      framing.parse payloadDecodeLimit (fixed.carrying chain transport covered behind) =
        (framing.parse payloadDecodeLimit (fixed.carrying [] transport alone behind)).relocate
          (chainBytes chain transport.number).length) ∧
    (∀ (last : UInt8) (payloadLength : UInt16) (captured : Nat),
      captured < 40 + (chainBytes chain last).length ∨
        payloadLength.toNat < (chainBytes chain last).length ∨
        last ∈ [ipv6ProtocolFragment, ipv6ProtocolEsp, ipv6ProtocolNoNext] →
      NoTransport (framing.parse payloadDecodeLimit
        ((fixed.packet payloadLength chain last behind).take captured))) ∧
    ∀ (packet : List UInt8) (packetLen offset : Nat) (nextHeader : UInt8), ∃ stopped,
      ExtensionWalk packet packetLen nextHeader offset stopped ∧
      findIpv6Transport packet packetLen offset nextHeader =
        transportBehind packet packetLen stopped := by
  refine ⟨?_, ?_, ?_⟩
  · intro transport covered alone short aloneShort same
    have empty : (chainBytes [] transport.number).length = 0 := rfl
    rw [framing.parse_carrying payloadDecodeLimit fixed transport behind short,
      framing.parse_carrying payloadDecodeLimit fixed transport behind
        (show (chainBytes [] transport.number).length + alone < 65536 by omega), ← same]
    refine ⟨parseIpv6Transport_protocol payloadDecodeLimit fixed transport behind _ _, ?_⟩
    rw [PacketInfo.relocate_relocate, empty]
    congr 1
    omega
  · intro last payloadLength captured unreached
    rw [framing.parsed payloadDecodeLimit
      (fixed.take_packet_version payloadLength behind captured)]
    exact (parseIpv6Packet_unreached payloadDecodeLimit fixed payloadLength behind captured
      unreached).relocate _
  · intro packet packetLen offset nextHeader
    have walk : ExtensionWalk packet packetLen nextHeader offset _ := extensionWalk_iff.mpr rfl
    exact ⟨_, walk, findIpv6Transport_of_walk walk⟩

/-- A datagram from port 4000 to port 53 with four bytes of payload. -/
def sampleChainedDatagram : List UInt8 := [0x0f, 0xa0, 0, 53, 0, 12, 0, 0, 1, 2, 3, 4]

/-- A datagram behind a hop-by-hop header, with its payload eight bytes further, and the same header
cut. -/
theorem extension_chain_transparent_hopByHop :
    let fixed : Ipv6Fixed :=
      { start := [0x60, 0, 0, 0], startSized := rfl, version := rfl, hopLimit := 64,
        source := List.replicate 16 1, sourceSized := rfl,
        destination := List.replicate 16 2, destinationSized := rfl }
    let chain : List ExtensionHeader :=
      [{ kind := ipv6ProtocolHopopts, known := by decide, lengthByte := 0,
         body := [1, 4, 0, 0, 0, 0], legal := rfl }]
    let alone := Ipv6Framing.raw.parse 65536 (fixed.carrying [] .udp 12 sampleChainedDatagram)
    (alone.dstPort = 53 ∧ alone.payload = some { offset := 48, bytes := [1, 2, 3, 4] }) ∧
      Ipv6Framing.raw.parse 65536 (fixed.carrying chain .udp 12 sampleChainedDatagram) =
        alone.relocate 8 ∧
      NoTransport (Ipv6Framing.raw.parse 65536
        ((fixed.packet 20 chain 17 sampleChainedDatagram).take 44)) := by
  intro fixed chain alone
  have transparent := extension_chain_transparent 65536 .raw fixed chain sampleChainedDatagram
  exact ⟨by decide +kernel, (transparent.1 .udp 12 12 (by decide) (by decide) rfl).2,
    transparent.2.1 17 20 44 (Or.inl (by decide))⟩

end MiniSniffer
