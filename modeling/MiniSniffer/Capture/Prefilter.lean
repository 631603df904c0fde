import MiniSniffer.Capture.Loop
import MiniSniffer.Parser.Fields

/-!
Contract: the kernel pre-filter (`build_bpf_filter_expression` in `src/capture.c`).

Owns the expression that is installed for a configuration, as the list of its
primitives, which Ethernet frames each primitive accepts, as pcap-filter(7) says
(byte tests at fixed offsets behind the link header), and the software filter
that each primitive stands for. Owns their comparison frame by frame: a rejected
frame is not what the expression stands for, unless it is an IPv6 frame whose
transport the expression does not look for.

Compiling an expression fails for a text that is no address, and then nothing
is installed. An expression has at most 85 bytes, which the 256 of its buffer
hold, so no clause is ever refused for want of room.

Does not own runs of frames: see `Capture.PrefilterRuns`.
-/

namespace MiniSniffer

open Foundation

/-! ### The expression -/

/-- A clause of the expression. -/
inductive BpfPrimitive where
  | tcp
  | udp
  | icmpOrIcmp6
  | arp
  | port (number : UInt16)
  | host (address : IpText)
deriving DecidableEq, Repr

/-- Protocol "other" has no equivalent. -/
def protocolPrimitive (protocol : Protocol) : Option BpfPrimitive :=
  match protocol with
  | .tcp => some .tcp
  | .udp => some .udp
  | .icmp => some .icmpOrIcmp6
  | .arp => some .arp
  | .other => none

/-- The clauses that are joined by "and"; there is no expression without one. -/
def buildBpfFilterExpression (config : AppConfig) : List BpfPrimitive :=
  (if config.filterProtocolEnabled then (protocolPrimitive config.filterProtocol).toList else []) ++
    (if config.filterPortEnabled then [.port config.filterPort] else []) ++
    if config.filterHostEnabled then [.host config.filterHost] else []

/-- The text is an address that `host` can be compiled with. -/
def IpText.isAddress (text : IpText) : Bool :=
  match text with
  | .empty => false
  | .ipv4 bytes => bytes.length = 4
  | .ipv6 bytes => bytes.length = 16

def BpfPrimitive.compiles (primitive : BpfPrimitive) : Bool :=
  match primitive with
  | .host address => address.isAddress
  | _ => true

/-- `install_bpf_filter`: a compilation failure falls back to software filtering. -/
def installBpfFilter (config : AppConfig) : Option (List BpfPrimitive) :=
  let expression := buildBpfFilterExpression config
  if config.noBpf || expression.isEmpty then none
  else if expression.all BpfPrimitive.compiles then some expression
  else none

/-! ### Frames -/

/-- A load past the end of a frame rejects it. -/
def byteIs (frame : List UInt8) (offset : Nat) (value : UInt8) : Bool :=
  offset < frame.length && byteAt frame offset = value

def wordIs (frame : List UInt8) (offset : Nat) (value : UInt16) : Bool :=
  offset + 1 < frame.length && readU16 frame offset = value

def addressIs (frame : List UInt8) (offset : Nat) (bytes : List UInt8) : Bool :=
  offset + bytes.length ≤ frame.length && (frame.drop offset).take bytes.length = bytes

def ipProtocolSctp : UInt8 := 132

/-- "ip proto N" -/
def ipProtoIs (frame : List UInt8) (number : UInt8) : Bool :=
  wordIs frame 12 ethertypeIpv4 && byteIs frame 23 number

/-- "ip6 proto N", directly or behind a Fragment header. -/
def ip6ProtoIs (frame : List UInt8) (number : UInt8) : Bool :=
  wordIs frame 12 ethertypeIpv6 &&
    (byteIs frame 20 number || (byteIs frame 20 ipv6ProtocolFragment && byteIs frame 54 number))

/-- The protocols whose ports `port` looks at. -/
def hasPortProtocol (frame : List UInt8) (offset : Nat) : Bool :=
  byteIs frame offset ipv4ProtocolTcp || byteIs frame offset ipv4ProtocolUdp ||
    byteIs frame offset ipProtocolSctp

/-- The source or destination port of the transport header at an offset. -/
def portIs (frame : List UInt8) (offset : Nat) (number : UInt16) : Bool :=
  wordIs frame offset number || wordIs frame (offset + 2) number

def ip4PortIs (frame : List UInt8) (number : UInt16) : Bool :=
  wordIs frame 12 ethertypeIpv4 && hasPortProtocol frame 23 && 21 < frame.length &&
    readU16 frame 20 &&& ipv4FragmentOffsetMask = 0 &&
    portIs frame (ipv4TransportOffset frame 14) number

def ip6PortIs (frame : List UInt8) (number : UInt16) : Bool :=
  wordIs frame 12 ethertypeIpv6 && hasPortProtocol frame 20 && portIs frame 54 number

def hostIs (frame : List UInt8) (address : IpText) : Bool :=
  match address with
  | .empty => false
  | .ipv4 bytes =>
      (wordIs frame 12 ethertypeIpv4 && (addressIs frame 26 bytes || addressIs frame 30 bytes)) ||
        (wordIs frame 12 ethertypeArp && (addressIs frame 28 bytes || addressIs frame 38 bytes))
  | .ipv6 bytes =>
      wordIs frame 12 ethertypeIpv6 && (addressIs frame 22 bytes || addressIs frame 38 bytes)

def BpfPrimitive.accepts (frame : List UInt8) (primitive : BpfPrimitive) : Bool :=
  match primitive with
  | .tcp => ipProtoIs frame ipv4ProtocolTcp || ip6ProtoIs frame ipv4ProtocolTcp
  | .udp => ipProtoIs frame ipv4ProtocolUdp || ip6ProtoIs frame ipv4ProtocolUdp
  | .icmpOrIcmp6 => ipProtoIs frame ipv4ProtocolIcmp || ip6ProtoIs frame ipv6ProtocolIcmpv6
  | .arp => wordIs frame 12 ethertypeArp
  | .port number => ip4PortIs frame number || ip6PortIs frame number
  | .host address => hostIs frame address

/-- The expression that is installed; without one every frame is handed over. -/
def installedExpression (config : AppConfig) : List BpfPrimitive :=
  (installBpfFilter config).getD []

/-- libpcap hands the frame over. -/
def delivers (config : AppConfig) (frame : List UInt8) : Bool :=
  (installedExpression config).all (BpfPrimitive.accepts frame)

/-- What the driver hands over of the traffic, whatever an installed expression means to it. -/
def handedOver (kernel : List BpfPrimitive → CapturedPacket → Bool) (config : AppConfig)
    (traffic : List CapturedPacket) : List CapturedPacket :=
  match installBpfFilter config with
  | none => traffic
  | some expression => traffic.filter (kernel expression)

/-! ### What the expression stands for -/

/-- The software filter that a clause stands for. -/
def BpfPrimitive.describes (info : PacketInfo) (primitive : BpfPrimitive) : Bool :=
  match primitive with
  | .tcp => info.protocol = .tcp
  | .udp => info.protocol = .udp
  | .icmpOrIcmp6 => info.protocol = .icmp
  | .arp => info.protocol = .arp
  | .port number => info.hasPorts && (info.srcPort = number || info.dstPort = number)
  | .host address => info.srcIp = address || info.dstIp = address

/-- The packet is one that the installed expression stands for. -/
def isDescribed (config : AppConfig) (info : PacketInfo) : Bool :=
  (installedExpression config).all (BpfPrimitive.describes info)

/-- The transport of an IPv6 frame is not where the expression looks: behind an extension header,
or ICMP instead of ICMPv6. -/
def hidesTransport (frame : List UInt8) : Bool :=
  readU16 frame 12 = ethertypeIpv6 &&
    (ipv6ExtensionHeaderIsSkippable (byteAt frame 20) ||
      (ipv6TransportOf frame 14).nextHeader = ipv4ProtocolIcmp)

section Frames

variable {frame bytes : List UInt8} {info : PacketInfo} {offset count : Nat} {config : AppConfig}
variable {primitive : BpfPrimitive}

theorem byteIs_iff {value : UInt8} (inside : offset < frame.length) :
    byteIs frame offset value = true ↔ byteAt frame offset = value := by
  simp [byteIs, inside]

theorem wordIs_iff {value : UInt16} (inside : offset + 1 < frame.length) :
    wordIs frame offset value = true ↔ readU16 frame offset = value := by
  simp [wordIs, inside]

theorem addressIs_iff (inside : offset + count ≤ frame.length) (sized : bytes.length = count) :
    addressIs frame offset bytes = true ↔ (frame.drop offset).take count = bytes := by
  simp [addressIs, sized, inside]

/-- Only one EtherType is announced. -/
theorem wordIs_other {announced value : UInt16} (same : readU16 frame offset = announced)
    (different : announced ≠ value) : wordIs frame offset value = false := by
  simp [wordIs, same, different]

theorem ipv4ProtocolOf_iff (number : UInt8) :
    (ipv4ProtocolOf number = .icmp ↔ number = ipv4ProtocolIcmp) ∧
      (ipv4ProtocolOf number = .tcp ↔ number = ipv4ProtocolTcp) ∧
      (ipv4ProtocolOf number = .udp ↔ number = ipv4ProtocolUdp) ∧
      ipv4ProtocolOf number ≠ .arp := by
  unfold ipv4ProtocolOf
  split_ifs with icmp tcp udp
  · subst icmp
    decide
  · subst tcp
    decide
  · subst udp
    decide
  · simp [icmp, tcp, udp]

theorem ipProtocolOf_iff (number : UInt8) :
    (ipProtocolOf number = .icmp ↔ number = ipv4ProtocolIcmp ∨ number = ipv6ProtocolIcmpv6) ∧
      (ipProtocolOf number = .tcp ↔ number = ipv4ProtocolTcp) ∧
      (ipProtocolOf number = .udp ↔ number = ipv4ProtocolUdp) ∧
      ipProtocolOf number ≠ .arp := by
  unfold ipProtocolOf
  split_ifs with icmp tcp udp
  · simp only [Bool.or_eq_true, decide_eq_true_eq] at icmp
    rcases icmp with rfl | rfl <;> decide
  · subst tcp
    decide
  · subst udp
    decide
  · simp only [Bool.or_eq_true, decide_eq_true_eq, not_or] at icmp
    simp [icmp, tcp, udp]

/-- Two ports that are read from an offset of the frame. -/
theorem portIs_iff {number : UInt16} (ports : info.PortsAt frame offset) :
    portIs frame offset number = true ↔ info.srcPort = number ∨ info.dstPort = number := by
  have inside := ports.1
  rw [portIs, Bool.or_eq_true, wordIs_iff (by omega), wordIs_iff (by omega), ports.2.1, ports.2.2]

/-! ### IPv4 -/

section IPv4

variable (announced : readU16 frame 12 = ethertypeIpv4) (fields : Ipv4Fields frame 14 info)
include announced fields

theorem Ipv4Fields.ipProtoIs_iff (number : UInt8) :
    ipProtoIs frame number = true ↔ byteAt frame 23 = number := by
  have inside := fields.inside
  rw [ipProtoIs, Bool.and_eq_true, wordIs_iff (by omega), byteIs_iff (by omega)]
  exact and_iff_right announced

omit fields in
theorem ip6ProtoIs_of_ipv4 (number : UInt8) : ip6ProtoIs frame number = false := by
  rw [ip6ProtoIs, wordIs_other announced (by decide)]
  rfl

/-- A packet with ports is no fragment, and its ports are where `port` looks. -/
theorem Ipv4Fields.portIs_iff (ported : info.hasPorts = true) (number : UInt16) :
    (BpfPrimitive.port number).accepts frame = true ↔
      info.srcPort = number ∨ info.dstPort = number := by
  have inside := fields.inside
  obtain ⟨whole, transport, ports⟩ := fields.ports ported
  have numbers := ipv4ProtocolOf_iff (byteAt frame 23)
  have protocolEq : info.protocol = ipv4ProtocolOf (byteAt frame 23) := fields.protocol_eq
  have carried : hasPortProtocol frame 23 = true := by
    simp only [hasPortProtocol, Bool.or_eq_true, byteIs_iff (show 23 < frame.length by omega)]
    rcases transport with tcp | udp
    · exact Or.inl (Or.inl (numbers.2.1.mp (protocolEq.symm.trans tcp)))
    · exact Or.inl (Or.inr (numbers.2.2.1.mp (protocolEq.symm.trans udp)))
  have unfragmented : readU16 frame 20 &&& ipv4FragmentOffsetMask = 0 := by
    have field : readU16 frame 20 &&& (ipv4FragmentOffsetMask ||| ipv4MoreFragmentsFlag) = 0 :=
      fields.whole whole
    have mask : ipv4FragmentOffsetMask =
        (ipv4FragmentOffsetMask ||| ipv4MoreFragmentsFlag) &&& ipv4FragmentOffsetMask := by
      decide
    rw [mask, ← UInt16.and_assoc, field]
    rfl
  have notIpv6 : ip6PortIs frame number = false := by
    rw [ip6PortIs, wordIs_other announced (by decide)]
    rfl
  have long : 21 < frame.length := by omega
  rw [BpfPrimitive.accepts, notIpv6, Bool.or_false, ip4PortIs,
    (wordIs_iff (by omega)).mpr announced, carried, decide_eq_true long,
    decide_eq_true unfragmented]
  simp only [Bool.true_and]
  exact MiniSniffer.portIs_iff ports

theorem Ipv4Fields.hostIs_iff {address : IpText} (isAddress : address.isAddress = true) :
    hostIs frame address = true ↔ info.srcIp = address ∨ info.dstIp = address := by
  have inside := fields.inside
  rw [fields.srcIp_eq, fields.dstIp_eq]
  cases address with
  | empty => contradiction
  | ipv4 bytes =>
      have sized : bytes.length = 4 := by simpa [IpText.isAddress] using isAddress
      rw [hostIs, wordIs_other announced (show ethertypeIpv4 ≠ ethertypeArp by decide),
        (wordIs_iff (by omega)).mpr announced, Bool.false_and, Bool.or_false, Bool.true_and,
        Bool.or_eq_true, addressIs_iff (by omega) sized, addressIs_iff (by omega) sized,
        IpText.ipv4.injEq, IpText.ipv4.injEq]
  | ipv6 bytes =>
      rw [hostIs, wordIs_other announced (show ethertypeIpv4 ≠ ethertypeIpv6 by decide)]
      simp

/-- On IPv4 every clause is exact, except that `port` also looks into packets whose ports are not
parsed. -/
theorem Ipv4Fields.accepts_iff (compiles : primitive.compiles = true)
    (ported : ∀ number, primitive = .port number → info.hasPorts = true) :
    primitive.accepts frame = true ↔ primitive.describes info = true := by
  have numbers := ipv4ProtocolOf_iff (byteAt frame 23)
  have protocolEq : info.protocol = ipv4ProtocolOf (byteAt frame 23) := fields.protocol_eq
  cases primitive with
  | tcp =>
      rw [BpfPrimitive.accepts, ip6ProtoIs_of_ipv4 announced, Bool.or_false,
        fields.ipProtoIs_iff announced, ← numbers.2.1, ← protocolEq]
      simp [BpfPrimitive.describes]
  | udp =>
      rw [BpfPrimitive.accepts, ip6ProtoIs_of_ipv4 announced, Bool.or_false,
        fields.ipProtoIs_iff announced, ← numbers.2.2.1, ← protocolEq]
      simp [BpfPrimitive.describes]
  | icmpOrIcmp6 =>
      rw [BpfPrimitive.accepts, ip6ProtoIs_of_ipv4 announced, Bool.or_false,
        fields.ipProtoIs_iff announced, ← numbers.1, ← protocolEq]
      simp [BpfPrimitive.describes]
  | arp =>
      rw [BpfPrimitive.accepts, wordIs_other announced (by decide), BpfPrimitive.describes,
        protocolEq]
      simp [numbers.2.2.2]
  | port number =>
      have hasPorts := ported number rfl
      rw [fields.portIs_iff announced hasPorts]
      simp [BpfPrimitive.describes, hasPorts]
  | host address =>
      rw [BpfPrimitive.accepts, fields.hostIs_iff announced compiles]
      simp [BpfPrimitive.describes]

end IPv4

/-! ### IPv6 and ARP -/

/-- Without an extension header the transport is the one the fixed header names, or the Fragment
header right behind it. -/
theorem ipv6TransportOf_plain
    (plain : ipv6ExtensionHeaderIsSkippable (byteAt frame 20) = false) :
    (ipv6TransportOf frame 14).nextHeader = byteAt frame 20 ∧
        (ipv6TransportOf frame 14).transportOffset = 54 ∨
      byteAt frame 20 = ipv6ProtocolFragment ∧
        (ipv6TransportOf frame 14).transportReachable = false ∧ 62 ≤ frame.length ∧
        (ipv6TransportOf frame 14).nextHeader = byteAt frame 54 := by
  have found : skipIpv6Extensions frame (ipv6ParsedLength frame 14)
      (ipv6ParsedLength frame 14 + 1) (byteAt frame 20) 54 = ⟨byteAt frame 20, 54, true⟩ := by
    rw [skipIpv6Extensions, plain]
    rfl
  have transport : ipv6TransportOf frame 14 = findIpv6Transport frame (ipv6ParsedLength frame 14) 54
      (byteAt frame 20) := rfl
  rw [transport]
  simp only [findIpv6Transport, found]
  by_cases fragment : byteAt frame 20 = ipv6ProtocolFragment
  · by_cases long : ipv6ParsedLength frame 14 ≥ 54 + 8
    · right
      have bounded : ipv6ParsedLength frame 14 ≤ max 14 frame.length := by
        unfold ipv6ParsedLength
        omega
      simp only [Bool.not_true, Bool.false_eq_true, if_false, if_pos fragment, if_pos long]
      exact ⟨fragment, trivial, by omega, trivial⟩
    · left
      simp [fragment, long]
  · left
    simp only [Bool.not_true, Bool.false_eq_true, if_false, if_neg fragment]
    split_ifs <;> exact ⟨rfl, rfl⟩

section IPv6

variable (announced : readU16 frame 12 = ethertypeIpv6)
variable (fields : Ipv6Fields frame 14 (ipv6TransportOf frame 14) info)
include announced fields

theorem Ipv6Fields.ip6ProtoIs_iff (number : UInt8) :
    ip6ProtoIs frame number = true ↔
      byteAt frame 20 = number ∨
        byteAt frame 20 = ipv6ProtocolFragment ∧ byteIs frame 54 number = true := by
  have inside := fields.inside
  rw [ip6ProtoIs, Bool.and_eq_true, wordIs_iff (by omega), Bool.or_eq_true, Bool.and_eq_true,
    byteIs_iff (by omega), byteIs_iff (by omega)]
  exact and_iff_right announced

omit fields in
theorem ipProtoIs_of_ipv6 (number : UInt8) : ipProtoIs frame number = false := by
  rw [ipProtoIs, wordIs_other announced (by decide)]
  rfl

/-- A next header that the transport search ends at is one the expression looks at. -/
theorem Ipv6Fields.ip6ProtoIs_of {number : UInt8}
    (plain : ipv6ExtensionHeaderIsSkippable (byteAt frame 20) = false)
    (found : (ipv6TransportOf frame 14).nextHeader = number) : ip6ProtoIs frame number = true := by
  rw [fields.ip6ProtoIs_iff announced]
  rcases ipv6TransportOf_plain plain with ⟨direct, _⟩ | ⟨fragment, _, long, behind⟩
  · exact Or.inl (direct.symm.trans found)
  · exact Or.inr ⟨fragment, (byteIs_iff (by omega)).mpr (behind.symm.trans found)⟩

/-- A transport that the expression takes to be reached, and is. -/
theorem Ipv6Fields.nextHeader_of_ip6ProtoIs {number : UInt8}
    (reachable : (ipv6TransportOf frame 14).transportReachable = true)
    (plain : ipv6ExtensionHeaderIsSkippable number = false)
    (found : ip6ProtoIs frame number = true) :
    (ipv6TransportOf frame 14).nextHeader = number ∨
      (ipv6TransportOf frame 14).nextHeader = ipv6ProtocolFragment := by
  rcases (fields.ip6ProtoIs_iff announced number).mp found with rfl | ⟨fragment, _⟩
  · rcases ipv6TransportOf_plain plain with ⟨direct, _⟩ | ⟨_, unreachable, _⟩
    · exact Or.inl direct
    · rw [reachable] at unreachable
      contradiction
  · rcases ipv6TransportOf_plain (by rw [fragment]; rfl) with ⟨direct, _⟩ | ⟨_, unreachable, _⟩
    · exact Or.inr (direct.trans fragment)
    · rw [reachable] at unreachable
      contradiction

theorem Ipv6Fields.portIs_iff (ported : info.hasPorts = true)
    (plain : ipv6ExtensionHeaderIsSkippable (byteAt frame 20) = false) (number : UInt16) :
    (BpfPrimitive.port number).accepts frame = true ↔
      info.srcPort = number ∨ info.dstPort = number := by
  have inside := fields.inside
  obtain ⟨reachable, transport, ports⟩ := fields.ports ported
  rcases ipv6TransportOf_plain plain with ⟨direct, offset⟩ | ⟨_, unreachable, _⟩
  · have numbers := ipProtocolOf_iff (byteAt frame 20)
    have protocolEq := fields.protocol_eq
    rw [direct] at protocolEq
    have carried : hasPortProtocol frame 20 = true := by
      simp only [hasPortProtocol, Bool.or_eq_true, byteIs_iff (show 20 < frame.length by omega)]
      rcases transport with tcp | udp
      · exact Or.inl (Or.inl (numbers.2.1.mp (protocolEq.symm.trans tcp)))
      · exact Or.inl (Or.inr (numbers.2.2.1.mp (protocolEq.symm.trans udp)))
    have notIpv4 : ip4PortIs frame number = false := by
      rw [ip4PortIs, wordIs_other announced (by decide)]
      rfl
    rw [offset] at ports
    rw [BpfPrimitive.accepts, notIpv4, Bool.false_or, ip6PortIs,
      (wordIs_iff (by omega)).mpr announced, carried]
    simp only [Bool.true_and]
    exact MiniSniffer.portIs_iff ports
  · rw [reachable] at unreachable
    contradiction

theorem Ipv6Fields.hostIs_iff {address : IpText} (isAddress : address.isAddress = true) :
    hostIs frame address = true ↔ info.srcIp = address ∨ info.dstIp = address := by
  have inside := fields.inside
  rw [fields.srcIp_eq, fields.dstIp_eq]
  cases address with
  | empty => contradiction
  | ipv4 bytes =>
      rw [hostIs, wordIs_other announced (show ethertypeIpv6 ≠ ethertypeIpv4 by decide),
        wordIs_other announced (show ethertypeIpv6 ≠ ethertypeArp by decide)]
      simp
  | ipv6 bytes =>
      have sized : bytes.length = 16 := by simpa [IpText.isAddress] using isAddress
      rw [hostIs, (wordIs_iff (by omega)).mpr announced, Bool.true_and, Bool.or_eq_true,
        addressIs_iff (by omega) sized, addressIs_iff (by omega) sized, IpText.ipv6.injEq,
        IpText.ipv6.injEq]

/-- What a clause describes it accepts, unless the frame hides its transport. -/
theorem Ipv6Fields.accepts_of_describes (visible : hidesTransport frame = false)
    (compiles : primitive.compiles = true) (described : primitive.describes info = true) :
    primitive.accepts frame = true := by
  have seen : ipv6ExtensionHeaderIsSkippable (byteAt frame 20) = false ∧
      (ipv6TransportOf frame 14).nextHeader ≠ ipv4ProtocolIcmp := by
    simpa [hidesTransport, announced] using visible
  have numbers := ipProtocolOf_iff (ipv6TransportOf frame 14).nextHeader
  rw [← fields.protocol_eq] at numbers
  cases primitive with
  | tcp =>
      have number := numbers.2.1.mp (by simpa [BpfPrimitive.describes] using described)
      rw [BpfPrimitive.accepts, fields.ip6ProtoIs_of announced seen.1 number, Bool.or_true]
  | udp =>
      have number := numbers.2.2.1.mp (by simpa [BpfPrimitive.describes] using described)
      rw [BpfPrimitive.accepts, fields.ip6ProtoIs_of announced seen.1 number, Bool.or_true]
  | icmpOrIcmp6 =>
      have number := numbers.1.mp (by simpa [BpfPrimitive.describes] using described)
      rw [BpfPrimitive.accepts,
        fields.ip6ProtoIs_of announced seen.1 (number.resolve_left seen.2), Bool.or_true]
  | arp =>
      exact absurd (by simpa [BpfPrimitive.describes] using described) numbers.2.2.2
  | port number =>
      simp only [BpfPrimitive.describes, Bool.and_eq_true, Bool.or_eq_true,
        decide_eq_true_eq] at described
      exact (fields.portIs_iff announced described.1 seen.1 number).mpr described.2
  | host address =>
      exact (fields.hostIs_iff announced compiles).mpr
        (by simpa [BpfPrimitive.describes] using described)

/-- A TCP segment with its ports is accepted by what describes it only. -/
theorem Ipv6Fields.describes_of_accepts (isTcp : info.protocol = .tcp)
    (ported : info.hasPorts = true) (compiles : primitive.compiles = true)
    (accepted : primitive.accepts frame = true) : primitive.describes info = true := by
  have reachable := (fields.ports ported).1
  have number := (ipProtocolOf_iff (ipv6TransportOf frame 14).nextHeader).2.1.mp
    (fields.protocol_eq.symm.trans isTcp)
  have reached := fun number => @Ipv6Fields.nextHeader_of_ip6ProtoIs frame info announced fields
    number reachable
  rw [number] at reached
  cases primitive with
  | tcp => simp [BpfPrimitive.describes, isTcp]
  | udp =>
      rw [BpfPrimitive.accepts, ipProtoIs_of_ipv6 announced, Bool.false_or] at accepted
      exact absurd (reached _ (by decide) accepted) (by decide)
  | icmpOrIcmp6 =>
      rw [BpfPrimitive.accepts, ipProtoIs_of_ipv6 announced, Bool.false_or] at accepted
      exact absurd (reached _ (by decide) accepted) (by decide)
  | arp =>
      rw [BpfPrimitive.accepts, wordIs_other announced (by decide)] at accepted
      contradiction
  | port number =>
      have notIpv4 : ip4PortIs frame number = false := by
        rw [ip4PortIs, wordIs_other announced (by decide)]
        rfl
      have carried : hasPortProtocol frame 20 = true := by
        rw [BpfPrimitive.accepts, notIpv4, Bool.false_or, ip6PortIs] at accepted
        simp only [Bool.and_eq_true] at accepted
        exact accepted.1.2
      have inside := fields.inside
      have plain : ipv6ExtensionHeaderIsSkippable (byteAt frame 20) = false := by
        simp only [hasPortProtocol, Bool.or_eq_true,
          byteIs_iff (show 20 < frame.length by omega)] at carried
        rcases carried with (tcp | udp) | sctp
        · rw [tcp]
          rfl
        · rw [udp]
          rfl
        · rw [sctp]
          rfl
      have ports := (fields.portIs_iff announced ported plain number).mp accepted
      simpa [BpfPrimitive.describes, ported] using ports
  | host address =>
      have addressed := (fields.hostIs_iff announced compiles).mp accepted
      simpa [BpfPrimitive.describes] using addressed

end IPv6

theorem ArpFields.accepts_of_describes (announced : readU16 frame 12 = ethertypeArp)
    (fields : ArpFields frame 14 info) (compiles : primitive.compiles = true)
    (described : primitive.describes info = true) : primitive.accepts frame = true := by
  have inside := fields.inside
  cases primitive with
  | tcp | udp | icmpOrIcmp6 => simp [BpfPrimitive.describes, fields.protocol_eq] at described
  | arp => exact (wordIs_iff (by omega)).mpr announced
  | port number => simp [BpfPrimitive.describes, fields.noPorts] at described
  | host address =>
      rw [BpfPrimitive.describes, Bool.or_eq_true, decide_eq_true_eq, decide_eq_true_eq,
        fields.srcIp_eq, fields.dstIp_eq] at described
      cases address with
      | empty => contradiction
      | ipv4 bytes =>
          have sized : bytes.length = 4 := by
            simpa [BpfPrimitive.compiles, IpText.isAddress] using compiles
          rw [IpText.ipv4.injEq, IpText.ipv4.injEq, ← addressIs_iff (by omega) sized,
            ← addressIs_iff (by omega) sized] at described
          rw [BpfPrimitive.accepts, hostIs, (wordIs_iff (by omega)).mpr announced, Bool.true_and,
            Bool.or_eq_true_iff, Bool.or_eq_true_iff]
          exact Or.inr described
      | ipv6 bytes => simp at described

/-! ### Whole frames -/

/-- The expression is compiled from clauses that each stand for an enabled filter. -/
theorem mem_installedExpression (member : primitive ∈ installedExpression config) :
    primitive.compiles = true ∧
      ((config.filterProtocolEnabled = true ∧
          protocolPrimitive config.filterProtocol = some primitive) ∨
        (config.filterPortEnabled = true ∧ primitive = .port config.filterPort) ∨
        (config.filterHostEnabled = true ∧ primitive = .host config.filterHost)) := by
  unfold installedExpression installBpfFilter at member
  simp only at member
  split_ifs at member with nothing compiles
  · contradiction
  · rw [Option.getD_some] at member
    refine ⟨List.all_eq_true.mp compiles primitive member, ?_⟩
    unfold buildBpfFilterExpression at member
    simp only [List.mem_append] at member
    rcases member with (protocol | port) | host
    · split_ifs at protocol with enabled
      · exact Or.inl ⟨enabled, Option.mem_toList.mp protocol⟩
      · contradiction
    · split_ifs at port with enabled
      · exact Or.inr (Or.inl ⟨enabled, List.mem_singleton.mp port⟩)
      · contradiction
    · split_ifs at host with enabled
      · exact Or.inr (Or.inr ⟨enabled, List.mem_singleton.mp host⟩)
      · contradiction
  · contradiction

/-- What passes the software filters is what the expression stands for. -/
theorem isDescribed_of_packetFiltersMatch (passes : packetFiltersMatch config info = true) :
    isDescribed config info = true := by
  rw [isDescribed, List.all_eq_true]
  intro primitive member
  simp only [packetFiltersMatch, Bool.and_eq_true] at passes
  obtain ⟨⟨⟨⟨protocol, port⟩, host⟩, _⟩, _⟩ := passes
  rcases (mem_installedExpression member).2 with ⟨enabled, named⟩ | ⟨enabled, rfl⟩ | ⟨enabled, rfl⟩
  · have same : info.protocol = config.filterProtocol := by
      simpa [protocolFilterMatches, enabled] using protocol
    rw [← same] at named
    cases protocolEq : info.protocol with
    | tcp | udp | icmp | arp =>
        rw [protocolEq] at named
        obtain rfl := Option.some.inj named
        simp [BpfPrimitive.describes, protocolEq]
    | other =>
        rw [protocolEq] at named
        contradiction
  · simp only [portFilterMatches, enabled, Bool.not_true, Bool.false_eq_true, if_false] at port
    split_ifs at port with portless
    have ported : info.hasPorts = true := by simpa using portless
    simpa [BpfPrimitive.describes, ported] using port
  · simpa [hostFilterMatches, BpfPrimitive.describes, enabled] using host

/-- A packet of unknown protocol and addresses, as every frame that is not parsed makes. -/
theorem isDescribed_unknown (installed : installedExpression config ≠ []) (size : Nat) :
    isDescribed config (initializePacketInfo size) = false := by
  cases expression : installedExpression config with
  | nil => exact absurd expression installed
  | cons primitive rest =>
      have member : primitive ∈ installedExpression config := by
        rw [expression]
        exact List.mem_cons_self
      have compiles := (mem_installedExpression member).1
      have undescribed : primitive.describes (initializePacketInfo size) = false := by
        cases primitive with
        | tcp | udp | icmpOrIcmp6 | arp | port => rfl
        | host address =>
            cases address with
            | empty => contradiction
            | ipv4 | ipv6 => rfl
      rw [isDescribed, expression, List.all_cons, undescribed]
      rfl

/-- A frame that takes every clause that stands for its packet is handed over for it. -/
theorem isDescribed_of_accepted (undelivered : delivers config frame = false)
    (accepted : ∀ primitive ∈ installedExpression config,
      (∀ other ∈ installedExpression config, other.describes info = true) →
      primitive.accepts frame = true) :
    isDescribed config info = false := by
  rw [delivers, ← Bool.not_eq_true, List.all_eq_true] at undelivered
  rw [isDescribed, ← Bool.not_eq_true, List.all_eq_true]
  intro described
  exact undelivered fun primitive member => accepted primitive member described

/-- A frame that is handed over carries what the expression stands for, if its clauses do. -/
theorem isDescribed_of_described (delivered : delivers config frame = true)
    (described : ∀ primitive ∈ installedExpression config, primitive.accepts frame = true →
      primitive.describes info = true) :
    isDescribed config info = true := by
  rw [delivers, List.all_eq_true] at delivered
  rw [isDescribed, List.all_eq_true]
  exact fun primitive member => described primitive member (delivered primitive member)

/-- A frame that is not handed over carries a packet that the expression does not stand for, unless
it hides its transport. -/
theorem isDescribed_of_undelivered (fields : EthernetFields frame info)
    (visible : hidesTransport frame = false) (undelivered : delivers config frame = false) :
    isDescribed config info = false := by
  cases fields with
  | unknown same =>
      rw [same]
      apply isDescribed_unknown
      intro nothing
      rw [delivers, nothing] at undelivered
      contradiction
  | ipv4 announced fields =>
      apply isDescribed_of_accepted undelivered
      intro primitive member described
      apply (fields.accepts_iff announced (mem_installedExpression member).1 _).mpr
        (described primitive member)
      rintro number rfl
      have ports := described _ member
      rw [BpfPrimitive.describes, Bool.and_eq_true] at ports
      exact ports.1
  | ipv6 announced fields =>
      apply isDescribed_of_accepted undelivered
      intro primitive member described
      exact fields.accepts_of_describes announced visible (mem_installedExpression member).1
        (described primitive member)
  | arp announced fields =>
      apply isDescribed_of_accepted undelivered
      intro primitive member described
      exact fields.accepts_of_describes announced (mem_installedExpression member).1
        (described primitive member)

/-- A TCP segment with its ports is handed over only if the expression stands for it. -/
theorem isDescribed_of_delivered_tcp (fields : EthernetFields frame info)
    (isTcp : info.protocol = .tcp) (ported : info.hasPorts = true)
    (delivered : delivers config frame = true) : isDescribed config info = true := by
  apply isDescribed_of_described delivered
  intro primitive member accepted
  have compiles := (mem_installedExpression member).1
  cases fields with
  | unknown same =>
      rw [same] at isTcp
      contradiction
  | ipv4 announced fields =>
      exact (fields.accepts_iff announced compiles fun _ _ => ported).mp accepted
  | ipv6 announced fields =>
      exact fields.describes_of_accepts announced isTcp ported compiles accepted
  | arp announced fields =>
      rw [fields.protocol_eq] at isTcp
      contradiction

/-- Without a port clause an IPv4 fragment is handed over only if the expression stands for it. -/
theorem isDescribed_of_delivered_fragment (fields : EthernetFields frame info)
    (isFragment : info.isIpv4Fragment = true)
    (portless : ∀ number, .port number ∉ installedExpression config)
    (delivered : delivers config frame = true) : isDescribed config info = true := by
  apply isDescribed_of_described delivered
  intro primitive member accepted
  have compiles := (mem_installedExpression member).1
  cases fields with
  | unknown same =>
      rw [same] at isFragment
      contradiction
  | ipv4 announced fields =>
      apply (fields.accepts_iff announced compiles _).mp accepted
      rintro number rfl
      exact absurd member (portless number)
  | ipv6 announced fields =>
      rw [fields.whole] at isFragment
      contradiction
  | arp announced fields =>
      rw [fields.whole] at isFragment
      contradiction

end Frames

end MiniSniffer
