import MiniSniffer.Foundation.Intervals
import MiniSniffer.Fragment.Table
import MiniSniffer.Parser.Parse

/-!
Contract: frames that carry an IPv4 packet, captured up to some byte.

Owns what parsing makes of a captured prefix of such a frame. A prefix that ends
before the IPv4 header does is no fragment to the parser; a longer one is the
frame's fragment, with as much of its payload as was captured.

Does not own what becomes of the fragment: see `Fragment.Truncation`.
-/

namespace MiniSniffer

open Foundation

/-- A frame on the wire, with what may pad it after the IPv4 packet, and the number of bytes that
were captured of it. -/
structure CapturedFrame where
  link : List UInt8
  header : List UInt8
  piece : List UInt8
  padding : List UInt8
  captured : Nat
deriving DecidableEq, Repr

namespace CapturedFrame

def wire (frame : CapturedFrame) : List UInt8 :=
  frame.link ++ (frame.header ++ (frame.piece ++ frame.padding))

def bytes (frame : CapturedFrame) : List UInt8 := frame.wire.take frame.captured

/-- The frame's IPv4 packet was captured to its end. -/
def Whole (frame : CapturedFrame) : Prop :=
  frame.link.length + frame.header.length + frame.piece.length ≤ frame.captured

instance (frame : CapturedFrame) : Decidable frame.Whole := inferInstanceAs (Decidable (_ ≤ _))

def moreFragments (frame : CapturedFrame) : Bool :=
  readU16 frame.header 6 &&& ipv4MoreFragmentsFlag ≠ 0

def fragmentOffset (frame : CapturedFrame) : Nat :=
  (readU16 frame.header 6 &&& ipv4FragmentOffsetMask).toNat * 8

def key (frame : CapturedFrame) : IPv4FragmentKey where
  srcIp := .ipv4 (slice frame.header 12 16)
  dstIp := .ipv4 (slice frame.header 16 20)
  protocol := byteAt frame.header 9
  identification := readU16 frame.header 4

/-- The link header announces IPv4, and the IPv4 header gives its own length, version 4 and the
packet's total length. -/
structure CarriesIpv4 (frame : CapturedFrame) (datalinkType : Datalink) : Prop where
  announced : selectNetworkLayer frame.wire frame.wire.length datalinkType =
    (frame.link.length, .ipv4)
  version : byteAt frame.header 0 >>> 4 = 4
  headerLength : (byteAt frame.header 0 &&& 0x0f).toNat * 4 = frame.header.length
  headerLeast : ipv4MinHeaderLen ≤ frame.header.length
  totalLength : (readU16 frame.header 2).toNat = frame.header.length + frame.piece.length

/-- The captured bytes as the parser sees them. -/
def parsed (payloadDecodeLimit : Nat) (datalinkType : Datalink) (frame : CapturedFrame) :
    PacketInfo :=
  parserParsePacketWithDatalink payloadDecodeLimit frame.bytes datalinkType

end CapturedFrame

section Prefix

variable {wire : List UInt8} {count headerLen ethertypeOffset : Nat} {datalinkType : Datalink}
variable {frame : CapturedFrame} {payloadDecodeLimit : Nat}

theorem selectByEthertype_take (inside : ethertypeOffset + 1 < headerLen) :
    selectByEthertype (wire.take count) (wire.take count).length headerLen ethertypeOffset =
        selectByEthertype wire wire.length headerLen ethertypeOffset ∨
      (selectByEthertype (wire.take count) (wire.take count).length headerLen
        ethertypeOffset).2 = .unknown := by
  unfold selectByEthertype
  by_cases short : (wire.take count).length < headerLen
  · rw [if_pos short]
    exact Or.inr rfl
  · left
    rw [List.length_take] at short ⊢
    rw [if_neg short, if_neg (by omega), readU16_take (by omega)]

/-- A captured prefix announces what the whole frame does, or nothing. -/
theorem selectNetworkLayer_take (wire : List UInt8) (count : Nat) (datalinkType : Datalink) :
    selectNetworkLayer (wire.take count) (wire.take count).length datalinkType =
        selectNetworkLayer wire wire.length datalinkType ∨
      (selectNetworkLayer (wire.take count) (wire.take count).length datalinkType).2 =
        .unknown := by
  unfold selectNetworkLayer
  by_cases empty : (wire.take count).length = 0
  · rw [if_pos empty]
    exact Or.inr rfl
  · have someWire : wire.length ≠ 0 := by
      rw [List.length_take] at empty
      omega
    rw [if_neg empty, if_neg someWire]
    have firstByte : byteAt (wire.take count) 0 = byteAt wire 0 := by
      rw [List.length_take] at empty
      exact byteAt_take (by omega)
    cases datalinkType with
    | en10mb => exact selectByEthertype_take (by decide)
    | linuxSll => exact selectByEthertype_take (by decide)
    | linuxSll2 => exact selectByEthertype_take (by decide)
    | raw =>
        left
        simp only [inferRawIpNetwork, if_neg empty, if_neg someWire, firstByte]
    | ipv4 => exact Or.inl rfl
    | ipv6 => exact Or.inl rfl
    | other => exact Or.inl rfl
    | null | loop =>
        by_cases short : (wire.take count).length < 4
        · right
          simp only [if_pos short]
        · left
          rw [List.length_take] at short
          have sameFamily : networkFromNullFamily (wire.take count) = networkFromNullFamily wire :=
            networkFromNullFamily_take (by omega)
          have captured : ¬ (wire.take count).length < 4 := by
            rw [List.length_take]
            exact short
          simp only [if_neg captured, if_neg (show ¬ wire.length < 4 by omega), sameFamily]

@[simp] theorem setIpv4Protocol_srcIp (protocolNumber : UInt8) (info : PacketInfo) :
    (setIpv4Protocol protocolNumber info).srcIp = info.srcIp := by
  unfold setIpv4Protocol
  split_ifs <;> rfl

@[simp] theorem setIpv4Protocol_dstIp (protocolNumber : UInt8) (info : PacketInfo) :
    (setIpv4Protocol protocolNumber info).dstIp = info.dstIp := by
  unfold setIpv4Protocol
  split_ifs <;> rfl

@[simp] theorem setIpv4Protocol_isIpv4Fragment (protocolNumber : UInt8) (info : PacketInfo) :
    (setIpv4Protocol protocolNumber info).isIpv4Fragment = info.isIpv4Fragment := by
  unfold setIpv4Protocol
  split_ifs <;> rfl

@[simp] theorem parsePayload_isIpv4Fragment (packet : List UInt8) (packetLen payloadOffset : Nat)
    (info : PacketInfo) :
    (parsePayload payloadDecodeLimit packet packetLen payloadOffset info).isIpv4Fragment =
      info.isIpv4Fragment := by
  unfold parsePayload
  split_ifs <;> rfl

/-- The transport parsers leave the fragment flag alone. -/
theorem parseIpv4Transport_isIpv4Fragment (packet : List UInt8) (packetLen transportOffset : Nat)
    (info : PacketInfo) :
    (parseIpv4Transport payloadDecodeLimit packet packetLen transportOffset
      info).isIpv4Fragment = info.isIpv4Fragment := by
  have ports : ∀ info, (parseTcpPorts packet packetLen transportOffset info).isIpv4Fragment =
      info.isIpv4Fragment := by
    intro info
    unfold parseTcpPorts
    split_ifs <;> rfl
  have sequenceAndFlags : ∀ info,
      (parseTcpSequenceAndFlags packet packetLen transportOffset info).isIpv4Fragment =
        info.isIpv4Fragment := by
    intro info
    unfold parseTcpSequenceAndFlags
    split_ifs <;> rfl
  have udpPorts : (parseUdpPorts packet packetLen transportOffset info).isIpv4Fragment =
      info.isIpv4Fragment := by
    unfold parseUdpPorts
    split_ifs <;> rfl
  unfold parseIpv4Transport
  split
  · unfold parseTcpPayload
    simp only
    split_ifs <;> simp [ports, sequenceAndFlags]
  · unfold parseUdpPayload
    simp only
    split_ifs <;> simp [udpPorts]
  · unfold parseIcmpPayload
    split_ifs <;> simp [clearTransportPorts]
  · rfl

/-- Only a packet with its whole IPv4 header makes a fragment, and the transport is not parsed. -/
theorem parseIpv4Packet_fragment {packet : List UInt8} {ipOffset : Nat} {info : PacketInfo}
    (before : info.isIpv4Fragment = false)
    (isFragment : (parseIpv4Packet payloadDecodeLimit packet packet.length ipOffset
      info).isIpv4Fragment = true) :
    ipOffset + ipv4MinHeaderLen ≤ packet.length ∧
      ipOffset + (byteAt packet ipOffset &&& 0x0f).toNat * 4 ≤ packet.length ∧
      parseIpv4Packet payloadDecodeLimit packet packet.length ipOffset info =
        { ipv4Metadata packet
            (ipOffset + min (packet.length - ipOffset) (readU16 packet (ipOffset + 2)).toNat)
            ipOffset ((byteAt packet ipOffset &&& 0x0f).toNat * 4) info with
          isIpv4Fragment := true } := by
  unfold parseIpv4Packet at isFragment ⊢
  simp only at isFragment ⊢
  split_ifs at isFragment ⊢ with tooShort badHeader shortHeader badTotal fragmented
  · rw [before] at isFragment
    contradiction
  · rw [before] at isFragment
    contradiction
  · rw [before] at isFragment
    contradiction
  · rw [before] at isFragment
    contradiction
  · exact ⟨by omega, by omega, rfl⟩
  · rw [parseIpv4Transport_isIpv4Fragment] at isFragment
    exact absurd isFragment (by simp [ipv4Metadata, clearTransportPorts, before])

/-- A prefix that reaches past the IPv4 header. -/
theorem CapturedFrame.bytes_eq
    (long : frame.link.length + frame.header.length ≤ frame.captured) :
    frame.bytes = frame.link ++ (frame.header ++ (frame.piece ++ frame.padding).take
      (frame.captured - frame.link.length - frame.header.length)) := by
  rw [CapturedFrame.bytes, CapturedFrame.wire, List.take_append, List.take_of_length_le (by omega),
    List.take_append, List.take_of_length_le (by omega)]

/-- Where the link header ends, the IPv4 header is read. -/
theorem take_drop_append (link header rest : List UInt8) {start : Nat} (count : Nat)
    (inside : start + count ≤ header.length) :
    ((link ++ (header ++ rest)).drop (link.length + start)).take count =
      slice header start (start + count) := by
  rw [List.drop_append, List.drop_of_length_le (by omega), List.nil_append,
    Nat.add_sub_cancel_left]
  have same : slice (header ++ rest) start (start + count) = slice header start (start + count) :=
    slice_append_left inside
  rw [← same, slice, Nat.add_sub_cancel_left]

/-- A captured prefix that parses to a fragment reaches past the IPv4 header and is parsed from
there. -/
theorem CapturedFrame.parsed_eq (carries : frame.CarriesIpv4 datalinkType)
    (isFragment : (frame.parsed payloadDecodeLimit datalinkType).isIpv4Fragment = true) :
    frame.link.length + frame.header.length ≤ frame.bytes.length ∧
      frame.parsed payloadDecodeLimit datalinkType =
        { ipv4Metadata frame.bytes
            (frame.link.length + min (frame.bytes.length - frame.link.length)
              (readU16 frame.bytes (frame.link.length + 2)).toNat)
            frame.link.length frame.header.length (initializePacketInfo frame.bytes.length) with
          isIpv4Fragment := true } := by
  have headerLeast := carries.headerLeast
  rw [ipv4MinHeaderLen] at headerLeast
  have selected : selectNetworkLayer frame.bytes frame.bytes.length datalinkType =
      (frame.link.length, .ipv4) := by
    rcases selectNetworkLayer_take frame.wire frame.captured datalinkType with same | nothing
    · exact same.trans carries.announced
    · exfalso
      rw [CapturedFrame.parsed, parserParsePacketWithDatalink] at isFragment
      obtain ⟨offset, network⟩ : ∃ offset, selectNetworkLayer frame.bytes frame.bytes.length
          datalinkType = (offset, .unknown) := ⟨_, Prod.ext rfl nothing⟩
      rw [network] at isFragment
      contradiction
  have asIpv4 : frame.parsed payloadDecodeLimit datalinkType =
      parseIpv4Packet payloadDecodeLimit frame.bytes frame.bytes.length frame.link.length
        (initializePacketInfo frame.bytes.length) := by
    rw [CapturedFrame.parsed, parserParsePacketWithDatalink, selected]
  rw [asIpv4] at isFragment ⊢
  obtain ⟨leastCaptured, headerCaptured, parsed⟩ := parseIpv4Packet_fragment rfl isFragment
  rw [ipv4MinHeaderLen] at leastCaptured
  have captured : frame.bytes.length ≤ frame.captured := by
    rw [CapturedFrame.bytes, List.length_take]
    exact Nat.min_le_left _ _
  have firstByte : byteAt frame.bytes frame.link.length = byteAt frame.header 0 := by
    rw [CapturedFrame.bytes, byteAt_take (by omega), CapturedFrame.wire,
      show frame.link.length = frame.link.length + 0 from rfl, byteAt_append_right,
      byteAt_append_left _ (by omega)]
  rw [firstByte, carries.headerLength] at headerCaptured parsed
  exact ⟨headerCaptured, parsed⟩

/-- What the captured prefix of a frame parses to, when it parses to a fragment. -/
theorem CapturedFrame.parsed_fragment (carries : frame.CarriesIpv4 datalinkType)
    (isFragment : (frame.parsed payloadDecodeLimit datalinkType).isIpv4Fragment = true) :
    frame.link.length + frame.header.length ≤ frame.captured ∧
      (frame.parsed payloadDecodeLimit datalinkType).ipv4Header = frame.header ∧
      (frame.parsed payloadDecodeLimit datalinkType).ipv4FragmentOffset = frame.fragmentOffset ∧
      (frame.parsed payloadDecodeLimit datalinkType).ipv4MoreFragments = frame.moreFragments ∧
      makeKey (frame.parsed payloadDecodeLimit datalinkType) = frame.key ∧
      fragmentBytes (frame.parsed payloadDecodeLimit datalinkType) =
        frame.piece.take (frame.captured - frame.link.length - frame.header.length) := by
  have headerLeast := carries.headerLeast
  rw [ipv4MinHeaderLen] at headerLeast
  obtain ⟨headerCaptured, parsed⟩ := CapturedFrame.parsed_eq carries isFragment
  rw [parsed]
  have captured : frame.bytes.length ≤ frame.captured := by
    rw [CapturedFrame.bytes, List.length_take]
    exact Nat.min_le_left _ _
  have long : frame.link.length + frame.header.length ≤ frame.captured := by omega
  have split := CapturedFrame.bytes_eq long
  generalize room : frame.captured - frame.link.length - frame.header.length = count at split ⊢
  rw [split, readU16_append_right, readU16_append_left _ (by omega), carries.totalLength]
  have fields : readU16 (frame.link ++ (frame.header ++ (frame.piece ++ frame.padding).take count))
      (frame.link.length + 6) = readU16 frame.header 6 := by
    rw [readU16_append_right, readU16_append_left _ (by omega)]
  refine ⟨long, ?_, ?_, ?_, ?_, ?_⟩
  · have header := take_drop_append frame.link frame.header
      ((frame.piece ++ frame.padding).take count) frame.header.length
      (Nat.le_of_eq (Nat.zero_add _))
    rw [Nat.zero_add, slice_zero_length] at header
    exact header
  · rw [CapturedFrame.fragmentOffset, ← fields]
    rfl
  · rw [CapturedFrame.moreFragments, ← fields]
    rfl
  · simp only [makeKey, CapturedFrame.key, ipv4Metadata, clearTransportPorts,
      setIpv4Protocol_srcIp, setIpv4Protocol_dstIp, IPv4FragmentKey.mk.injEq, IpText.ipv4.injEq]
    refine ⟨?_, ?_, ?_, ?_⟩
    · exact take_drop_append _ _ _ 4 (by omega)
    · exact take_drop_append _ _ _ 4 (by omega)
    · rw [byteAt_append_right, byteAt_append_left _ (by omega)]
    · rw [readU16_append_right, readU16_append_left _ (by omega)]
  · simp only [fragmentBytes, ipv4Metadata]
    rw [if_pos (by simp only [List.length_append]; omega)]
    show List.take _ (List.drop _ _) = _
    rw [← List.append_assoc, List.drop_left' List.length_append, List.take_take,
      List.take_append_of_le_length, List.take_eq_take_iff]
    · simp only [List.length_append, List.length_take]
      omega
    · simp only [List.length_append, List.length_take]
      omega

end Prefix

end MiniSniffer
