import MiniSniffer.Foundation.ByteLayout
import MiniSniffer.Parser.Relocation

/-!
Contract: the link layer does not change what is parsed (`src/parser.c`).

Owns the link headers that announce an IP version, and that a packet behind one is parsed as the
packet alone is with the raw datalink type, moved by the header's length.

Does not own the parsers of the packet: see `Parser.Relocation`.
-/

namespace MiniSniffer

open Foundation

inductive IpVersion where
  | v4
  | v6
deriving DecidableEq, Repr

namespace IpVersion

def nibble : IpVersion → UInt8
  | .v4 => 4
  | .v6 => 6

def network : IpVersion → NetworkLayer
  | .v4 => .ipv4
  | .v6 => .ipv6

def ethertype : IpVersion → UInt16
  | .v4 => ethertypeIpv4
  | .v6 => ethertypeIpv6

/-- `AF_INET`, and the `AF_INET6` of the systems that write such captures. -/
def families : IpVersion → List UInt8
  | .v4 => [2]
  | .v6 => [10, 24, 28, 30]

end IpVersion

/-- A link header that announces the version. The ethertype stands last in Ethernet and in cooked
captures of version 1, and first in those of version 2. -/
inductive LinkHeader (version : IpVersion) where
  | ethernet (addresses : List UInt8) (sized : addresses.length = 12)
  | linuxSll (before : List UInt8) (sized : before.length = 14)
  | linuxSll2 (after : List UInt8) (sized : after.length = 18)
  | null (family : UInt8) (known : family ∈ version.families) (bigEndian : Bool)
  | loop (family : UInt8) (known : family ∈ version.families) (bigEndian : Bool)

/-- A small number as a word of either byte order. -/
def familyWord (family : UInt8) (bigEndian : Bool) : List UInt8 :=
  if bigEndian then [0, 0, 0, family] else [family, 0, 0, 0]

namespace LinkHeader

variable {version : IpVersion}

def bytes : LinkHeader version → List UInt8
  | .ethernet addresses _ => addresses ++ encodeU16 version.ethertype
  | .linuxSll before _ => before ++ encodeU16 version.ethertype
  | .linuxSll2 after _ => encodeU16 version.ethertype ++ after
  | .null family _ bigEndian => familyWord family bigEndian
  | .loop family _ bigEndian => familyWord family bigEndian

def datalink : LinkHeader version → Datalink
  | .ethernet _ _ => .en10mb
  | .linuxSll _ _ => .linuxSll
  | .linuxSll2 _ _ => .linuxSll2
  | .null _ _ _ => .null
  | .loop _ _ _ => .loop

end LinkHeader

/-! ### Selection -/

section Selection

variable {version : IpVersion} {packet : List UInt8}

theorem networkFromEthertype_version (version : IpVersion) :
    networkFromEthertype version.ethertype = version.network := by
  cases version <;> rfl

theorem networkFromNullFamily_word {family : UInt8} (known : family ∈ version.families)
    (bigEndian : Bool) (packet : List UInt8) :
    networkFromNullFamily (familyWord family bigEndian ++ packet) = version.network := by
  have sized : (familyWord family bigEndian).length = 4 := by cases bigEndian <;> rfl
  have word : (familyWord family bigEndian ++ packet).take 4 = familyWord family bigEndian :=
    List.take_left' sized
  have each : ∀ version : IpVersion, (version.families.all fun family =>
      networkFromNullFamily (familyWord family true) = version.network ∧
        networkFromNullFamily (familyWord family false) = version.network) = true := by
    intro version
    cases version <;> rfl
  obtain ⟨big, little⟩ := of_decide_eq_true (List.all_eq_true.mp (each version) family known)
  rw [← networkFromNullFamily_take (Nat.le_refl 4), word]
  cases bigEndian with
  | false => exact little
  | true => exact big

theorem selectByEthertype_last {before : List UInt8} {headerLen ethertypeOffset : Nat}
    (ethertype : UInt16) (place : before.length = ethertypeOffset)
    (sized : headerLen = ethertypeOffset + 2) (packet : List UInt8) :
    selectByEthertype (before ++ encodeU16 ethertype ++ packet)
        (before ++ encodeU16 ethertype ++ packet).length headerLen ethertypeOffset =
      (headerLen, networkFromEthertype ethertype) := by
  have holds : HoldsAt (before ++ encodeU16 ethertype ++ packet) (0 + before.length)
      (encodeU16 ethertype) :=
    (holdsAt_append.mp (holdsAt_zero.mpr ⟨packet, rfl⟩)).2
  rw [Nat.zero_add, place] at holds
  obtain ⟨inside, value⟩ := holdsAt_u16.mp holds
  rw [selectByEthertype, if_neg (by omega), value]

/-- The network header is found behind the link header. -/
theorem LinkHeader.selectNetworkLayer_bytes (header : LinkHeader version) :
    selectNetworkLayer (header.bytes ++ packet) (header.bytes ++ packet).length header.datalink =
      (header.bytes.length, version.network) := by
  have ethertype := networkFromEthertype_version version
  have words : ∀ family bigEndian, (familyWord family bigEndian).length = 4 := by
    intro family bigEndian
    cases bigEndian <;> rfl
  cases header with
  | ethernet addresses sized =>
      have length : (addresses ++ encodeU16 version.ethertype).length = 14 := by
        rw [List.length_append, sized, length_encodeU16]
      have someByte : (addresses ++ encodeU16 version.ethertype ++ packet).length ≠ 0 := by
        rw [List.length_append, length]
        omega
      have selected := @selectByEthertype_last addresses ethernetHeaderLen
        ethernetEthertypeOffset version.ethertype sized rfl packet
      rw [LinkHeader.bytes, LinkHeader.datalink, selectNetworkLayer, if_neg someByte, selected,
        ethertype, length]
      rfl
  | linuxSll before sized =>
      have length : (before ++ encodeU16 version.ethertype).length = 16 := by
        rw [List.length_append, sized, length_encodeU16]
      have someByte : (before ++ encodeU16 version.ethertype ++ packet).length ≠ 0 := by
        rw [List.length_append, length]
        omega
      rw [LinkHeader.bytes, LinkHeader.datalink, selectNetworkLayer, if_neg someByte,
        selectByEthertype_last _ sized rfl, ethertype, length]
  | linuxSll2 after sized =>
      have length : (encodeU16 version.ethertype ++ after ++ packet).length =
          20 + packet.length := by
        rw [List.length_append, List.length_append, sized, length_encodeU16]
      have holds : HoldsAt (encodeU16 version.ethertype ++ after ++ packet) 0
          (encodeU16 version.ethertype) := holdsAt_zero.mpr ⟨after ++ packet, by simp⟩
      rw [LinkHeader.bytes, LinkHeader.datalink, selectNetworkLayer, if_neg (by omega),
        selectByEthertype, if_neg (by omega), (holdsAt_u16.mp holds).2, ethertype,
        List.length_append, sized, length_encodeU16]
  | null family known bigEndian | loop family known bigEndian =>
      have length : (familyWord family bigEndian ++ packet).length = 4 + packet.length := by
        rw [List.length_append, words]
      rw [LinkHeader.bytes, LinkHeader.datalink, selectNetworkLayer, if_neg (by omega),
        if_neg (by omega), networkFromNullFamily_word known, words]

/-- A raw packet announces itself. -/
theorem selectNetworkLayer_raw (announced : byteAt packet 0 >>> 4 = version.nibble) :
    selectNetworkLayer packet packet.length .raw = (0, version.network) := by
  have someByte : packet.length ≠ 0 := by
    intro empty
    rw [List.eq_nil_of_length_eq_zero empty] at announced
    cases version <;> contradiction
  rw [selectNetworkLayer, if_neg someByte, inferRawIpNetwork, if_neg someByte, announced]
  cases version <;> rfl

end Selection

theorem initializePacketInfo_append (front packet : List UInt8) :
    initializePacketInfo (front ++ packet).length =
      (initializePacketInfo packet.length).relocate front.length := by
  rw [List.length_append]
  rfl

/-- Behind a link header a packet is parsed as it is alone, its size and its pointers apart. -/
theorem link_layer_transparent (payloadDecodeLimit : Nat) {version : IpVersion}
    (header : LinkHeader version) (packet : List UInt8)
    (announced : byteAt packet 0 >>> 4 = version.nibble) :
    parserParsePacketWithDatalink payloadDecodeLimit (header.bytes ++ packet) header.datalink =
      (parserParsePacketWithDatalink payloadDecodeLimit packet .raw).relocate
        header.bytes.length := by
  rw [parserParsePacketWithDatalink, parserParsePacketWithDatalink,
    header.selectNetworkLayer_bytes, selectNetworkLayer_raw announced,
    initializePacketInfo_append, List.length_append]
  cases version with
  | v4 => exact parseIpv4Packet_relocate header.bytes packet payloadDecodeLimit packet.length 0 _
  | v6 => exact parseIpv6Packet_relocate header.bytes packet payloadDecodeLimit packet.length 0 _

/-- An IPv4 packet with a datagram from port 4000 to port 53 and four bytes of payload. -/
def sampleLinkedPacket : List UInt8 :=
  [0x45, 0, 0, 32, 0, 0, 0, 0, 64, 17, 0, 0, 10, 0, 0, 1, 10, 0, 0, 2] ++
    [0x0f, 0xa0, 0, 53, 0, 12, 0, 0, 1, 2, 3, 4]

/-- Behind an Ethernet header the packet's payload is fourteen bytes further. -/
theorem link_layer_transparent_ethernet :
    let alone := parserParsePacketWithDatalink 65536 sampleLinkedPacket .raw
    (alone.dstPort = 53 ∧ alone.payload = some { offset := 28, bytes := [1, 2, 3, 4] }) ∧
      parserParsePacketWithDatalink 65536 (List.replicate 12 0 ++ [8, 0] ++ sampleLinkedPacket)
          .en10mb =
        alone.relocate 14 :=
  ⟨by decide +kernel, link_layer_transparent 65536
    (.ethernet (List.replicate 12 0) rfl : LinkHeader .v4) sampleLinkedPacket (by decide)⟩

end MiniSniffer
