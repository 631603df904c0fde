import MiniSniffer.Foundation.TextLines
import MiniSniffer.Parser.Parse

/-!
Contract: what the parser makes itself of a packet as a whole.

Owns that the hardware addresses of an ARP packet are printable and that no other packet has any,
and that a packet's size is what was captured of it.

Does not own address texts, which `inet_ntop` prints.
-/

namespace MiniSniffer

open Foundation

/-- The size and the hardware addresses, which no parser behind the network header's touches. -/
def PacketInfo.parsedOnce (info : PacketInfo) : Nat × List UInt8 × List UInt8 :=
  (info.size, info.arpSenderMac, info.arpTargetMac)

/-- Hardware addresses, if any, are printable. -/
def PacketInfo.PrintableMacs (info : PacketInfo) : Prop :=
  Printable info.arpSenderMac ∧ Printable info.arpTargetMac

section Texts

variable {payloadDecodeLimit packetLen offset : Nat} {packet : List UInt8} {info other : PacketInfo}

theorem printable_macAddress (bytes : List UInt8) : Printable (formatMacAddress bytes) := by
  refine Printable.flatMap fun index _ => printable_append.mpr ⟨?_, printable_hexText 2 _⟩
  exact printable_nil.ite (by decide)

theorem PacketInfo.PrintableMacs.congr (printable : info.PrintableMacs)
    (same : other.parsedOnce = info.parsedOnce) : other.PrintableMacs := by
  simp only [PacketInfo.parsedOnce, Prod.mk.injEq] at same
  rw [PacketInfo.PrintableMacs, same.2.1, same.2.2]
  exact printable

/-! ### Transport -/

theorem parsePayload_parsedOnce :
    (parsePayload payloadDecodeLimit packet packetLen offset info).parsedOnce =
      info.parsedOnce := by
  unfold parsePayload
  split <;> rfl

theorem parseTcpPayload_parsedOnce :
    (parseTcpPayload payloadDecodeLimit packet packetLen offset info).parsedOnce =
      info.parsedOnce := by
  unfold parseTcpPayload
  dsimp only
  split_ifs
  · rfl
  · rfl
  · rfl
  · exact parsePayload_parsedOnce

theorem parseTcp_parsedOnce :
    (parseTcpPayload payloadDecodeLimit packet packetLen offset
      (parseTcpSequenceAndFlags packet packetLen offset
        (parseTcpPorts packet packetLen offset info))).parsedOnce = info.parsedOnce := by
  have ports : (parseTcpPorts packet packetLen offset info).parsedOnce = info.parsedOnce := by
    unfold parseTcpPorts
    split <;> rfl
  have sequence : ∀ info, (parseTcpSequenceAndFlags packet packetLen offset info).parsedOnce =
      info.parsedOnce := by
    intro info
    unfold parseTcpSequenceAndFlags
    split <;> rfl
  exact parseTcpPayload_parsedOnce.trans ((sequence _).trans ports)

theorem parseUdp_parsedOnce :
    (parseUdpPayload payloadDecodeLimit packet packetLen offset
      (parseUdpPorts packet packetLen offset info)).parsedOnce = info.parsedOnce := by
  have ports : (parseUdpPorts packet packetLen offset info).parsedOnce = info.parsedOnce := by
    unfold parseUdpPorts
    split_ifs <;> rfl
  rw [← ports]
  unfold parseUdpPayload
  dsimp only
  split_ifs
  · rfl
  · rfl
  · rfl
  all_goals exact parsePayload_parsedOnce

theorem parseIcmp_parsedOnce :
    (parseIcmpPayload payloadDecodeLimit packet packetLen offset info).parsedOnce =
      info.parsedOnce := by
  unfold parseIcmpPayload
  split
  · rfl
  · exact parsePayload_parsedOnce

/-! ### Network -/

theorem parseIpv4Packet_parsedOnce :
    (parseIpv4Packet payloadDecodeLimit packet packetLen offset info).parsedOnce =
      info.parsedOnce := by
  have metadata : ∀ parsedPacketLen ipHeaderLen,
      (ipv4Metadata packet parsedPacketLen offset ipHeaderLen info).parsedOnce =
        info.parsedOnce := by
    intro parsedPacketLen ipHeaderLen
    unfold ipv4Metadata setIpv4Protocol
    dsimp only
    split_ifs <;> rfl
  have transport : ∀ (packetLen offset : Nat) (info : PacketInfo),
      (parseIpv4Transport payloadDecodeLimit packet packetLen offset info).parsedOnce =
        info.parsedOnce := by
    intro packetLen offset info
    unfold parseIpv4Transport
    split
    · exact parseTcp_parsedOnce
    · exact parseUdp_parsedOnce
    · exact parseIcmp_parsedOnce
    · rfl
  unfold parseIpv4Packet
  dsimp only
  split_ifs
  · rfl
  · rfl
  · rfl
  · rfl
  · exact Eq.trans rfl (metadata (offset + min (packetLen - offset)
      (readU16 packet (offset + 2)).toNat) ((byteAt packet offset &&& 0x0f).toNat * 4))
  · exact (transport _ _ _).trans (metadata _ _)

theorem parseIpv6Packet_parsedOnce :
    (parseIpv6Packet payloadDecodeLimit packet packetLen offset info).parsedOnce =
      info.parsedOnce := by
  have protocol : ∀ (number : UInt8) (info : PacketInfo),
      (clearTransportPorts (setIpProtocol number info)).parsedOnce = info.parsedOnce := by
    intro number info
    unfold setIpProtocol
    split_ifs <;> rfl
  unfold parseIpv6Packet
  dsimp only
  split_ifs
  · rfl
  · rfl
  · exact protocol _ _
  · split
    · exact parseTcp_parsedOnce.trans (protocol _ _)
    · exact parseUdp_parsedOnce.trans (protocol _ _)
    · exact parseIcmp_parsedOnce.trans (protocol _ _)
    · exact protocol _ _

theorem parseArpPacket_printableMacs (printable : info.PrintableMacs) :
    (parseArpPacket packet packetLen offset info).PrintableMacs := by
  unfold parseArpPacket
  split_ifs
  · exact printable
  · exact printable
  · exact ⟨printable_macAddress _, printable_macAddress _⟩

/-- Whatever the captured bytes are, the hardware addresses made of them are printable. -/
theorem parserParsePacketWithDatalink_printableMacs (payloadDecodeLimit : Nat)
    (packet : List UInt8) (datalink : Datalink) :
    (parserParsePacketWithDatalink payloadDecodeLimit packet datalink).PrintableMacs := by
  have fresh : (initializePacketInfo packet.length).PrintableMacs := ⟨printable_nil, printable_nil⟩
  unfold parserParsePacketWithDatalink
  dsimp only
  split
  · exact fresh.congr parseIpv4Packet_parsedOnce
  · exact fresh.congr parseIpv6Packet_parsedOnce
  · exact parseArpPacket_printableMacs fresh
  · exact fresh

theorem parserParsePacketWithDatalink_size (payloadDecodeLimit : Nat) (packet : List UInt8)
    (datalink : Datalink) :
    (parserParsePacketWithDatalink payloadDecodeLimit packet datalink).size = packet.length := by
  have sized : ∀ info : PacketInfo,
      info.parsedOnce = (initializePacketInfo packet.length).parsedOnce →
        info.size = packet.length := fun info same => congrArg Prod.fst same
  unfold parserParsePacketWithDatalink
  dsimp only
  split
  · exact sized _ parseIpv4Packet_parsedOnce
  · exact sized _ parseIpv6Packet_parsedOnce
  · unfold parseArpPacket
    split_ifs <;> rfl
  · rfl

end Texts

end MiniSniffer
