import MiniSniffer.Capture.Described
import MiniSniffer.Capture.Pass

/-!
Contract: the packet that a pass goes on with.

Owns where that packet comes from: it is the parsed one, or was rebuilt for the datagram of the
parsed fragment and is reported with its addresses and protocol. So the pre-filter's expression
stands for it exactly if it stands for the datagram, and a fragment's datagram is one it stands for
exactly if the fragment is let through.

Does not own the flow that the packet belongs to.
-/

namespace MiniSniffer

open Foundation

/-- The parsed packet, or the datagram that it completes. -/
inductive EffectiveFields (info : PacketInfo) : PacketInfo → Prop
  | same : EffectiveFields info info
  | unparsed (isFragment : info.isIpv4Fragment = true) (size : Nat) :
      EffectiveFields info (initializePacketInfo size)
  | rebuilt (isFragment : info.isIpv4Fragment = true) {packet : List UInt8}
      {effective : PacketInfo} (fields : Ipv4Fields packet 0 effective)
      (same : SameEndpoints (datagramInfo (makeKey info)) effective) :
      EffectiveFields info effective

section Effective

variable {config : AppConfig} {state : CaptureState} {captured : CapturedPacket}
variable {info effective : PacketInfo} {key : FlowKey} {direction : FlowDirection}

theorem parsedPacket_fields (config : AppConfig) (captured : CapturedPacket) :
    EthernetFields captured.bytes (parsedPacket config captured) :=
  parserParsePacket_fields _ _

/-- The fragment state that a pass hands to the table. -/
def countedFragments (state : CaptureState) : FragmentState :=
  (state.fragmentTable, { state.stats with rawPacketsSeen := state.stats.rawPacketsSeen + 1 })

def fragmentEvent (config : AppConfig) (captured : CapturedPacket) : FragmentEvent where
  fragment := parsedPacket config captured
  now := captured.seconds

theorem effectiveCapture_whole (whole : (parsedPacket config captured).isIpv4Fragment = false) :
    (effectiveCapture config state captured).1.1 = state.fragmentTable ∧
      (effectiveCapture config state captured).2 = parsedPacket config captured := by
  simp [effectiveCapture, effectivePacket, whole]

/-- A fragment is replaced by what it completes, if anything. -/
theorem effectiveCapture_fragment
    (isFragment : (parsedPacket config captured).isIpv4Fragment = true) :
    (effectiveCapture config state captured).1.1 =
        (fragmentReassembly.next (countedFragments state) (fragmentEvent config captured)).1 ∧
      ((∃ packet, fragmentReassembly.output (countedFragments state)
          (fragmentEvent config captured) = .reassembled packet ∧
          (effectiveCapture config state captured).2 =
            parserParsePacketWithDatalink (payloadDecodeLimit config.payloadDecodeBytes) packet
              .raw) ∨
        ((∀ packet, fragmentReassembly.output (countedFragments state)
          (fragmentEvent config captured) ≠ .reassembled packet) ∧
          (effectiveCapture config state captured).2 = parsedPacket config captured)) := by
  simp only [effectiveCapture, effectivePacket, isFragment, Bool.not_true, Bool.false_eq_true,
    if_false, Machine.next, Machine.output, fragmentReassembly, countedFragments, fragmentEvent]
  generalize ipv4FragmentTableProcess
    (state.fragmentTable, { state.stats with rawPacketsSeen := state.stats.rawPacketsSeen + 1 })
    (parsedPacket config captured) captured.seconds = processed
  rcases processed with ⟨next, result⟩
  cases result with
  | reassembled packet => exact ⟨rfl, Or.inl ⟨packet, rfl, rfl⟩⟩
  | ignored | queued | malformed | dropped =>
      refine ⟨rfl, Or.inr ⟨?_, rfl⟩⟩
      intro packet reassembled
      contradiction

/-- A fragment of an Ethernet frame is an IPv4 packet's. -/
theorem fragment_fields (isFragment : (parsedPacket config captured).isIpv4Fragment = true) :
    readU16 captured.bytes 12 = ethertypeIpv4 ∧
      Ipv4Fields captured.bytes 14 (parsedPacket config captured) := by
  cases parsedPacket_fields config captured with
  | unknown same =>
      rw [same] at isFragment
      contradiction
  | ipv4 announced fields => exact ⟨announced, fields⟩
  | ipv6 _ fields =>
      rw [fields.whole] at isFragment
      contradiction
  | arp _ fields =>
      rw [fields.whole] at isFragment
      contradiction

/-- A pass keeps a header with its key in every entry, and goes on with the packet or with one that
has the endpoints of its datagram. -/
theorem effectiveCapture_fields (wellformed : state.fragmentTable.Wellformed)
    (headers : ∀ datagram ∈ state.fragmentTable.datagrams,
      CarriesKey datagram.key datagram.header) (captured : CapturedPacket) :
    (effectiveCapture config state captured).1.1.Wellformed ∧
      (∀ datagram ∈ (effectiveCapture config state captured).1.1.datagrams,
        CarriesKey datagram.key datagram.header) ∧
      EffectiveFields (parsedPacket config captured)
        (effectiveCapture config state captured).2 := by
  cases isFragment : (parsedPacket config captured).isIpv4Fragment with
  | false =>
      have pass := @effectiveCapture_whole config state captured isFragment
      rw [pass.1, pass.2]
      exact ⟨wellformed, headers, .same⟩
  | true =>
      have pass := @effectiveCapture_fragment config state captured isFragment
      have counted : (countedFragments state).1.Wellformed := wellformed
      have kept := @process_carriesKey (fragmentEvent config captured) (countedFragments state)
        counted headers (fragment_fields isFragment).2.carriesKey
      rw [pass.1]
      refine ⟨process_wellformed counted _, kept.1, ?_⟩
      rcases pass.2 with ⟨packet, reassembled, effective⟩ | ⟨_, effective⟩
      · rw [effective]
        rcases (kept.2 packet reassembled).parsed (payloadDecodeLimit config.payloadDecodeBytes)
          with unparsed | ⟨fields, same⟩
        · rw [unparsed]
          exact .unparsed isFragment _
        · exact .rebuilt isFragment fields same
      · rw [effective]
        exact .same

/-- A packet with a flow has its addresses, rebuilt or not. -/
theorem EffectiveFields.addressed {frame : List UInt8} (fields : EthernetFields frame info)
    (effectiveFields : EffectiveFields info effective)
    (tracked : trackedAs effective = some (key, direction)) : effective.Addressed := by
  cases effectiveFields with
  | same => exact fields.addressed tracked
  | unparsed _ size => contradiction
  | rebuilt _ fields _ => exact fields.addressed

/-- Without a port clause the expression stands for what a fragment completes, where it is parsed,
exactly if it stands for the datagram. -/
theorem EffectiveFields.isDescribed_fragment {frame : List UInt8}
    (effectiveFields : EffectiveFields info effective) (fields : Ipv4Fields frame 14 info)
    (isFragment : info.isIpv4Fragment = true) (portless : hasPortClause config = false) :
    (∃ size, effective = initializePacketInfo size) ∨
      isDescribed config effective = isDescribedDatagram config (makeKey info) := by
  cases effectiveFields with
  | same =>
      exact Or.inr (isDescribed_congr portless (makeKey_endpoints fields isFragment))
  | unparsed _ size => exact Or.inl ⟨size, rfl⟩
  | rebuilt _ _ same => exact Or.inr (isDescribed_congr portless same)

theorem not_hidden_of_fragment
    (isFragment : (parsedPacket config captured).isIpv4Fragment = true) :
    hidesTransport captured.bytes = false := by
  have announced := (@fragment_fields config captured isFragment).1
  simp [hidesTransport, announced, ethertypeIpv4, ethertypeIpv6]

/-- Without a port clause the expression stands for a rejected fragment's datagram no more than for
the fragment. -/
theorem undescribed_datagram (isFragment : (parsedPacket config captured).isIpv4Fragment = true)
    (portless : hasPortClause config = false)
    (undelivered : delivers config captured.bytes = false) :
    isDescribedDatagram config (makeKey (parsedPacket config captured)) = false := by
  have undescribed := isDescribed_of_undelivered (parsedPacket_fields config captured)
    (not_hidden_of_fragment isFragment) undelivered
  rw [isDescribed_congr portless (makeKey_endpoints (fragment_fields isFragment).2 isFragment)]
    at undescribed
  exact undescribed

/-- Without a port clause the expression stands for the datagram of a fragment that it lets
through. -/
theorem described_datagram (isFragment : (parsedPacket config captured).isIpv4Fragment = true)
    (portless : hasPortClause config = false)
    (delivered : delivers config captured.bytes = true) :
    isDescribedDatagram config (makeKey (parsedPacket config captured)) = true := by
  have described := isDescribed_of_delivered_fragment (parsedPacket_fields config captured)
    isFragment (fun number member => List.any_eq_false.mp portless _ member rfl) delivered
  rw [isDescribed_congr portless (makeKey_endpoints (fragment_fields isFragment).2 isFragment)]
    at described
  exact described

end Effective

end MiniSniffer
