import MiniSniffer.Capture.Announcements
import MiniSniffer.Fragment.WireFragments

/-!
Contract: datagrams that are captured in fragments.

Owns the capture loop as two stages, reassembly and then tracking and display, and that the second
stage is handed a fragmented datagram as it would have been sent whole: once, when the last of its
fragments arrives, in whatever order they come and whatever traffic surrounds them.

Does not own what the second stage makes of a packet.
-/

namespace MiniSniffer

open Foundation

/-! ### Stages -/

/-- A captured packet under the capture's data-link type. -/
def parsedAt (config : AppConfig) (datalink : Datalink) (captured : CapturedPacket) : PacketInfo :=
  parserParsePacketWithDatalink (payloadDecodeLimit config.payloadDecodeBytes) captured.bytes
    datalink

/-- The first stage: the packet that each pass goes on with. -/
def reassembler (config : AppConfig) (datalink : Datalink) :
    Machine IPv4FragmentTable CapturedPacket PacketInfo where
  step table captured :=
    let effective := effectivePacket config (table, {}) (parsedAt config datalink captured)
      captured.seconds
    (effective.1.1, effective.2)

/-- The second stage: tracking, decoding, filters and display of a packet at its time. -/
def displayer (idna : IdnaLookup) (config : AppConfig) :
    Machine (Option FlowTable) (PacketInfo × Nat) (Option DisplayedPacket) where
  step flowTable arrival := displayPacket idna config flowTable arrival.1 arrival.2

/-- What the first stage hands over. -/
def handOver (captured : CapturedPacket) (effective : PacketInfo) : PacketInfo × Nat :=
  (effective, captured.seconds)

section Stages

variable {idna : IdnaLookup} {config : AppConfig} {datalink : Datalink}

/-- Without a packet limit a capture is its two stages. -/
theorem captureLoop_stages (unlimited : config.maxPackets = 0) (state : CaptureState)
    (packets : List CapturedPacket) :
    (captureLoop idna config datalink).outputs state packets =
      (displayer idna config).outputs state.flowTable
        (List.zipWith handOver packets
          ((reassembler config datalink).outputs state.fragmentTable packets)) := by
  refine @Machine.outputs_pipeline _ _ _ (captureLoop idna config datalink) _ _ _ _
    (reassembler config datalink) (displayer idna config) handOver
    (fun fragmentTable flowTable state =>
      state.fragmentTable = fragmentTable ∧ state.flowTable = flowTable) ?_ _ _ _ ⟨rfl, rfl⟩ packets
  rintro fragmentTable flowTable state captured ⟨rfl, rfl⟩
  have running : captureIsDone config state = false := by simp [captureIsDone, unlimited]
  have same := effectivePacket_table
    (state.fragmentTable, { state.stats with rawPacketsSeen := state.stats.rawPacketsSeen + 1 }) {}
    (parsedAt config datalink captured) captured.seconds config
  have effective : effectiveAt config datalink state captured = effectivePacket config
      (state.fragmentTable, { state.stats with rawPacketsSeen := state.stats.rawPacketsSeen + 1 })
      (parsedAt config datalink captured) captured.seconds := rfl
  obtain ⟨table, flows, -⟩ := @capturePass_running idna config datalink captured state running
  rw [captureLoop_output_running running, effective] at *
  refine ⟨?_, ?_, ?_⟩
  · rw [← same.2]
    rfl
  · rw [table, ← same.1]
    rfl
  · rw [flows, ← same.2]
    rfl

end Stages

/-! ### Reassembly -/

/-- A captured packet as an event of the fragment table. -/
def fragmentEventAt (config : AppConfig) (datalink : Datalink) (captured : CapturedPacket) :
    FragmentEvent where
  fragment := parsedAt config datalink captured
  now := captured.seconds

/-- The packet that a pass goes on with, by what the fragment table answers. -/
def effectiveOf (config : AppConfig) (datalink : Datalink) (captured : CapturedPacket)
    (result : IPv4FragmentProcessResult) : PacketInfo :=
  match result with
  | .reassembled packet =>
      parserParsePacketWithDatalink (payloadDecodeLimit config.payloadDecodeBytes) packet .raw
  | _ => parsedAt config datalink captured

/-- The captured packet is a fragment of the key's datagram. -/
def isPieceOf (config : AppConfig) (datalink : Datalink) (key : IPv4FragmentKey)
    (captured : CapturedPacket) : Bool :=
  ownFragment key (fragmentEventAt config datalink captured)

section Reassembly

variable {config : AppConfig} {datalink : Datalink} {key : IPv4FragmentKey}
variable {table : IPv4FragmentTable} {stats : PacketStats} {captured : CapturedPacket}

/-- A pass of the first stage is one of the fragment table. -/
theorem reassembler_step (captured : CapturedPacket) (table : IPv4FragmentTable)
    (stats : PacketStats) :
    (reassembler config datalink).output table captured =
        effectiveOf config datalink captured
          (fragmentReassembly.output (table, stats) (fragmentEventAt config datalink captured)) ∧
      (reassembler config datalink).next table captured =
        (fragmentReassembly.next (table, stats) (fragmentEventAt config datalink captured)).1 := by
  have same := process_table (table, stats) {} (parsedAt config datalink captured) captured.seconds
  simp only [Machine.output, Machine.next, reassembler, fragmentReassembly, fragmentEventAt,
    effectivePacket]
  cases isFragment : (parsedAt config datalink captured).isIpv4Fragment with
  | false =>
      have ignored : ipv4FragmentTableProcess (table, stats) (parsedAt config datalink captured)
          captured.seconds = ((table, stats), .ignored) := by
        rw [ipv4FragmentTableProcess, isFragment]
        rfl
      rw [ignored]
      exact ⟨rfl, rfl⟩
  | true =>
      simp only [Bool.not_true, Bool.false_eq_true, if_false]
      generalize ipv4FragmentTableProcess (table, stats) (parsedAt config datalink captured)
        captured.seconds = counted at same ⊢
      generalize ipv4FragmentTableProcess (table, {}) (parsedAt config datalink captured)
        captured.seconds = uncounted at same ⊢
      rcases counted with ⟨next, result⟩
      rcases uncounted with ⟨other, otherResult⟩
      obtain ⟨sameTable, sameResult⟩ := same
      dsimp only at sameTable sameResult
      rw [sameResult]
      cases result <;> exact ⟨rfl, sameTable⟩

/-- What a key's pieces are replaced by, from what the fragment table answers to them. -/
theorem reassembler_selected (key : IPv4FragmentKey) (table : IPv4FragmentTable)
    (stats : PacketStats) (packets : List CapturedPacket) :
    (reassembler config datalink).selectedOutputs (isPieceOf config datalink key) table packets =
      List.zipWith (effectiveOf config datalink)
        (packets.filter (isPieceOf config datalink key))
        (fragmentReassembly.selectedOutputs (ownFragment key) (table, stats)
          (packets.map (fragmentEventAt config datalink))) := by
  induction packets generalizing table stats with
  | nil => rfl
  | cons captured packets inductionHypothesis =>
      obtain ⟨output, next⟩ := @reassembler_step config datalink captured table stats
      have rest := inductionHypothesis
        (fragmentReassembly.next (table, stats) (fragmentEventAt config datalink captured)).1
        (fragmentReassembly.next (table, stats) (fragmentEventAt config datalink captured)).2
      rw [Machine.selectedOutputs, List.map_cons, Machine.selectedOutputs, output, next, rest]
      cases own : isPieceOf config datalink key captured with
      | true =>
          have listed : ownFragment key (fragmentEventAt config datalink captured) = true := own
          rw [if_pos rfl, if_pos listed, List.filter_cons_of_pos own, List.zipWith_cons_cons]
      | false =>
          have other : ¬ ownFragment key (fragmentEventAt config datalink captured) = true := by
            simpa [isPieceOf] using own
          rw [if_neg Bool.false_ne_true, if_neg other, List.filter_cons_of_neg (by simp [own])]

/-- Pieces that are queued up to the last, which completes the datagram. -/
theorem zipWith_effectiveOf {pieces : List CapturedPacket} {count : Nat} (packet : List UInt8)
    (sized : pieces.length = count + 1) :
    List.zipWith (effectiveOf config datalink) pieces
        (List.replicate count .queued ++ [.reassembled packet]) =
      pieces.dropLast.map (parsedAt config datalink) ++
        [parserParsePacketWithDatalink (payloadDecodeLimit config.payloadDecodeBytes) packet
          .raw] := by
  induction pieces generalizing count with
  | nil => contradiction
  | cons piece pieces inductionHypothesis =>
      cases pieces with
      | nil =>
          obtain rfl : count = 0 := by simpa using sized.symm
          rfl
      | cons next pieces =>
          obtain ⟨rest, rfl⟩ : ∃ rest, count = rest + 1 :=
            ⟨pieces.length, by simpa using sized.symm⟩
          rw [List.replicate_succ, List.cons_append, List.zipWith_cons_cons,
            inductionHypothesis (by simpa using sized), List.dropLast_cons_cons, List.map_cons]
          rfl

/-- Every frame's piece is found among the arrivals as what is parsed of it. -/
theorem arrivals_of_frames {header : Ipv4Header} {payload : List UInt8}
    {frames : List FragmentFrame} {number : UInt8} {packets : List CapturedPacket}
    (fragmented : FragmentedInto header payload frames)
    (announced : ∀ frame ∈ frames, frame.framing.datalink = datalink)
    (arrived : ((packets.filter (isPieceOf config datalink key)).map CapturedPacket.bytes).Perm
      (frames.map fun frame => frame.bytes number)) :
    (arrivals key (packets.map (fragmentEventAt config datalink))).Perm
      (frames.map fun frame => frame.info number) := by
  have parsed : (frames.map fun frame => frame.info number) =
      (frames.map fun frame => frame.bytes number).map fun bytes =>
        parserParsePacketWithDatalink (payloadDecodeLimit config.payloadDecodeBytes) bytes
          datalink := by
    rw [List.map_map]
    apply List.map_congr_left
    intro frame member
    have shorter : frame.header.optionWords.val ≤ header.optionWords.val :=
      (fragmented.same frame member).2.2.2
    have inside := (fragmented.cuts.after.2 frame member).2
    have fits := fragmented.fits
    rw [Function.comp_apply, ← announced frame member,
      frame.parsed (by omega) (fragmented.cuts.fragmented fragmented.counted.1 frame member)]
  have same : arrivals key (packets.map (fragmentEventAt config datalink)) =
      ((packets.filter (isPieceOf config datalink key)).map CapturedPacket.bytes).map fun bytes =>
        parserParsePacketWithDatalink (payloadDecodeLimit config.payloadDecodeBytes) bytes
          datalink := by
    rw [arrivals, List.filter_map, List.map_map, List.map_map]
    rfl
  rw [same, parsed]
  exact arrived.map _

end Reassembly

/-! ### Runs -/

section Runs

variable {idna : IdnaLookup} {config : AppConfig} {datalink : Datalink} {initial : CaptureState}

/-- The fragment table of a capture is its first stage's. -/
theorem captureLoop_fragmentTable (unlimited : config.maxPackets = 0) (state : CaptureState)
    (packets : List CapturedPacket) :
    ((captureLoop idna config datalink).run state packets).fragmentTable =
      (reassembler config datalink).run state.fragmentTable packets := by
  refine @Machine.run_related _ _ _ (captureLoop idna config datalink) _ _
    (reassembler config datalink) (fun fragmentTable state => state.fragmentTable = fragmentTable)
    ?_ _ _ rfl packets
  rintro state fragmentTable captured rfl
  have running : captureIsDone config state = false := by simp [captureIsDone, unlimited]
  have same := effectivePacket_table
    (state.fragmentTable, { state.stats with rawPacketsSeen := state.stats.rawPacketsSeen + 1 }) {}
    (parsedAt config datalink captured) captured.seconds config
  obtain ⟨table, -⟩ := @capturePass_running idna config datalink captured state running
  rw [table]
  exact same.1.symm

/-- A capture's fragment table is well formed and keeps its limits. -/
theorem captureLoop_fragmentLimits (unlimited : config.maxPackets = 0)
    (started : captureInit config = some initial) (past : List CapturedPacket) :
    ((captureLoop idna config datalink).run initial past).fragmentTable.Wellformed ∧
      ((captureLoop idna config datalink).run initial past).fragmentTable.limits =
        (config.ipv4FragmentMaxDatagrams, config.ipv4FragmentMaxBytes,
          config.ipv4FragmentTimeoutSeconds) := by
  have initialized := (captureInit_parts started).1
  have fresh : FragmentCaptured (initial.fragmentTable, {}) :=
    ⟨_, _, _, _, _, initialized, Machine.Reachable.refl _⟩
  have limits : initial.fragmentTable.limits = (config.ipv4FragmentMaxDatagrams,
      config.ipv4FragmentMaxBytes, config.ipv4FragmentTimeoutSeconds) := by
    unfold ipv4FragmentTableInit at initialized
    split at initialized
    · contradiction
    · rw [← Option.some.inj initialized]
      rfl
  rw [← limits, captureLoop_fragmentTable unlimited initial past]
  refine @Machine.run_preserves _ _ _ (reassembler config datalink)
    (fun table => table.Wellformed ∧ table.limits = initial.fragmentTable.limits) ?_ _
    ⟨fresh.wellformed, rfl⟩ past
  rintro table captured ⟨wellformed, same⟩
  have counted : ((table, {}) : FragmentState).1.Wellformed := wellformed
  rw [(reassembler_step captured table {}).2]
  exact ⟨process_wellformed counted _, (process_limits counted _).trans same⟩

/-- A datagram that is captured in fragments, in any order and between any other traffic, is handed
on as the one that would have been sent whole: the pieces before the last one to arrive stay pieces,
and the last one is replaced by the datagram. -/
theorem fragmented_datagram_transparent (idna : IdnaLookup) (unlimited : config.maxPackets = 0)
    (started : captureInit config = some initial) (past : List CapturedPacket)
    {header : Ipv4Header} {segment : Segment} {frames : List FragmentFrame}
    (fragmented : FragmentedInto header segment.encode frames)
    (announced : ∀ frame ∈ frames, frame.framing.datalink = datalink)
    (absent : datagramOf ((captureLoop idna config datalink).run initial past).fragmentTable
      (header.fragmentKey segment.ipv4Number) = none)
    {packets : List CapturedPacket}
    (arrived : ((packets.filter (isPieceOf config datalink
        (header.fragmentKey segment.ipv4Number))).map CapturedPacket.bytes).Perm
      (frames.map fun frame => frame.bytes segment.ipv4Number))
    (ordered : (packets.map CapturedPacket.seconds).Pairwise (· ≤ ·))
    (inTime : ArriveInTime config.ipv4FragmentTimeoutSeconds ((packets.filter (isPieceOf config
      datalink (header.fragmentKey segment.ipv4Number))).map CapturedPacket.seconds))
    (caps : fragmentReassembly.AllSteps (WithinCaps (header.fragmentKey segment.ipv4Number))
      (((captureLoop idna config datalink).run initial past).fragmentTable, {})
      (packets.map (fragmentEventAt config datalink))) :
    let state := (captureLoop idna config datalink).run initial past
    let isPiece := isPieceOf config datalink (header.fragmentKey segment.ipv4Number)
    (captureLoop idna config datalink).outputs state packets =
        (displayer idna config).outputs state.flowTable (List.zipWith handOver packets
          ((reassembler config datalink).outputs state.fragmentTable packets)) ∧
      (reassembler config datalink).selectedOutputs isPiece state.fragmentTable packets =
        (packets.filter isPiece).dropLast.map (parsedAt config datalink) ++
          [(IpPacket.v4 (header.withChecksum 0) segment fragmented.fits).info
            (payloadDecodeLimit config.payloadDecodeBytes) 0] := by
  intro state isPiece
  refine ⟨captureLoop_stages unlimited state packets, ?_⟩
  obtain ⟨first, head⟩ : ∃ first, frames.head? = some first := by
    cases frames with
    | nil => exact absurd fragmented.counted.1 (by decide)
    | cons first rest => exact ⟨first, rfl⟩
  obtain ⟨wellformed, limits⟩ :=
    @captureLoop_fragmentLimits idna config datalink initial unlimited started past
  simp only [IPv4FragmentTable.limits, Prod.mk.injEq] at limits
  have counted : ((state.fragmentTable, {}) : FragmentState).1.Wellformed := wellformed
  have pieces := arrivals_of_frames fragmented announced arrived
  have times : arrivalTimes (header.fragmentKey segment.ipv4Number)
      (packets.map (fragmentEventAt config datalink)) =
      (packets.filter isPiece).map CapturedPacket.seconds := by
    rw [arrivalTimes, List.filter_map, List.map_map]
    rfl
  have answers := arriving_run (fragmented.fragmentation segment.ipv4Number head) counted absent
    pieces (by rw [List.map_map]; exact ordered) (by rw [limits.2.2, times]; exact inTime) caps
  have several := fragmented.counted.1
  have sized : (packets.filter isPiece).length = frames.length - 1 + 1 := by
    have same : (packets.filter isPiece).length = frames.length := by
      simpa using arrived.length_eq
    omega
  have whole : parserParsePacketWithDatalink (payloadDecodeLimit config.payloadDecodeBytes)
      ((header.withChecksum 0).encode segment.ipv4Number segment.encode.length ++ segment.encode)
      .raw = (IpPacket.v4 (header.withChecksum 0) segment fragmented.fits).info
        (payloadDecodeLimit config.payloadDecodeBytes) 0 := by
    have version := (header.withChecksum 0).encodeWith_version segment.ipv4Number
      segment.encode.length (header.withChecksum 0).fragmentWord (segment.encode ++ [])
    have read := parseIpv4Packet_encode (payloadDecodeLimit config.payloadDecodeBytes)
      (header.withChecksum 0) segment [] fragmented.fits rfl
    have framed := (IpFraming.raw : IpFraming .v4).parse_eq
      (payloadDecodeLimit config.payloadDecodeBytes) version
    rw [List.append_nil] at framed read
    refine framed.trans ?_
    rw [IpFraming.bytes, List.length_nil, PacketInfo.relocate_zero]
    exact read
  rw [fragmented.rebuilt segment.ipv4Number head, List.length_map] at answers
  rw [reassembler_selected _ _ {}, answers, zipWith_effectiveOf _ sized, whole]

end Runs

/-! ### A query in two fragments -/

def sampleDatagramHeader : Ipv4Header where
  typeOfService := 0
  identification := 7
  reserved := false
  dontFragment := false
  timeToLive := 64
  checksum := 0x1234
  source := [10, 0, 0, 1]
  sourceSized := rfl
  destination := [10, 0, 0, 2]
  destinationSized := rfl
  optionWords := 0
  options := []
  optionsSized := rfl

def sampleDatagram : Segment :=
  .udp
    { srcPort := 4000, dstPort := 53, checksum := 0, payload := List.replicate 16 5,
      fits := by decide }

def sampleEthernet : IpFraming .v4 := .link (.ethernet (List.replicate 12 0) rfl)

/-- The end of the datagram, and its beginning with padding. -/
def sampleDatagramFrames : List FragmentFrame :=
  [{ framing := sampleEthernet, header := sampleDatagramHeader, fragmentField := 0x2000,
     piece := slice sampleDatagram.encode 0 8, padding := List.replicate 18 0 },
    { framing := sampleEthernet, header := sampleDatagramHeader, fragmentField := 1,
      piece := slice sampleDatagram.encode 8 24, padding := [] }]

theorem sampleDatagram_fragmented :
    FragmentedInto sampleDatagramHeader sampleDatagram.encode sampleDatagramFrames where
  fits := by decide
  counted := by decide
  first := by
    intro frame head
    obtain rfl := Option.mem_some_iff.mp head
    exact ⟨rfl, by decide⟩
  same := by
    intro frame member
    rcases List.mem_cons.mp member with rfl | last
    · decide
    · rw [List.mem_singleton.mp last]
      decide
  cuts := by
    unfold sampleDatagramFrames CutInto CutInto CutInto
    decide

/-- The frames in reverse order around a packet of another kind. -/
def sampleDatagramTraffic : List CapturedPacket :=
  (List.intersperse [1, 2, 3] (sampleDatagramFrames.reverse.map fun frame =>
    frame.bytes sampleDatagram.ipv4Number)).map fun bytes => { bytes := bytes, seconds := 5 }

theorem fragmented_datagram_transparent_sampleDatagram :
    ∃ initial, captureInit {} = some initial ∧
      (reassembler {} .en10mb).selectedOutputs
          (isPieceOf {} .en10mb (sampleDatagramHeader.fragmentKey sampleDatagram.ipv4Number))
          initial.fragmentTable sampleDatagramTraffic =
        (sampleDatagramTraffic.filter (isPieceOf {} .en10mb
            (sampleDatagramHeader.fragmentKey sampleDatagram.ipv4Number))).dropLast.map
          (parsedAt {} .en10mb) ++
          [(IpPacket.v4 (sampleDatagramHeader.withChecksum 0) sampleDatagram
            (by decide)).info 65536 0] := by
  refine ⟨_, rfl, ?_⟩
  have announced : ∀ frame ∈ sampleDatagramFrames, frame.framing.datalink = .en10mb := by
    intro frame member
    rcases List.mem_cons.mp member with rfl | last
    · rfl
    · rw [List.mem_singleton.mp last]
      rfl
  exact (fragmented_datagram_transparent none rfl rfl [] sampleDatagram_fragmented announced
    (by decide) (by decide +kernel) (by decide) (Or.inr (by decide +kernel))
    (by decide +kernel)).2

end MiniSniffer
