import MiniSniffer.Capture.Funnel
import MiniSniffer.Capture.Pass

/-!
Contract: the decode status of packets that are displayed with metadata.

Owns where the metadata of a displayed packet comes from: the packet itself, its flow, or the
stream that the packet's segment completes. The status is that of packet-local decoding alone, so
it says `decoded` exactly where the packet decodes on its own.

Does not own the verdicts of the decoders.
-/

namespace MiniSniffer

open Foundation

/-! ### Metadata from the flow -/

/-- The packet's segment is taken, and the stream up to it is recognised. -/
def streamCompletes (flow : FlowInfo) (direction : FlowDirection) (packet : PacketInfo) : Bool :=
  packet.protocol = .tcp && packet.hasTcpSequence && bearsPayload packet &&
    (processedResult flow direction packet ≠ .dropped &&
      decide (Recognised (streamDecoded flow direction packet)))

/-- The packet's flow was classified before it, or its segment completes a recognised stream. -/
def flowHasApp (flowTable : Option FlowTable) (packet : PacketInfo) (now : Nat) : Bool :=
  match flowTable, trackedAs packet with
  | some table, some (key, direction) =>
      (assignedFlow table key now).appClassified ||
        streamCompletes (assignedFlow table key now) direction packet
  | _, _ => false

section Flow

variable {config : AppConfig} {flow : FlowInfo} {direction : FlowDirection} {packet : PacketInfo}
variable {now : Nat}

theorem feedStream_classifies (buffered : 0 < flow.streamBufferBytes) :
    (feedStream flow direction packet).2.1 =
      (processedResult flow direction packet ≠ .dropped &&
        decide (Recognised (streamDecoded flow direction packet))) := by
  obtain ⟨prepared, preparedEq, tcp⟩ := flowPrepare_tcp flow direction buffered
  unfold feedStream processedResult streamDecoded processedTcp
  simp only [preparedEq, tcp]
  split_ifs with dropped refused
  · simp [dropped]
  · have unrecognised : ¬ Recognised (appDecodeStream packet (streamBufferData
        (tcpReassemblyProcessSegment (preparedTcp flow direction) packet.tcpSequence
          packet.tcpFlags packet.payloadBytes).1.stream)) := by
      rintro ⟨ok, known⟩
      simp [ok, known] at refused
    simp [unrecognised]
  · have recognised : Recognised (appDecodeStream packet (streamBufferData
        (tcpReassemblyProcessSegment (preparedTcp flow direction) packet.tcpSequence
          packet.tcpFlags packet.payloadBytes).1.stream)) := by
      simpa [Recognised] using refused
    simp [dropped, recognised]

theorem flowDecodeStreamApp_classifies (buffered : 0 < flow.streamBufferBytes)
    (unclassified : flow.appClassified = false) :
    (flowDecodeStreamApp flow direction packet).2.1 = streamCompletes flow direction packet := by
  unfold flowDecodeStreamApp streamCompletes
  split_ifs with untracked quiet
  · have skipped : (decide (packet.protocol = .tcp) && packet.hasTcpSequence) = false := by
      simpa [Bool.and_eq_false_iff, ← imp_iff_not_or] using untracked
    rw [skipped]
    rfl
  · have empty : bearsPayload packet = false := by simpa [unclassified] using quiet
    rw [empty]
    simp
  · rw [feedStream_classifies buffered]
    simp only [Bool.or_eq_true, decide_eq_true_eq, not_or, not_not, Bool.not_eq_true',
      Bool.not_eq_false] at untracked quiet
    simp [untracked, quiet]

/-- Counters and times of the packet do not matter to its stream. -/
theorem streamCompletes_flowUpdatePacket (flow : FlowInfo) (direction : FlowDirection)
    (packet : PacketInfo) (now : Nat) :
    streamCompletes (flowUpdatePacket flow packet now direction) direction packet =
      streamCompletes flow direction packet := by
  have prepared : preparedTcp (flowUpdatePacket flow packet now direction) direction =
      preparedTcp flow direction := by
    simp only [preparedTcp, flowUpdatePacket_tcp, flowUpdatePacket_streamBufferBytes]
  unfold streamCompletes processedResult streamDecoded processedTcp
  rw [prepared]

/-- With decoding, a flow contributes metadata if it has some already or gets some here. -/
theorem feedFlow_flowApp (decoding : config.decodeApp = true)
    (buffered : 0 < flow.streamBufferBytes) :
    (feedFlow config flow direction packet now).flowApp.isSome =
      (flow.appClassified || streamCompletes flow direction packet) := by
  have classified := flowUpdatePacket_appClassified flow direction packet now
  have sized := flowUpdatePacket_streamBufferBytes flow direction packet now
  unfold feedFlow
  simp only [decoding, classified]
  cases known : flow.appClassified with
  | true => rfl
  | false =>
      have updated : 0 < (flowUpdatePacket flow packet now direction).streamBufferBytes := by
        rw [sized]
        exact buffered
      have classifies : (flowDecodeStreamApp (flowUpdatePacket flow packet now direction) direction
          packet).2.1 = streamCompletes (flowUpdatePacket flow packet now direction) direction
            packet := flowDecodeStreamApp_classifies updated (classified.trans known)
      rw [streamCompletes_flowUpdatePacket] at classifies
      rw [← classifies]
      rcases flowDecodeStreamApp (flowUpdatePacket flow packet now direction) direction packet with
        ⟨fed, _ | _, status⟩ <;> rfl

end Flow

/-! ### Displayed packets -/

/-- The fragment table and the packet that a pass goes on with, under any link type. -/
def effectiveAt (config : AppConfig) (datalink : Datalink) (state : CaptureState)
    (captured : CapturedPacket) : FragmentState × PacketInfo :=
  effectivePacket config
    (state.fragmentTable, { state.stats with rawPacketsSeen := state.stats.rawPacketsSeen + 1 })
    (parserParsePacketWithDatalink (payloadDecodeLimit config.payloadDecodeBytes) captured.bytes
      datalink)
    captured.seconds

/-- Of the decode counters only that of decoded packets moves, by one. -/
def CountedDecoded (before after : PacketStats) : Prop :=
  after.appDecodeDecoded = before.appDecodeDecoded + 1 ∧
    after.appDecodeNoMatch = before.appDecodeNoMatch ∧
    after.appDecodeNeedMore = before.appDecodeNeedMore ∧
    after.appDecodeMalformed = before.appDecodeMalformed ∧
    after.appDecodeTruncated = before.appDecodeTruncated

instance (before after : PacketStats) : Decidable (CountedDecoded before after) :=
  inferInstanceAs (Decidable (_ ∧ _))

/-- A packet displayed with metadata is reported and counted as decoded. -/
def ReportedDecoded (idna : IdnaLookup) (config : AppConfig) (datalink : Datalink)
    (state : CaptureState) (captured : CapturedPacket) : Prop :=
  ∀ shown ∈ (captureLoop idna config datalink).output state captured, shown.app.isSome = true →
    shown.info.appDecodeStatus = .decoded ∧
      CountedDecoded state.stats ((captureLoop idna config datalink).next state captured).stats

instance (idna : IdnaLookup) (config : AppConfig) (datalink : Datalink) (state : CaptureState)
    (captured : CapturedPacket) :
    Decidable (ReportedDecoded idna config datalink state captured) :=
  inferInstanceAs (Decidable (∀ shown ∈ _, _))

/-- Within the limit, a packet that the filters let through and whose flow has metadata decodes on
its own. -/
def DecodesAlone (idna : IdnaLookup) (config : AppConfig) (datalink : Datalink)
    (state : CaptureState) (captured : CapturedPacket) : Prop :=
  let packet := (effectiveAt config datalink state captured).2
  captureIsDone config state = false →
    filtersMatch idna config
        (decodeCapture config state.flowTable packet captured.seconds).2.filterContext = true →
      flowHasApp state.flowTable packet captured.seconds = true →
        (packetApp packet).isSome = true

section Displayed

variable {idna : IdnaLookup} {config : AppConfig} {datalink : Datalink} {state : CaptureState}
variable {captured : CapturedPacket} {flowTable : Option FlowTable} {table : FlowTable}
variable {packet : PacketInfo} {now : Nat} {shown : DisplayedPacket}

theorem status_decoded_iff (packet : PacketInfo) :
    appDecodeStatusFromResult (appDecodePacket packet).1 packet (appDecodePacket packet).2 =
        .decoded ↔ (packetApp packet).isSome = true := by
  unfold appDecodeStatusFromResult packetApp
  dsimp only
  split_ifs <;> simp

theorem display_status (decoding : config.decodeApp = true) :
    ((decodeCapture config flowTable packet now).2.display config).info.appDecodeStatus =
        .decoded ↔ (packetApp packet).isSome = true := by
  rw [← status_decoded_iff]
  simp only [DecodedCapture.display, decodeCapture, decodedInfo, decoding, if_true]

theorem trackFlow_tracked {key : FlowKey} {direction : FlowDirection} (config : AppConfig)
    (now : Nat) (wellformed : table.Wellformed)
    (tracked : trackedAs packet = some (key, direction)) :
    ∃ index, (trackFlow config (some table) packet now).2 =
      some (index, feedFlow config (assignedFlow table key now) direction packet now) := by
  obtain ⟨looked, index, -, -, lookup, slot, -⟩ :=
    flowTableGetOrCreate_place now wellformed tracked
  refine ⟨index, ?_⟩
  simp only [trackFlow, lookup, slot]
  rfl

theorem classifyLocals_none (locals : FlowLocals) : classifyLocals none locals = locals := rfl

/-- With decoding, a displayed packet has metadata from itself or from its flow. -/
theorem display_app (decoding : config.decodeApp = true)
    (wellformed : ∀ table, flowTable = some table → table.Wellformed) :
    ((decodeCapture config flowTable packet now).2.display config).app.isSome =
      ((packetApp packet).isSome || flowHasApp flowTable packet now) := by
  cases alone : packetApp packet with
  | some app => simp [DecodedCapture.display, decodeCapture, decoding, alone]
  | none =>
      rw [Option.isSome_none, Bool.false_or]
      cases tracked : trackedAs packet with
      | none =>
          have slot := trackFlow_untracked config flowTable now tracked
          have silent : flowHasApp flowTable packet now = false := by
            cases flowTable <;> simp [flowHasApp, tracked]
          simp [DecodedCapture.display, decodeCapture, decoding, alone, slot, silent]
      | some keyed =>
          obtain ⟨key, direction⟩ := keyed
          cases flowTable with
          | none => simp [DecodedCapture.display, decodeCapture, decoding, alone, trackFlow,
              flowHasApp]
          | some table =>
              obtain ⟨index, slot⟩ :=
                trackFlow_tracked config now (wellformed table rfl) tracked
              have buffered := (wellformed table rfl).assigned_buffered key now
              simp only [DecodedCapture.display, decodeCapture, decoding, alone, slot, if_true,
                Option.map_some, classifyLocals_none, flowHasApp, tracked]
              exact feedFlow_flowApp decoding buffered

/-! ### The pass -/

theorem effectiveAt_eq (config : AppConfig) (datalink : Datalink) (state : CaptureState)
    (captured : CapturedPacket) :
    effectiveAt config datalink state captured = effectivePacket config
      (state.fragmentTable, { state.stats with rawPacketsSeen := state.stats.rawPacketsSeen + 1 })
      (parserParsePacketWithDatalink (payloadDecodeLimit config.payloadDecodeBytes) captured.bytes
        datalink) captured.seconds := rfl

theorem effectiveAt_withoutFragments (config : AppConfig) (datalink : Datalink)
    (state : CaptureState) (captured : CapturedPacket) :
    withoutFragments (effectiveAt config datalink state captured).1.2 =
      withoutFragments { state.stats with rawPacketsSeen := state.stats.rawPacketsSeen + 1 } := by
  have kept := effectiveOrFailed_withoutFragments (configuredParser config)
    (state.fragmentTable, { state.stats with rawPacketsSeen := state.stats.rawPacketsSeen + 1 })
    (parserParsePacketWithDatalink (payloadDecodeLimit config.payloadDecodeBytes) captured.bytes
      datalink) captured.seconds
  rw [effectiveOrFailed_configured] at kept
  exact kept

/-- A pass that displays something: what it displays, and how it counts. -/
theorem capturePass_displays
    (displayed : (capturePass idna config datalink state captured).2 = some shown) :
    shown = (decodeCapture config state.flowTable (effectiveAt config datalink state captured).2
        captured.seconds).2.display config ∧
      (capturePass idna config datalink state captured).1.stats =
        statsUpdate (effectiveAt config datalink state captured).1.2
          { parserParsePacketWithDatalink (payloadDecodeLimit config.payloadDecodeBytes)
              captured.bytes datalink with appDecodeStatus := shown.info.appDecodeStatus } := by
  unfold capturePass at displayed ⊢
  dsimp only at displayed ⊢
  rw [← effectiveAt_eq] at displayed ⊢
  split_ifs at displayed ⊢
  obtain rfl := Option.some.inj displayed
  exact ⟨rfl, rfl⟩

/-- What is displayed is within the limit and passes the filters. -/
theorem capturePass_isSome (idna : IdnaLookup) (config : AppConfig) (datalink : Datalink)
    (state : CaptureState) (captured : CapturedPacket) :
    (capturePass idna config datalink state captured).2.isSome = true ↔
      captureIsDone config state = false ∧
        filtersMatch idna config (decodeCapture config state.flowTable
          (effectiveAt config datalink state captured).2 captured.seconds).2.filterContext =
            true := by
  unfold capturePass
  dsimp only
  rw [← effectiveAt_eq]
  split_ifs with done hidden
  · simp [done]
  · simpa using fun _ => hidden
  · simpa [done] using hidden

theorem statsUpdate_countedDecoded {before seen : PacketStats} {info : PacketInfo}
    (kept : withoutFragments seen = withoutFragments { before with
      rawPacketsSeen := before.rawPacketsSeen + 1 })
    (decoded : info.appDecodeStatus = .decoded) :
    CountedDecoded before (statsUpdate seen info) := by
  have noMatch := congrArg PacketStats.appDecodeNoMatch kept
  have needMore := congrArg PacketStats.appDecodeNeedMore kept
  have malformed := congrArg PacketStats.appDecodeMalformed kept
  have truncated := congrArg PacketStats.appDecodeTruncated kept
  have same := congrArg PacketStats.appDecodeDecoded kept
  have counted : seen.appDecodeDecoded + 1 = before.appDecodeDecoded + 1 := congrArg (· + 1) same
  unfold statsUpdate countDecodeStatus countProtocol
  rw [decoded]
  cases info.protocol <;> exact ⟨counted, noMatch, needMore, malformed, truncated⟩

/-- The status says `decoded` exactly where the packet decodes on its own. -/
theorem reportedDecoded_iff (decoding : config.decodeApp = true)
    (wellformed : ∀ table, state.flowTable = some table → table.Wellformed) :
    ReportedDecoded idna config datalink state captured ↔
      DecodesAlone idna config datalink state captured := by
  have passes := capturePass_isSome idna config datalink state captured
  unfold ReportedDecoded DecodesAlone
  dsimp only
  rw [← and_imp, ← passes]
  show (∀ shown ∈ (captureLoop idna config datalink).output state captured, _) ↔
    (((captureLoop idna config datalink).output state captured).isSome = true → _)
  cases displayed : (captureLoop idna config datalink).output state captured with
  | none => simp
  | some shown =>
      obtain ⟨rfl, counted⟩ := capturePass_displays displayed
      simp only [Option.mem_some_iff, forall_eq', Option.isSome_some, true_imp_iff]
      rw [display_app decoding wellformed]
      constructor
      · intro reported known
        exact (display_status decoding).mp (reported (by rw [known, Bool.or_true])).1
      · intro alone known
        have decodes :
            (packetApp (effectiveAt config datalink state captured).2).isSome = true := by
          rcases Bool.or_eq_true_iff.mp known with decodes | flow
          · exact decodes
          · exact alone flow
        have status : ((decodeCapture config state.flowTable
            (effectiveAt config datalink state captured).2 captured.seconds).2.display
              config).info.appDecodeStatus = .decoded := (display_status decoding).mpr decodes
        refine ⟨status, ?_⟩
        show CountedDecoded state.stats (capturePass idna config datalink state captured).1.stats
        rw [counted]
        exact statsUpdate_countedDecoded
          (effectiveAt_withoutFragments config datalink state captured) status

theorem displayPacket_wellformed (idna : IdnaLookup) (config : AppConfig) (packet : PacketInfo)
    (now : Nat) (wellformed : ∀ table, flowTable = some table → table.Wellformed) :
    ∀ table, (displayPacket idna config flowTable packet now).1 = some table →
      table.Wellformed := by
  intro next stored
  cases flowTable with
  | none =>
      rw [displayPacket_none] at stored
      contradiction
  | some table =>
      cases tracked : trackedAs packet with
      | none =>
          rw [displayPacket_untracked idna config (some table) tracked] at stored
          exact wellformed next stored
      | some keyed =>
          obtain ⟨-, placedTable, placed, shown⟩ :=
            displayPacket_tracked idna config now (wellformed table rfl) tracked
          rw [shown] at stored
          obtain rfl := Option.some.inj stored
          exact placed.wellformed

theorem capturePass_wellformed (idna : IdnaLookup) (config : AppConfig) (datalink : Datalink)
    (captured : CapturedPacket)
    (wellformed : ∀ table, state.flowTable = some table → table.Wellformed) :
    ∀ table, (capturePass idna config datalink state captured).1.flowTable = some table →
      table.Wellformed := by
  have displayed := displayPacket_wellformed idna config
    (effectiveAt config datalink state captured).2 captured.seconds wellformed
  unfold capturePass
  split
  · exact wellformed
  · unfold displayPacket at displayed
    dsimp only at displayed ⊢
    rw [← effectiveAt_eq]
    split at displayed
    next hidden =>
      rw [if_pos hidden]
      exact displayed
    next passes =>
      rw [if_neg passes]
      exact displayed

theorem captureInit_wellformed {initial : CaptureState}
    (started : captureInit config = some initial) :
    ∀ table, initial.flowTable = some table → table.Wellformed := by
  intro table held
  unfold captureInit at started
  split at started
  · contradiction
  · split_ifs at started with tracking
    · obtain ⟨flowTable, initialized, rfl⟩ := Option.map_eq_some_iff.mp started
      obtain rfl := Option.some.inj held
      exact (flowTableInit_consistent initialized).toWellformed
    · obtain rfl := Option.some.inj started
      contradiction

/-- In a run, every packet displayed with metadata is reported and counted as decoded exactly if
every packet within the limit that the filters let through and whose flow has metadata also decodes
on its own. -/
theorem stream_status_reported {initial : CaptureState} (idna : IdnaLookup) (datalink : Datalink)
    (decoding : config.decodeApp = true) (started : captureInit config = some initial)
    (packets : List CapturedPacket) :
    (captureLoop idna config datalink).AllSteps (ReportedDecoded idna config datalink) initial
        packets ↔
      (captureLoop idna config datalink).AllSteps (DecodesAlone idna config datalink) initial
        packets := by
  have kept : ∀ (state : CaptureState) (captured : CapturedPacket),
      (∀ table, state.flowTable = some table → table.Wellformed) →
        ∀ table, ((captureLoop idna config datalink).next state captured).flowTable = some table →
          table.Wellformed :=
    fun state captured wellformed =>
      capturePass_wellformed idna config datalink captured wellformed
  exact Machine.allSteps_congr kept
    (fun state captured wellformed => reportedDecoded_iff decoding wellformed)
    (captureInit_wellformed started) packets

/-- A segment of a connection to port 80, with its Ethernet and IPv4 headers. -/
def sampleHttpFrame (sequence : UInt8) (payload : List UInt8) : List UInt8 :=
  List.replicate 12 0 ++ [0x08, 0x00] ++
    [0x45, 0, 0, UInt8.ofNat (40 + payload.length), 0, 1, 0, 0, 64, 6, 0, 0, 10, 0, 0, 1, 10, 0, 0,
      2] ++
    [0x0f, 0xa0, 0, 80, 0, 0, 0, sequence, 0, 0, 0, 0, 0x50, 0x10, 0, 0, 0, 0, 0, 0] ++ payload

/-- A request in one segment, and the same request in two. -/
def sampleWholeRequest : List CapturedPacket :=
  [{ bytes := sampleHttpFrame 1 (ascii "GET / HTTP/1.1\r\n\r\n"), seconds := 1 }]

def sampleSplitRequest : List CapturedPacket :=
  [{ bytes := sampleHttpFrame 1 (ascii "GET / HT"), seconds := 1 },
    { bytes := sampleHttpFrame 9 (ascii "TP/1.1\r\n\r\n"), seconds := 1 }]

def sampleStreamConfig : AppConfig := { decodeApp := true, reassemble := true }

def sampleStreamState : CaptureState where
  fragmentTable := { maxDatagrams := 64, maxBytes := 1048576, timeoutSeconds := 30 }
  flowTable := some { maxFlows := 512, streamBufferBytes := 32768, timeoutSeconds := 60 }

theorem stream_status_reported_sampleWholeRequest :
    captureInit sampleStreamConfig = some sampleStreamState ∧
      (captureLoop none sampleStreamConfig .en10mb).AllSteps
        (ReportedDecoded none sampleStreamConfig .en10mb) sampleStreamState sampleWholeRequest :=
  ⟨rfl, (stream_status_reported none .en10mb rfl rfl sampleWholeRequest).mpr (by
    refine ⟨fun _ _ _ => ?_, trivial⟩
    decide +kernel)⟩

/-- The segment that completes a split request is displayed with metadata and reported as
malformed. -/
theorem completing_segment_reported_malformed :
    captureInit sampleStreamConfig = some sampleStreamState ∧
      ¬ (captureLoop none sampleStreamConfig .en10mb).AllSteps
        (ReportedDecoded none sampleStreamConfig .en10mb) sampleStreamState sampleSplitRequest := by
  refine ⟨rfl, ?_⟩
  decide +kernel

end Displayed

end MiniSniffer
