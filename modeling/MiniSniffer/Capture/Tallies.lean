import MiniSniffer.Capture.CaptureRecords
import MiniSniffer.Fragment.RebuiltHeaders
import MiniSniffer.Parser.PrintedTexts

/-!
Contract: the displayed counters of a capture against its records.

Owns which packet each counter is advanced for: the counters read the wire packet, the records show
the packet that the pass went on with, and both have the same addresses and protocol, so that the
counters of the summary are the tallies of the records.

Does not own the counters of raw packets and of fragments: see `Capture.Summary`.
-/

namespace MiniSniffer

open Foundation

/-! ### Counters and records -/

/-- The counter that `stats_update` keeps for a protocol. -/
def PacketStats.ofProtocol (stats : PacketStats) (protocol : Protocol) : UInt32 :=
  match protocol with
  | .tcp => stats.tcpPackets
  | .udp => stats.udpPackets
  | .icmp => stats.icmpPackets
  | .arp => stats.arpPackets
  | .other => stats.otherPackets

/-- The counter that `stats_update` keeps for a decode status; packets that no decoder saw have
none. -/
def PacketStats.ofStatus (stats : PacketStats) (status : AppDecodeStatus) : UInt32 :=
  match status with
  | .notRun => 0
  | .noMatch => stats.appDecodeNoMatch
  | .needMore => stats.appDecodeNeedMore
  | .malformed => stats.appDecodeMalformed
  | .truncated => stats.appDecodeTruncated
  | .decoded => stats.appDecodeDecoded

/-- The counters that only displayed packets advance. -/
def displayedCounters (stats : PacketStats) : PacketStats :=
  { withoutFragments stats with rawPacketsSeen := 0, packetsFilteredOut := 0, parseFailures := 0 }

/-- The captured packet that completed a record, and what the record shows. -/
abbrev ShownRecord := RecordedPacket × PacketInfo

/-- The displayed counters advanced by a list of records. -/
structure Tallies (before after : PacketStats) (records : List ShownRecord) : Prop where
  packets_eq : after.totalPackets = before.totalPackets + UInt32.ofNat records.length
  bytes_eq : after.totalBytes =
    before.totalBytes + (records.map fun record => record.1.bytes.length).sum
  protocols_eq : ∀ protocol, after.ofProtocol protocol = before.ofProtocol protocol +
    UInt32.ofNat (records.countP fun record => record.2.protocol = protocol)
  statuses_eq : ∀ status, status ≠ .notRun → after.ofStatus status = before.ofStatus status +
    UInt32.ofNat (records.countP fun record => record.2.appDecodeStatus = status)

section Counters

variable {before between after : PacketStats} {first second : List ShownRecord}
variable {header : RecordedPacket} {info shown : PacketInfo}

/-- Other counters may advance without a record. -/
theorem Tallies.of_same (same : displayedCounters after = displayedCounters before) :
    Tallies before after [] where
  packets_eq := by
    have kept := congrArg PacketStats.totalPackets same
    exact kept.trans (UInt32.add_zero _).symm
  bytes_eq := by
    have kept := congrArg PacketStats.totalBytes same
    exact kept
  protocols_eq := by
    intro protocol
    have kept := congrArg (fun stats => stats.ofProtocol protocol) same
    refine Eq.trans ?_ (UInt32.add_zero _).symm
    cases protocol <;> exact kept
  statuses_eq := by
    intro status _
    have kept := congrArg (fun stats => stats.ofStatus status) same
    refine Eq.trans ?_ (UInt32.add_zero _).symm
    cases status <;> exact kept

theorem Tallies.append (earlier : Tallies before between first)
    (later : Tallies between after second) : Tallies before after (first ++ second) where
  packets_eq := by
    rw [later.packets_eq, earlier.packets_eq, List.length_append, UInt32.ofNat_add,
      UInt32.add_assoc]
  bytes_eq := by
    rw [later.bytes_eq, earlier.bytes_eq, List.map_append, List.sum_append, Nat.add_assoc]
  protocols_eq := by
    intro protocol
    rw [later.protocols_eq, earlier.protocols_eq, List.countP_append, UInt32.ofNat_add,
      UInt32.add_assoc]
  statuses_eq := by
    intro status ran
    rw [later.statuses_eq status ran, earlier.statuses_eq status ran, List.countP_append,
      UInt32.ofNat_add, UInt32.add_assoc]

/-- A packet that is counted as what its record shows. -/
theorem tallies_statsUpdate (stats : PacketStats) (sized : info.size = header.bytes.length)
    (protocol : info.protocol = shown.protocol)
    (status : info.appDecodeStatus = shown.appDecodeStatus) :
    Tallies stats (statsUpdate stats info) [(header, shown)] where
  packets_eq := statsUpdate_totalPackets stats info
  bytes_eq := by
    have counted : (statsUpdate stats info).totalBytes = stats.totalBytes + info.size := by
      unfold statsUpdate countDecodeStatus countProtocol
      cases info.protocol <;> cases info.appDecodeStatus <;> rfl
    rw [counted, sized]
    rfl
  protocols_eq := by
    intro counted
    rw [List.countP_singleton, ← protocol]
    unfold statsUpdate countDecodeStatus countProtocol PacketStats.ofProtocol
    cases info.protocol <;> cases counted <;> cases info.appDecodeStatus <;>
      first | rfl | exact (UInt32.add_zero _).symm
  statuses_eq := by
    intro counted ran
    rw [List.countP_singleton, ← status]
    unfold statsUpdate countDecodeStatus countProtocol PacketStats.ofStatus
    cases counted <;> cases info.appDecodeStatus <;> cases info.protocol <;>
      first | rfl | exact (UInt32.add_zero _).symm | contradiction

end Counters

/-! ### Passes -/

/-- Every incomplete datagram has a header of its own. -/
def CaptureState.Headed (state : CaptureState) : Prop :=
  state.fragmentTable.Represented ∧ KeepsHeaders state.fragmentTable

section Passes

variable {idna : IdnaLookup} {config : AppConfig} {datalink : Datalink}
variable {state initial : CaptureState} {captured : CapturedPacket} {shown : DisplayedPacket}

/-- Reassembly puts a packet with the same addresses and protocol in a fragment's place. -/
theorem effectiveAt_sameEndpoints (headed : state.Headed) (config : AppConfig)
    (datalink : Datalink) (captured : CapturedPacket) :
    SameEndpoints (parserParsePacketWithDatalink (payloadDecodeLimit config.payloadDecodeBytes)
        captured.bytes datalink) (effectiveAt config datalink state captured).2 ∧
      (effectiveAt config datalink state captured).1.1.Represented ∧
      KeepsHeaders (effectiveAt config datalink state captured).1.1 := by
  obtain ⟨represented, keeps⟩ := headed
  have own := @AcceptableFragment.hasOwnHeader (payloadDecodeLimit config.payloadDecodeBytes)
    captured.bytes datalink
  rw [effectiveAt_eq]
  generalize parserParsePacketWithDatalink (payloadDecodeLimit config.payloadDecodeBytes)
    captured.bytes datalink = info at own ⊢
  set counted : FragmentState := (state.fragmentTable,
    { state.stats with rawPacketsSeen := state.stats.rawPacketsSeen + 1 })
  have kept := @process_keepsHeaders counted ⟨info, captured.seconds⟩ represented keeps own
  have next := @process_represented counted represented ⟨info, captured.seconds⟩
  have acceptable := @acceptable_of_reassembled counted ⟨info, captured.seconds⟩
  simp only [Machine.next, Machine.output, fragmentReassembly] at kept next acceptable
  unfold effectivePacket
  split
  · exact ⟨⟨rfl, rfl, rfl⟩, represented, keeps⟩
  · rcases processed : ipv4FragmentTableProcess counted info captured.seconds with ⟨table, result⟩
    rw [processed] at kept next acceptable
    cases result with
    | reassembled packet =>
        obtain ⟨header, data, headerOf, sized, fits, rfl⟩ := kept.2 packet rfl
        have parsed := parse_rebuilt (payloadDecodeLimit config.payloadDecodeBytes) headerOf sized
          fits
        refine ⟨⟨parsed.1, parsed.2.1, ?_⟩, next, kept.1⟩
        exact parsed.2.2.trans (own (acceptable rfl)).2.symm
    | ignored | queued | malformed | dropped => exact ⟨⟨rfl, rfl, rfl⟩, next, kept.1⟩

theorem decodedInfo_protocol (config : AppConfig) (packet : PacketInfo)
    (streamStatus : AppDecodeStatus) :
    (decodedInfo config packet streamStatus).protocol = packet.protocol := by
  unfold decodedInfo
  split_ifs <;> rfl

/-- The record of what a pass displays, if it displays anything. -/
def passRecords (header : RecordedPacket) (shown : Option DisplayedPacket) : List ShownRecord :=
  (shown.map fun displayed => (header, displayed.info)).toList

/-- What a pass counts before it knows whether the packet is displayed. -/
theorem effectiveAt_displayedCounters (config : AppConfig) (datalink : Datalink)
    (state : CaptureState) (captured : CapturedPacket) :
    displayedCounters (effectiveAt config datalink state captured).1.2 =
      displayedCounters state.stats := by
  have kept := effectiveAt_withoutFragments config datalink state captured
  rw [displayedCounters, kept]
  rfl

theorem capturePass_hidden (running : captureIsDone config state = false)
    (hidden : (capturePass idna config datalink state captured).2 = none) :
    displayedCounters (capturePass idna config datalink state captured).1.stats =
      displayedCounters state.stats := by
  rw [← effectiveAt_displayedCounters config datalink state captured]
  unfold capturePass at hidden ⊢
  simp only [running, Bool.false_eq_true, if_false] at hidden ⊢
  rw [← effectiveAt_eq] at hidden ⊢
  split_ifs at hidden ⊢
  rfl

/-- A pass counts what it displays, as it displays it. -/
theorem capturePass_tallies (headed : state.Headed) (idna : IdnaLookup) (config : AppConfig)
    (datalink : Datalink) (header : RecordedPacket) :
    let pass := capturePass idna config datalink state header.toCapturedPacket
    Tallies state.stats pass.1.stats (passRecords header pass.2) ∧ pass.1.Headed := by
  intro pass
  cases done : captureIsDone config state with
  | true =>
      have unchanged : pass = (state, none) := by
        simp only [pass, capturePass, done, if_true]
      rw [unchanged]
      exact ⟨Tallies.of_same rfl, headed⟩
  | false =>
      obtain ⟨endpoints, next⟩ := effectiveAt_sameEndpoints headed config datalink
        header.toCapturedPacket
      have table : pass.1.fragmentTable =
          (effectiveAt config datalink state header.toCapturedPacket).1.1 :=
        (@capturePass_running idna config datalink header.toCapturedPacket state done).1
      rw [← table] at next
      refine ⟨?_, next⟩
      cases displayed : pass.2 with
      | none => exact Tallies.of_same (capturePass_hidden done displayed)
      | some shown =>
          obtain ⟨decoded, stats⟩ := capturePass_displays displayed
          have seen := Tallies.of_same
            (effectiveAt_displayedCounters config datalink state header.toCapturedPacket)
          have protocol : shown.info.protocol =
              (effectiveAt config datalink state header.toCapturedPacket).2.protocol := by
            rw [decoded]
            exact decodedInfo_protocol config _ _
          rw [show pass.1.stats = _ from stats]
          exact seen.append (tallies_statsUpdate _
            (parserParsePacketWithDatalink_size _ header.bytes datalink)
            (protocol.trans endpoints.protocol_eq).symm rfl)

end Passes

/-! ### Runs -/

section Runs

variable {idna : IdnaLookup} {config : AppConfig} {datalink : Datalink}
variable {state initial : CaptureState}

/-- A run counts what it displays. -/
theorem captureLoop_tallies (headed : state.Headed) (packets : List RecordedPacket) :
    Tallies state.stats
      ((captureLoop idna config datalink).run state
        (packets.map RecordedPacket.toCapturedPacket)).stats
      ((displayedPackets idna config datalink state packets).map fun pair =>
        (pair.1, pair.2.info)) := by
  induction packets generalizing state with
  | nil => exact Tallies.of_same rfl
  | cons header packets inductionHypothesis =>
      obtain ⟨first, next⟩ := capturePass_tallies headed idna config datalink header
      have rest := first.append (inductionHypothesis next)
      simp only [displayedPackets, List.map_cons, Machine.run_cons, Machine.outputs_cons,
        List.zip_cons_cons] at rest ⊢
      simp only [Machine.next, Machine.output, captureLoop] at rest ⊢
      cases shown : (capturePass idna config datalink state header.toCapturedPacket).2 with
      | none =>
          rw [shown] at rest
          rw [List.filterMap_cons_none (by simp)]
          exact rest
      | some displayed =>
          rw [shown] at rest
          rw [List.filterMap_cons_some (b := (header, displayed)) (by simp)]
          exact rest

theorem captureInit_headed (started : captureInit config = some initial) : initial.Headed := by
  have initialized := (captureInit_parts started).1
  refine ⟨ipv4FragmentTableInit_represented initialized, ?_⟩
  unfold ipv4FragmentTableInit at initialized
  split at initialized
  · contradiction
  · rw [← Option.some.inj initialized]
    intro datagram member
    contradiction

theorem numberDisplayed_shown (displayed : List (RecordedPacket × DisplayedPacket))
    (number : UInt32) :
    (numberDisplayed number displayed).map (fun written =>
        (written.header, written.packet.toPacketInfo)) =
      displayed.map fun pair => (pair.1, pair.2.info) := by
  induction displayed generalizing number with
  | nil => rfl
  | cons pair displayed inductionHypothesis =>
      rw [numberDisplayed, List.map_cons, inductionHypothesis, List.map_cons]
      rfl

/-- The summary of a capture whose log never fails tallies its records: as many packets as were
written, each counted under the protocol and the decode status that its record shows, with the
bytes that were captured for it. -/
theorem summary_tallies_records (idna : IdnaLookup) (datalink : Datalink)
    (started : captureInit config = some initial) (packets : List RecordedPacket) :
    let written := numberedPackets idna config datalink initial packets
    let summary := captureFinish ((captureLoop idna config datalink).run initial
      (packets.map RecordedPacket.toCapturedPacket))
    summary.totalPackets = UInt32.ofNat written.length ∧
      summary.totalBytes = (written.map fun record => record.header.bytes.length).sum ∧
      (∀ protocol, summary.ofProtocol protocol =
        UInt32.ofNat (written.countP fun record => record.packet.protocol = protocol)) ∧
      ∀ status, status ≠ .notRun → summary.ofStatus status =
        UInt32.ofNat (written.countP fun record => record.packet.appDecodeStatus = status) := by
  intro written summary
  have tallies := @captureLoop_tallies idna config datalink initial (captureInit_headed started)
    packets
  have zeroed : initial.stats = {} := (captureInit_parts started).2.2.1
  rw [← numberDisplayed_shown _ initial.capturedPackets, zeroed] at tallies
  refine ⟨?_, ?_, fun protocol => ?_, fun status ran => ?_⟩
  · have counted := tallies.packets_eq
    rw [List.length_map] at counted
    exact counted.trans (UInt32.zero_add _)
  · have counted := tallies.bytes_eq
    rw [List.map_map] at counted
    exact counted.trans (Nat.zero_add _)
  · have counted := tallies.protocols_eq protocol
    rw [List.countP_map] at counted
    cases protocol <;> exact counted.trans (UInt32.zero_add _)
  · have counted := tallies.statuses_eq status ran
    rw [List.countP_map] at counted
    cases status <;> exact counted.trans (UInt32.zero_add _)

theorem summary_tallies_records_sampleCaptured :
    let summary := captureFinish ((captureLoop none sampleStreamConfig .en10mb).run
      sampleStreamState (sampleCaptured.map RecordedPacket.toCapturedPacket))
    summary.tcpPackets = 2 ∧ summary.totalPackets =
      UInt32.ofNat (numberedPackets none sampleStreamConfig .en10mb sampleStreamState
        sampleCaptured).length := by
  have tallies := summary_tallies_records none .en10mb
    (show captureInit sampleStreamConfig = some sampleStreamState from rfl) sampleCaptured
  exact ⟨by decide +kernel, tallies.1⟩

end Runs

end MiniSniffer
