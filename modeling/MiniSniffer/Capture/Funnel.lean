import MiniSniffer.Capture.Loop

/-!
Contract: the counters of a capture from raw to displayed packets.

Owns the loop with everything that `pcap_next_ex` may answer and with a parser that may fail, so
that both paths that skip an unreadable packet are there, and the balance of its counters: every
raw packet is a parse failure, filtered out or displayed, and every displayed packet is counted
once by protocol and once by decode status. With the parser of the repository, which never fails,
a pass is that of `Capture.Loop`.

Does not own the fragment counters, which the balance leaves out.
-/

namespace MiniSniffer

open Foundation

/-! ### The loop with failures -/

/-- What `pcap_next_ex` answers while the loop goes on. The end of the source and a stop request
end the list of answers. -/
inductive CaptureEvent where
  | timeout
  | packet (captured : CapturedPacket)
deriving DecidableEq, Repr

/-- `none` is the error return. -/
abbrev PacketParser := List UInt8 → Datalink → Option PacketInfo

/-- The repository's parser, under the configured decode limit. -/
def configuredParser (config : AppConfig) : PacketParser := fun bytes datalink =>
  some (parserParsePacketWithDatalink (payloadDecodeLimit config.payloadDecodeBytes) bytes datalink)

/-- `effective_info`; `none` when a rebuilt datagram cannot be parsed. -/
def effectiveOrFailed (parser : PacketParser) (state : FragmentState) (info : PacketInfo)
    (now : Nat) : FragmentState × Option PacketInfo :=
  if !info.isIpv4Fragment then (state, some info)
  else
    match ipv4FragmentTableProcess state info now with
    | (next, .reassembled packet) => (next, parser packet .raw)
    | (next, _) => (next, some info)

def recordParseFailure (stats : PacketStats) : PacketStats :=
  { stats with parseFailures := stats.parseFailures + 1 }

/-- The pass from the effective packet on. -/
def finishPass (idna : IdnaLookup) (config : AppConfig) (state : CaptureState)
    (fragments : FragmentState) (info effective : PacketInfo) (now : Nat) :
    CaptureState × Option DisplayedPacket :=
  let decoded := decodeCapture config state.flowTable effective now
  let capture := decoded.2
  if !filtersMatch idna config capture.filterContext then
    ({ state with
        fragmentTable := fragments.1
        flowTable := storeFlow decoded.1 capture.slot
        stats := { fragments.2 with packetsFilteredOut := fragments.2.packetsFilteredOut + 1 } },
      none)
  else
    ({ fragmentTable := fragments.1
       flowTable := storeFlow decoded.1 (capture.announcedSlot config)
       stats := statsUpdate fragments.2
         { info with appDecodeStatus := capture.info.appDecodeStatus }
       capturedPackets := state.capturedPackets + 1 },
      some (capture.display config))

/-- One pass of the loop over a parser that may fail; an answer after its end changes nothing. -/
def capturePassWith (idna : IdnaLookup) (config : AppConfig) (parser : PacketParser)
    (datalink : Datalink) (state : CaptureState) (event : CaptureEvent) :
    CaptureState × Option DisplayedPacket :=
  match event with
  | .timeout => (state, none)
  | .packet captured =>
      if captureIsDone config state then (state, none)
      else
        let stats := { state.stats with rawPacketsSeen := state.stats.rawPacketsSeen + 1 }
        match parser captured.bytes datalink with
        | none => ({ state with stats := recordParseFailure stats }, none)
        | some info =>
            match effectiveOrFailed parser (state.fragmentTable, stats) info captured.seconds with
            | (fragments, none) =>
                ({ state with
                    fragmentTable := fragments.1, stats := recordParseFailure fragments.2 }, none)
            | (fragments, some effective) =>
                finishPass idna config state fragments info effective captured.seconds

def captureLoopWith (idna : IdnaLookup) (config : AppConfig) (parser : PacketParser)
    (datalink : Datalink) : Machine CaptureState CaptureEvent (Option DisplayedPacket) where
  step := capturePassWith idna config parser datalink

section Passes

variable {idna : IdnaLookup} {config : AppConfig} {parser : PacketParser} {datalink : Datalink}
variable {state : CaptureState} {fragments : FragmentState} {stats other : PacketStats}
variable {info effective : PacketInfo} {now : Nat}

theorem effectiveOrFailed_configured (config : AppConfig) (fragments : FragmentState)
    (info : PacketInfo) (now : Nat) :
    effectiveOrFailed (configuredParser config) fragments info now =
      ((effectivePacket config fragments info now).1,
        some (effectivePacket config fragments info now).2) := by
  rw [effectiveOrFailed, effectivePacket]
  split
  · rfl
  · rcases ipv4FragmentTableProcess fragments info now with ⟨next, result⟩
    cases result <;> rfl

/-- With the parser of the repository no packet is unreadable, and a pass is the loop's own. -/
theorem capturePassWith_configured (idna : IdnaLookup) (config : AppConfig) (datalink : Datalink)
    (state : CaptureState) (captured : CapturedPacket) :
    capturePassWith idna config (configuredParser config) datalink state (.packet captured) =
      capturePass idna config datalink state captured := by
  rw [capturePassWith, capturePass]
  split
  · rfl
  · simp only [configuredParser]
    rw [effectiveOrFailed_configured]
    rfl

/-! ### Fragments -/

/-- The counters outside fragment reassembly. -/
def withoutFragments (stats : PacketStats) : PacketStats :=
  { stats with
    ipv4FragmentsSeen := 0
    ipv4FragmentsReassembled := 0
    ipv4FragmentsExpired := 0
    ipv4FragmentsMalformed := 0
    ipv4FragmentsDropped := 0 }

theorem expire_withoutFragments (state : FragmentState) (now : Nat) :
    withoutFragments (ipv4FragmentTableExpire state now).2 = withoutFragments state.2 := by
  unfold ipv4FragmentTableExpire
  split
  · rfl
  · have kept : ∀ (current : FragmentState) (place : Nat),
        withoutFragments (expireAt current place).2 = withoutFragments current.2 :=
      fun current place => rfl
    exact sweep_invariant (fun current : FragmentState =>
      withoutFragments current.2 = withoutFragments state.2)
      (fun current place _ _ _ same => (kept current place).trans same) rfl

theorem acceptFragment_withoutFragments (table : IPv4FragmentTable) (stats : PacketStats)
    (index : Nat) (datagram : IPv4FragmentDatagram) (fragment : PacketInfo) (now : Nat) :
    withoutFragments (acceptFragment table stats index datagram fragment now).1.2 =
      withoutFragments stats := by
  unfold acceptFragment
  dsimp only
  split
  · rfl
  split
  · rfl
  split
  · split <;> rfl
  · rfl

/-- Reassembly advances its own counters only. -/
theorem process_withoutFragments (state : FragmentState) (fragment : PacketInfo) (now : Nat) :
    withoutFragments (ipv4FragmentTableProcess state fragment now).1.2 =
      withoutFragments state.2 := by
  unfold ipv4FragmentTableProcess
  split
  · rfl
  dsimp only
  have expired := expire_withoutFragments
    (state.1, { state.2 with ipv4FragmentsSeen := state.2.ipv4FragmentsSeen + 1 }) now
  generalize ipv4FragmentTableExpire
    (state.1, { state.2 with ipv4FragmentsSeen := state.2.ipv4FragmentsSeen + 1 }) now = swept
    at expired ⊢
  have kept : withoutFragments swept.2 = withoutFragments state.2 := expired
  split
  · exact kept
  split
  · exact kept
  split
  · exact kept
  · rw [acceptFragment_withoutFragments]
    exact kept

theorem effectiveOrFailed_withoutFragments (parser : PacketParser) (fragments : FragmentState)
    (info : PacketInfo) (now : Nat) :
    withoutFragments (effectiveOrFailed parser fragments info now).1.2 =
      withoutFragments fragments.2 := by
  have kept := process_withoutFragments fragments info now
  unfold effectiveOrFailed
  split
  · rfl
  · split
    next next packet processed =>
      rw [processed] at kept
      exact kept
    next next other _ processed =>
      rw [processed] at kept
      exact kept

/-! ### The balance -/

/-- Every raw packet is counted once more, modulo `2 ^ 32`, and every displayed one twice more. -/
structure Balanced (decodes : Bool) (pending : UInt32) (stats : PacketStats) : Prop where
  raw_eq : stats.rawPacketsSeen =
    stats.parseFailures + stats.packetsFilteredOut + stats.totalPackets + pending
  protocols_eq : stats.totalPackets = stats.tcpPackets + stats.udpPackets + stats.icmpPackets +
    stats.arpPackets + stats.otherPackets
  statuses_eq : decodes = true → stats.totalPackets = stats.appDecodeNoMatch +
    stats.appDecodeNeedMore + stats.appDecodeMalformed + stats.appDecodeTruncated +
    stats.appDecodeDecoded

theorem balanced_withoutFragments {decodes : Bool} {pending : UInt32} :
    Balanced decodes pending (withoutFragments stats) ↔ Balanced decodes pending stats :=
  ⟨fun balanced => ⟨balanced.raw_eq, balanced.protocols_eq, balanced.statuses_eq⟩,
    fun balanced => ⟨balanced.raw_eq, balanced.protocols_eq, balanced.statuses_eq⟩⟩

/-- The balance reads no counter of reassembly. -/
theorem Balanced.congr {decodes : Bool} {pending : UInt32}
    (balanced : Balanced decodes pending stats)
    (same : withoutFragments other = withoutFragments stats) : Balanced decodes pending other := by
  rw [← balanced_withoutFragments, same, balanced_withoutFragments]
  exact balanced

theorem Balanced.seen {decodes : Bool} (balanced : Balanced decodes 0 stats) :
    Balanced decodes 1 { stats with rawPacketsSeen := stats.rawPacketsSeen + 1 } where
  raw_eq := by
    have raw := balanced.raw_eq
    dsimp only
    rw [raw, UInt32.add_zero]
  protocols_eq := balanced.protocols_eq
  statuses_eq := balanced.statuses_eq

theorem Balanced.failed {decodes : Bool} (balanced : Balanced decodes 1 stats) :
    Balanced decodes 0 (recordParseFailure stats) where
  raw_eq := by
    have raw := balanced.raw_eq
    dsimp only [recordParseFailure]
    grind
  protocols_eq := balanced.protocols_eq
  statuses_eq := balanced.statuses_eq

theorem Balanced.filteredOut {decodes : Bool} (balanced : Balanced decodes 1 stats) :
    Balanced decodes 0 { stats with packetsFilteredOut := stats.packetsFilteredOut + 1 } where
  raw_eq := by
    have raw := balanced.raw_eq
    dsimp only
    grind
  protocols_eq := balanced.protocols_eq
  statuses_eq := balanced.statuses_eq

/-- A displayed packet has one protocol and, once decoding ran, one status. -/
theorem Balanced.displayed {decodes : Bool} (balanced : Balanced decodes 1 stats)
    (ran : decodes = true → info.appDecodeStatus ≠ .notRun) :
    Balanced decodes 0 (statsUpdate stats info) where
  raw_eq := by
    have raw := balanced.raw_eq
    unfold statsUpdate countDecodeStatus countProtocol
    cases info.protocol <;> cases info.appDecodeStatus <;> dsimp only <;> grind
  protocols_eq := by
    have protocols := balanced.protocols_eq
    unfold statsUpdate countDecodeStatus countProtocol
    cases info.protocol <;> cases info.appDecodeStatus <;> dsimp only <;> grind
  statuses_eq := by
    intro decoding
    have statuses := balanced.statuses_eq decoding
    have status := ran decoding
    unfold statsUpdate countDecodeStatus countProtocol
    cases same : info.appDecodeStatus with
    | notRun => exact absurd same status
    | noMatch | needMore | malformed | truncated | decoded =>
        cases info.protocol <;> dsimp only <;> grind

/-! ### Runs -/

theorem appDecodeStatusFromResult_ran (result : AppDecodeResult) (packet : PacketInfo)
    (app : AppInfo) : appDecodeStatusFromResult result packet app ≠ .notRun := by
  unfold appDecodeStatusFromResult
  split_ifs <;> simp

/-- With decoding enabled, every packet that goes through the loop has a status. -/
theorem decodeCapture_ran (decoding : config.decodeApp = true) (flowTable : Option FlowTable)
    (packet : PacketInfo) (now : Nat) :
    (decodeCapture config flowTable packet now).2.info.appDecodeStatus ≠ .notRun := by
  rw [decodeCapture]
  simp only [decodedInfo, if_pos decoding]
  exact appDecodeStatusFromResult_ran _ _ _

/-- What holds of the counters between two passes. -/
structure Funnel (config : AppConfig) (state : CaptureState) : Prop where
  balanced : Balanced config.decodeApp 0 state.stats
  displayed_eq : state.stats.totalPackets = state.capturedPackets
  limited : config.maxPackets ≠ 0 → state.capturedPackets ≤ config.maxPackets

theorem captureInit_funnel {initial : CaptureState} (started : captureInit config = some initial) :
    Funnel config initial := by
  have zeroed : initial.stats = {} ∧ initial.capturedPackets = 0 := by
    unfold captureInit at started
    split at started
    · contradiction
    · split at started
      · obtain ⟨table, -, rfl⟩ := Option.map_eq_some_iff.mp started
        exact ⟨rfl, rfl⟩
      · obtain rfl := Option.some.inj started
        exact ⟨rfl, rfl⟩
  exact
    { balanced := by
        rw [zeroed.1]
        exact ⟨rfl, rfl, fun _ => rfl⟩
      displayed_eq := by rw [zeroed.1, zeroed.2]
      limited := fun _ => by
        rw [zeroed.2]
        exact UInt32.le_iff_toNat_le.mpr (Nat.zero_le _) }

theorem statsUpdate_totalPackets (stats : PacketStats) (info : PacketInfo) :
    (statsUpdate stats info).totalPackets = stats.totalPackets + 1 := by
  unfold statsUpdate countDecodeStatus countProtocol
  cases info.protocol <;> cases info.appDecodeStatus <;> rfl

theorem finishPass_funnel (funnel : Funnel config state)
    (running : captureIsDone config state = false)
    (seen : Balanced config.decodeApp 1 fragments.2)
    (displayed : fragments.2.totalPackets = state.stats.totalPackets) :
    Funnel config (finishPass idna config state fragments info effective now).1 := by
  unfold finishPass
  dsimp only
  split
  · exact
      { balanced := seen.filteredOut
        displayed_eq := displayed.trans funnel.displayed_eq
        limited := funnel.limited }
  · exact
      { balanced := seen.displayed fun decoding => decodeCapture_ran decoding _ _ _
        displayed_eq := by
          rw [statsUpdate_totalPackets, displayed, funnel.displayed_eq]
        limited := by
          intro limit
          have below : state.capturedPackets < config.maxPackets := by
            simpa [captureIsDone, limit] using running
          have small : config.maxPackets.toNat < 2 ^ 32 := config.maxPackets.toNat_lt
          have room : state.capturedPackets.toNat < config.maxPackets.toNat :=
            UInt32.lt_iff_toNat_lt.mp below
          rw [UInt32.le_iff_toNat_le, UInt32.toNat_add]
          change (state.capturedPackets.toNat + 1) % 2 ^ 32 ≤ config.maxPackets.toNat
          rw [Nat.mod_eq_of_lt (by omega)]
          exact room }

/-- Every answer of the source takes exactly one way through the loop. -/
theorem Funnel.next (funnel : Funnel config state) (idna : IdnaLookup) (parser : PacketParser)
    (datalink : Datalink) (event : CaptureEvent) :
    Funnel config ((captureLoopWith idna config parser datalink).next state event) := by
  show Funnel config (capturePassWith idna config parser datalink state event).1
  cases event with
  | timeout => exact funnel
  | packet captured =>
      rw [capturePassWith]
      cases done : captureIsDone config state with
      | true => exact funnel
      | false =>
          rw [if_neg (by simp)]
          have seen := funnel.balanced.seen
          dsimp only
          split
          · exact { funnel with balanced := seen.failed }
          next info _ =>
            have kept := effectiveOrFailed_withoutFragments parser (state.fragmentTable,
              { state.stats with rawPacketsSeen := state.stats.rawPacketsSeen + 1 }) info
              captured.seconds
            split
            next fragments effective =>
              rw [effective] at kept
              have displayed := congrArg PacketStats.totalPackets kept
              exact
                { balanced := (seen.congr kept).failed
                  displayed_eq := displayed.trans funnel.displayed_eq
                  limited := funnel.limited }
            next fragments effectiveInfo effective =>
              rw [effective] at kept
              have displayed := congrArg PacketStats.totalPackets kept
              exact finishPass_funnel funnel done (seen.congr kept) displayed

/-- The funnel adds up in every state of every capture, modulo `2 ^ 32`: raw packets are parse
failures, filtered out or displayed, displayed packets add up by protocol and, with decoding
enabled, by status, and a limit is never exceeded. -/
theorem capture_funnel_balanced {initial : CaptureState} (idna : IdnaLookup)
    (parser : PacketParser) (datalink : Datalink) (started : captureInit config = some initial)
    (events : List CaptureEvent) :
    let stats := ((captureLoopWith idna config parser datalink).run initial events).stats
    stats.rawPacketsSeen =
        stats.parseFailures + stats.packetsFilteredOut + stats.totalPackets ∧
      stats.totalPackets = stats.tcpPackets + stats.udpPackets + stats.icmpPackets +
        stats.arpPackets + stats.otherPackets ∧
      (config.decodeApp = true → stats.totalPackets = stats.appDecodeNoMatch +
        stats.appDecodeNeedMore + stats.appDecodeMalformed + stats.appDecodeTruncated +
        stats.appDecodeDecoded) ∧
      (config.maxPackets ≠ 0 → stats.totalPackets ≤ config.maxPackets) := by
  have funnel : Funnel config ((captureLoopWith idna config parser datalink).run initial events) :=
    Machine.run_preserves (fun _ event funnel => funnel.next idna parser datalink event)
      (captureInit_funnel started) events
  intro stats
  refine ⟨?_, funnel.balanced.protocols_eq, funnel.balanced.statuses_eq, ?_⟩
  · have raw := funnel.balanced.raw_eq
    rwa [UInt32.add_zero] at raw
  · intro limit
    have limited := funnel.limited limit
    rwa [← funnel.displayed_eq] at limited

end Passes

def sampleFunnelConfig : AppConfig :=
  { decodeApp := true, maxPackets := 2, filterProtocolEnabled := true, filterProtocol := .tcp }

def sampleFunnelState : CaptureState where
  fragmentTable := { maxDatagrams := 64, maxBytes := 1048576, timeoutSeconds := 30 }

/-- An Ethernet frame with an IPv4 packet between two hosts. -/
def sampleFunnelFrame (number : UInt8) (segment : List UInt8) : CaptureEvent :=
  .packet
    { seconds := 1
      bytes := List.replicate 12 0 ++ [8, 0, 0x45, 0, 0, 20 + UInt8.ofNat segment.length, 0, 0, 0,
        0, 64, number, 0, 0, 10, 0, 0, 1, 10, 0, 0, 2] ++ segment }

/-- A segment from port 4000 to port 80, a datagram to port 53 and a frame without a whole link
header. -/
def sampleAnswers : List CaptureEvent :=
  [.timeout,
    sampleFunnelFrame 6 ([0x0f, 0xa0, 0, 80, 0, 0, 0, 1, 0, 0, 0, 0, 0x50, 0x18, 0, 0, 0, 0, 0,
      0] ++ ascii "GET / HTTP/1.1\r\n\r\n"),
    sampleFunnelFrame 17 [0x0f, 0xa0, 0, 53, 0, 9, 0, 0, 7],
    .packet { seconds := 2, bytes := [0] }]

/-- With the parser of the repository one of three packets is displayed, as TCP and decoded. -/
theorem capture_funnel_balanced_sampleAnswers :
    let stats := ((captureLoopWith none sampleFunnelConfig (configuredParser sampleFunnelConfig)
      .en10mb).run sampleFunnelState sampleAnswers).stats
    (stats.rawPacketsSeen = 3 ∧ stats.packetsFilteredOut = 2 ∧ stats.tcpPackets = 1 ∧
        stats.appDecodeDecoded = 1) ∧
      stats.rawPacketsSeen =
        stats.parseFailures + stats.packetsFilteredOut + stats.totalPackets ∧
      stats.totalPackets = stats.tcpPackets + stats.udpPackets + stats.icmpPackets +
        stats.arpPackets + stats.otherPackets ∧
      stats.totalPackets = stats.appDecodeNoMatch + stats.appDecodeNeedMore +
        stats.appDecodeMalformed + stats.appDecodeTruncated + stats.appDecodeDecoded ∧
      stats.totalPackets ≤ sampleFunnelConfig.maxPackets := by
  obtain ⟨raw, protocols, statuses, limited⟩ := capture_funnel_balanced none
    (configuredParser sampleFunnelConfig) .en10mb
    (show captureInit sampleFunnelConfig = some sampleFunnelState from rfl) sampleAnswers
  exact ⟨by decide +kernel, raw, protocols, statuses rfl, limited (by decide)⟩

end MiniSniffer
