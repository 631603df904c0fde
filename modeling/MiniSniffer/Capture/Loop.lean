import MiniSniffer.Capture.StreamDecode
import MiniSniffer.Filters
import MiniSniffer.Flow.Lookup
import MiniSniffer.Fragment.Table
import MiniSniffer.Parser.Parse

/-!
Contract: the capture loop (`src/capture.c`, with the counters of `src/stats.c`).

Owns one pass of `capture_start` over a captured packet: parsing, fragment reassembly, the packet's
flow, packet-local decoding, the filters, and what a packet that passes them is displayed with.
Parsing is total, so no pass counts a parse failure.

Does not own the capture source, the kernel pre-filter or the text of the output.
-/

namespace MiniSniffer

open Foundation

/-! ### State -/

/-- A packet that `pcap_next_ex` delivered, with the seconds of its timestamp. -/
structure CapturedPacket where
  bytes : List UInt8
  seconds : Nat
deriving DecidableEq, Repr

/-- There is a flow table only with `reassemble`. -/
structure CaptureState where
  fragmentTable : IPv4FragmentTable
  flowTable : Option FlowTable := none
  stats : PacketStats := {}
  capturedPackets : UInt32 := 0
deriving DecidableEq, Repr

inductive AppSource where
  | none
  | flow
  | packet
deriving DecidableEq, Repr

/-- What the output of one displayed packet is written from. -/
structure DisplayedPacket where
  info : PacketInfo
  app : Option AppInfo
  appSource : AppSource
  flowEvent : Option FlowInfo
deriving DecidableEq, Repr

/-- `parser_set_payload_decode_limit` -/
def payloadDecodeLimit (limit : Nat) : Nat :=
  if limit = 0 || limit > minisnifferMaxPayloadDecodeBytes then minisnifferDefaultPayloadDecodeBytes
  else limit

def captureInit (config : AppConfig) : Option CaptureState :=
  match ipv4FragmentTableInit config.ipv4FragmentMaxDatagrams config.ipv4FragmentMaxBytes
      config.ipv4FragmentTimeoutSeconds with
  | none => none
  | some fragmentTable =>
      if config.reassemble then
        (flowTableInit config.maxFlows config.streamBufferBytes config.flowTimeoutSeconds).map
          fun flowTable => { fragmentTable := fragmentTable, flowTable := some flowTable }
      else some { fragmentTable := fragmentTable }

/-! ### Counters -/

def countProtocol (stats : PacketStats) (protocol : Protocol) : PacketStats :=
  match protocol with
  | .tcp => { stats with tcpPackets := stats.tcpPackets + 1 }
  | .udp => { stats with udpPackets := stats.udpPackets + 1 }
  | .icmp => { stats with icmpPackets := stats.icmpPackets + 1 }
  | .arp => { stats with arpPackets := stats.arpPackets + 1 }
  | .other => { stats with otherPackets := stats.otherPackets + 1 }

def countDecodeStatus (stats : PacketStats) (status : AppDecodeStatus) : PacketStats :=
  match status with
  | .notRun => stats
  | .noMatch => { stats with appDecodeNoMatch := stats.appDecodeNoMatch + 1 }
  | .needMore => { stats with appDecodeNeedMore := stats.appDecodeNeedMore + 1 }
  | .malformed => { stats with appDecodeMalformed := stats.appDecodeMalformed + 1 }
  | .truncated => { stats with appDecodeTruncated := stats.appDecodeTruncated + 1 }
  | .decoded => { stats with appDecodeDecoded := stats.appDecodeDecoded + 1 }

def statsUpdate (stats : PacketStats) (info : PacketInfo) : PacketStats :=
  let counted :=
    { stats with
      totalPackets := stats.totalPackets + 1
      totalBytes := stats.totalBytes + info.size }
  countDecodeStatus (countProtocol counted info.protocol) info.appDecodeStatus

/-! ### Fragments -/

/-- `effective_info`: the rebuilt datagram that a fragment completes, or else the packet itself. -/
def effectivePacket (config : AppConfig) (state : FragmentState) (info : PacketInfo)
    (now : Nat) : FragmentState × PacketInfo :=
  if !info.isIpv4Fragment then (state, info)
  else
    match ipv4FragmentTableProcess state info now with
    | (next, .reassembled packet) =>
        (next, parserParsePacketWithDatalink (payloadDecodeLimit config.payloadDecodeBytes) packet
          .raw)
    | (next, _) => (next, info)

/-! ### Flows -/

/-- The packet's flow and what the loop has learnt from it. -/
structure FlowLocals where
  flow : FlowInfo
  flowApp : Option AppInfo := none
  filterFlowApp : Option AppInfo := none
  wasClassified : Bool := false
  decodeStatus : AppDecodeStatus := .notRun
  appSource : AppSource := .none
deriving DecidableEq, Repr

/-- A flow that was classified before is still fed, so that its closing flags are tracked. -/
def feedFlow (config : AppConfig) (flow : FlowInfo) (direction : FlowDirection)
    (packet : PacketInfo) (now : Nat) : FlowLocals :=
  let updated := flowUpdatePacket flow packet now direction
  if updated.appClassified then
    { flow :=
        if config.decodeApp then (flowDecodeStreamApp updated direction packet).1 else updated
      flowApp := some updated.app
      filterFlowApp := some updated.app
      wasClassified := true
      decodeStatus := updated.appDecodeStatus
      appSource := .flow }
  else if config.decodeApp then
    match flowDecodeStreamApp updated direction packet with
    | (fed, true, status) =>
        { flow := fed, flowApp := some fed.app, decodeStatus := status, appSource := .flow }
    | (fed, false, status) => { flow := fed, decodeStatus := status }
  else { flow := updated }

/-- The table after the lookup, and the packet's slot in it. -/
def trackFlow (config : AppConfig) (flowTable : Option FlowTable) (packet : PacketInfo)
    (now : Nat) : Option FlowTable × Option (Nat × FlowLocals) :=
  match flowTable with
  | none => (none, none)
  | some table =>
      match flowTableGetOrCreate table packet now with
      | (looked, none) => (some looked, none)
      | (looked, some (index, direction)) =>
          (some looked, (looked.flows[index]?).map fun flow =>
            (index, feedFlow config flow direction packet now))

/-- Writes the packet's flow back to its slot. -/
def storeFlow (flowTable : Option FlowTable) (slot : Option (Nat × FlowLocals)) :
    Option FlowTable :=
  match flowTable, slot with
  | some table, some (index, locals) =>
      some { table with flows := table.flows.set index locals.flow }
  | _, _ => flowTable

/-! ### Packet-local decoding -/

/-- The metadata of a packet that decodes on its own. -/
def packetApp (packet : PacketInfo) : Option AppInfo :=
  let decoded := appDecodePacket packet
  if decoded.1 = .ok && decoded.2.protocol ≠ .unknown then some decoded.2 else none

/-- Packet-local metadata classifies a flow that has none. -/
def classifyLocals (app : Option AppInfo) (locals : FlowLocals) : FlowLocals :=
  match app with
  | none => locals
  | some app =>
      if locals.flow.appClassified then { locals with appSource := .packet }
      else
        { locals with
          flow := classifyFlow locals.flow app, flowApp := some app, appSource := .packet }

/-- The packet with the outcome of packet-local decoding; a status that was not run is the
stream's. -/
def decodedInfo (config : AppConfig) (packet : PacketInfo) (streamStatus : AppDecodeStatus) :
    PacketInfo :=
  if config.decodeApp then
    let decoded := appDecodePacket packet
    { packet with
      app := decoded.2
      appDecodeStatus := appDecodeStatusFromResult decoded.1 packet decoded.2 }
  else { packet with appDecodeStatus := streamStatus }

/-- A captured packet once flow and packet-local decoding are done. -/
structure DecodedCapture where
  info : PacketInfo
  packetApp : Option AppInfo
  slot : Option (Nat × FlowLocals)
deriving DecidableEq, Repr

def streamStatus (slot : Option (Nat × FlowLocals)) : AppDecodeStatus :=
  match slot with
  | none => .notRun
  | some (_, locals) => locals.decodeStatus

def decodeCapture (config : AppConfig) (flowTable : Option FlowTable) (packet : PacketInfo)
    (now : Nat) : Option FlowTable × DecodedCapture :=
  let tracked := trackFlow config flowTable packet now
  let app := if config.decodeApp then packetApp packet else none
  (tracked.1,
    { info := decodedInfo config packet (streamStatus tracked.2)
      packetApp := app
      slot := tracked.2.map fun slot => (slot.1, classifyLocals app slot.2) })

namespace DecodedCapture

/-- The flow's metadata takes part in filtering only if an earlier packet classified the flow. -/
def filterContext (capture : DecodedCapture) : FilterContext where
  packet := capture.info
  packetApp := capture.packetApp
  flowApp :=
    match capture.slot with
    | none => none
    | some (_, locals) => locals.filterFlowApp
  flowIsClassified :=
    match capture.slot with
    | none => false
    | some (_, locals) => locals.wasClassified

/-- The flow is announced once, in text output. -/
def announcesFlow (config : AppConfig) (capture : DecodedCapture) : Bool :=
  match capture.slot with
  | none => false
  | some (_, locals) =>
      !config.jsonOutput && locals.flow.appClassified && !locals.flow.appEventPrinted

/-- The slot with the announcement noted. -/
def announcedSlot (config : AppConfig) (capture : DecodedCapture) : Option (Nat × FlowLocals) :=
  if capture.announcesFlow config then
    capture.slot.map fun slot =>
      (slot.1, { slot.2 with flow := { slot.2.flow with appEventPrinted := true } })
  else capture.slot

def display (config : AppConfig) (capture : DecodedCapture) : DisplayedPacket where
  info := capture.info
  app :=
    match capture.packetApp, capture.slot with
    | some app, _ => some app
    | none, some (_, locals) => locals.flowApp
    | none, none => none
  appSource :=
    match capture.packetApp, capture.slot with
    | some _, _ => .packet
    | none, some (_, locals) => locals.appSource
    | none, none => .none
  flowEvent :=
    if capture.announcesFlow config then capture.slot.map fun slot => slot.2.flow else none

end DecodedCapture

/-! ### The loop -/

/-- `max_packets` displayed packets end the loop; zero means no limit. -/
def captureIsDone (config : AppConfig) (state : CaptureState) : Bool :=
  config.maxPackets ≠ 0 && state.capturedPackets ≥ config.maxPackets

/-- One pass of the loop; a packet after its end changes nothing. -/
def capturePass (idna : IdnaLookup) (config : AppConfig) (datalink : Datalink)
    (state : CaptureState) (captured : CapturedPacket) :
    CaptureState × Option DisplayedPacket :=
  if captureIsDone config state then (state, none)
  else
    let stats := { state.stats with rawPacketsSeen := state.stats.rawPacketsSeen + 1 }
    let info :=
      parserParsePacketWithDatalink (payloadDecodeLimit config.payloadDecodeBytes) captured.bytes
        datalink
    let effective := effectivePacket config (state.fragmentTable, stats) info captured.seconds
    let decoded := decodeCapture config state.flowTable effective.2 captured.seconds
    let capture := decoded.2
    if !filtersMatch idna config capture.filterContext then
      ({ state with
          fragmentTable := effective.1.1
          flowTable := storeFlow decoded.1 capture.slot
          stats :=
            { effective.1.2 with packetsFilteredOut := effective.1.2.packetsFilteredOut + 1 } },
        none)
    else
      -- the counters are the wire packet's, with the status of what was decoded
      ({ fragmentTable := effective.1.1
         flowTable := storeFlow decoded.1 (capture.announcedSlot config)
         stats :=
          statsUpdate effective.1.2 { info with appDecodeStatus := capture.info.appDecodeStatus }
         capturedPackets := state.capturedPackets + 1 },
        some (capture.display config))

def captureLoop (idna : IdnaLookup) (config : AppConfig) (datalink : Datalink) :
    Machine CaptureState CapturedPacket (Option DisplayedPacket) where
  step := capturePass idna config datalink

/-! ### UDP -/

section Udp

variable {config : AppConfig} {packet : PacketInfo} {now : Nat}

theorem trackFlow_untracked (config : AppConfig) (flowTable : Option FlowTable) (now : Nat)
    (untracked : trackedAs packet = none) :
    trackFlow config flowTable packet now = (flowTable, none) := by
  cases flowTable with
  | none => rfl
  | some table => rw [trackFlow, flowTableGetOrCreate_untracked untracked]

/-- The context of a packet that has no flow. -/
theorem filterContext_untracked (config : AppConfig) (flowTable : Option FlowTable)
    (untracked : trackedAs packet = none) (now : Nat) :
    (decodeCapture config flowTable packet now).2.filterContext =
      { packet := decodedInfo config packet .notRun
        packetApp := if config.decodeApp then packetApp packet else none } := by
  rw [decodeCapture, trackFlow_untracked config flowTable now untracked]
  rfl

/-- Without a flow, reassembly refuses every packet once an application filter is enabled, and
changes nothing else. -/
theorem filtersMatch_reassemble (idna : IdnaLookup) (config : AppConfig) (info : PacketInfo)
    (app : Option AppInfo) :
    filtersMatch idna { config with reassemble := true } { packet := info, packetApp := app } =
      (filtersMatch idna { config with reassemble := false } { packet := info, packetApp := app } &&
        !appFiltersEnabled config) := by
  have reassembled : appFiltersMatch idna { config with reassemble := true }
      { packet := info, packetApp := app } = !appFiltersEnabled config := by
    show (if !appFiltersEnabled config then true else if true then (false && _) else _) = _
    cases appFiltersEnabled config <;> rfl
  have packetLocal : appFiltersEnabled config = false →
      appFiltersMatch idna { config with reassemble := false }
        { packet := info, packetApp := app } = true := by
    intro disabled
    show (if !appFiltersEnabled config then true else _) = _
    rw [disabled]
    rfl
  rw [filtersMatch, filtersMatch, reassembled]
  cases enabled : appFiltersEnabled config with
  | true => simp
  | false =>
      rw [packetLocal enabled]
      simp only [Bool.not_false, Bool.and_true]
      rfl

/-- `--reassemble` leaves the answer on a UDP packet as it is while no application filter is
enabled, and refuses the packet otherwise. -/
theorem reassemble_on_udp (idna : IdnaLookup) (config : AppConfig) (table : FlowTable)
    (isUdp : packet.protocol = .udp) (now : Nat) :
    filtersMatch idna { config with reassemble := true }
        (decodeCapture { config with reassemble := true } (some table) packet now).2.filterContext =
      (filtersMatch idna { config with reassemble := false }
          (decodeCapture { config with reassemble := false } none packet now).2.filterContext &&
        !appFiltersEnabled config) := by
  have untracked : trackedAs packet = none := by
    rw [trackedAs, isUdp]
    rfl
  rw [filterContext_untracked _ _ untracked, filterContext_untracked _ _ untracked]
  exact filtersMatch_reassemble idna config _ _

/-- A DNS query over UDP. -/
def sampleDnsQuery : PacketInfo where
  srcPort := 5000
  dstPort := 53
  protocol := .udp
  hasPorts := true
  hasPayload := true
  payload := some
    { offset := 42
      bytes := [0, 1, 1, 0, 0, 1, 0, 0, 0, 0, 0, 0, 1, 97, 0, 0, 1, 0, 1] }
  payloadDecodeLength := 19

theorem reassemble_on_udp_sampleDnsQuery :
    filtersMatch none { decodeApp := true, reassemble := true, filterDnsTypeEnabled := true }
        (decodeCapture { decodeApp := true, reassemble := true, filterDnsTypeEnabled := true }
          (some { maxFlows := 4, streamBufferBytes := 16, timeoutSeconds := 60 }) sampleDnsQuery
          1).2.filterContext =
      (filtersMatch none { decodeApp := true, reassemble := false, filterDnsTypeEnabled := true }
          (decodeCapture { decodeApp := true, reassemble := false, filterDnsTypeEnabled := true }
            none sampleDnsQuery 1).2.filterContext &&
        !appFiltersEnabled { decodeApp := true, filterDnsTypeEnabled := true }) :=
  reassemble_on_udp none { decodeApp := true, filterDnsTypeEnabled := true } _ rfl 1

/-- `--app dns` shows the query without `--reassemble` and hides it with it. -/
theorem reassemble_hides_udp :
    ¬ ∀ (config : AppConfig) (table : FlowTable) (packet : PacketInfo) (now : Nat),
      config.decodeApp = true → packet.protocol = .udp →
      filtersMatch none { config with reassemble := true }
          (decodeCapture { config with reassemble := true } (some table) packet
            now).2.filterContext =
        filtersMatch none { config with reassemble := false }
          (decodeCapture { config with reassemble := false } none packet now).2.filterContext := by
  intro always
  have same := always
    { decodeApp := true, filterAppEnabled := true, filterAppProtocol := .dns }
    { maxFlows := 4, streamBufferBytes := 16, timeoutSeconds := 60 } sampleDnsQuery 1 rfl rfl
  exact absurd same (by decide +kernel)

end Udp

end MiniSniffer
