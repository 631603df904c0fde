import MiniSniffer.Capture.Operations
import MiniSniffer.Capture.Prefilter
import MiniSniffer.Capture.StreamStatus

/-!
Contract: what a capture observes, whatever it shows of it.

Owns the observer: the capture loop without filters, output and packet limit, which reassembles,
tracks flows and decodes. Every capture displays what its filters select of the observer's view, up
to its limit, and ends with the observer's tables but for which flows were announced.

Does not own the filters, or what is announced: see `Filters` and `Capture.Announcements`.
-/

namespace MiniSniffer

open Foundation

/-! ### The observer -/

structure ObserverState where
  fragmentTable : IPv4FragmentTable
  flowTable : Option FlowTable := none
deriving DecidableEq, Repr

/-- A pass that only looks. -/
def observePass (config : AppConfig) (datalink : Datalink) (state : ObserverState)
    (captured : CapturedPacket) : ObserverState × DecodedCapture :=
  let info :=
    parserParsePacketWithDatalink (payloadDecodeLimit config.payloadDecodeBytes) captured.bytes
      datalink
  let effective := effectivePacket config (state.fragmentTable, {}) info captured.seconds
  let decoded := decodeCapture config state.flowTable effective.2 captured.seconds
  ({ fragmentTable := effective.1.1, flowTable := storeFlow decoded.1 decoded.2.slot }, decoded.2)

def observer (config : AppConfig) (datalink : Datalink) :
    Machine ObserverState CapturedPacket DecodedCapture where
  step := observePass config datalink

/-- The options that reassembly, flow tracking and decoding read. -/
structure SameTracking (first second : AppConfig) : Prop where
  decodeApp_eq : first.decodeApp = second.decodeApp
  reassemble_eq : first.reassemble = second.reassemble
  payloadDecodeBytes_eq : first.payloadDecodeBytes = second.payloadDecodeBytes
  maxFlows_eq : first.maxFlows = second.maxFlows
  streamBufferBytes_eq : first.streamBufferBytes = second.streamBufferBytes
  flowTimeoutSeconds_eq : first.flowTimeoutSeconds = second.flowTimeoutSeconds
  fragmentMaxDatagrams_eq : first.ipv4FragmentMaxDatagrams = second.ipv4FragmentMaxDatagrams
  fragmentMaxBytes_eq : first.ipv4FragmentMaxBytes = second.ipv4FragmentMaxBytes
  fragmentTimeoutSeconds_eq :
    first.ipv4FragmentTimeoutSeconds = second.ipv4FragmentTimeoutSeconds

/-! ### Announcements aside -/

def FlowInfo.unannounced (flow : FlowInfo) : FlowInfo := { flow with appEventPrinted := false }

def FlowTable.unannounced (table : FlowTable) : FlowTable :=
  { table with flows := table.flows.map FlowInfo.unannounced }

def FlowLocals.unannounced (locals : FlowLocals) : FlowLocals :=
  { locals with flow := locals.flow.unannounced }

def DecodedCapture.unannounced (capture : DecodedCapture) : DecodedCapture :=
  { capture with slot := capture.slot.map fun slot => (slot.1, slot.2.unannounced) }

section Table

variable (table : FlowTable) (flow : FlowInfo) (direction : FlowDirection) (packet : PacketInfo)
variable (now : Nat)

@[simp] theorem unannounced_flows :
    table.unannounced.flows = table.flows.map FlowInfo.unannounced := rfl

theorem removeFlowAt_unannounced (index : Nat) :
    removeFlowAt table.unannounced index = (removeFlowAt table index).unannounced := by
  unfold removeFlowAt
  rw [unannounced_flows, List.getElem?_map]
  cases table.flows[index]? with
  | none => rfl
  | some flow =>
      simp only [Option.map_some, FlowTable.unannounced, List.eraseIdx_map]
      rfl

theorem evictIdleAt_unannounced (index : Nat) :
    evictIdleAt table.unannounced index = (evictIdleAt table index).unannounced :=
  removeFlowAt_unannounced { table with flowsEvictedIdle := table.flowsEvictedIdle + 1 } index

theorem evictClosedAt_unannounced (index : Nat) :
    evictClosedAt table.unannounced index = (evictClosedAt table index).unannounced := by
  unfold evictClosedAt
  rw [unannounced_flows, List.getElem?_map]
  cases table.flows[index]? with
  | none => rfl
  | some flow =>
      have same : flowIsReset flow.unannounced = flowIsReset flow := rfl
      simp only [Option.map_some, same]
      split
      · exact removeFlowAt_unannounced { table with flowsClosedRst := table.flowsClosedRst + 1 }
          index
      · exact removeFlowAt_unannounced { table with flowsClosedFin := table.flowsClosedFin + 1 }
          index

theorem flowTableEvictIdle_unannounced :
    flowTableEvictIdle table.unannounced now = (flowTableEvictIdle table now).unannounced := by
  unfold flowTableEvictIdle
  split
  next never =>
    have same : table.timeoutSeconds = 0 := never
    rw [if_pos same]
  next sometimes =>
    have same : ¬ table.timeoutSeconds = 0 := sometimes
    rw [if_neg same]
    exact sweep_image unannounced_flows (fun _ => rfl) evictIdleAt_unannounced table

theorem flowTableEvictClosed_unannounced :
    flowTableEvictClosed table.unannounced = (flowTableEvictClosed table).unannounced :=
  sweep_image unannounced_flows (fun _ => rfl) evictClosedAt_unannounced table

theorem oldestIndex_unannounced (flows : List FlowInfo) :
    oldestIndex (flows.map FlowInfo.unannounced) = oldestIndex flows := by
  unfold oldestIndex
  rw [List.length_map]
  congr 1
  funext oldest index
  rw [List.getElem?_map, List.getElem?_map]
  cases flows[index]? <;> cases flows[oldest]? <;> rfl

theorem makeRoomForFlow_unannounced :
    makeRoomForFlow table.unannounced = (makeRoomForFlow table).unannounced := by
  have full : table.unannounced.flows.length = table.flows.length := List.length_map _
  have room : table.unannounced.maxFlows = table.maxFlows := rfl
  have oldest : evictOldestFlow table.unannounced = (evictOldestFlow table).unannounced := by
    unfold evictOldestFlow
    rw [full, unannounced_flows, oldestIndex_unannounced]
    split
    · rfl
    · exact removeFlowAt_unannounced
        { table with flowsEvictedCapacity := table.flowsEvictedCapacity + 1 } _
  unfold makeRoomForFlow
  rw [full, room, oldest]
  split <;> rfl

theorem position_unannounced (flows : List FlowInfo) (key : FlowKey) :
    position FlowInfo.key (flows.map FlowInfo.unannounced) key =
      position FlowInfo.key flows key := by
  rw [position, position, List.findIdx?_map]
  rfl

theorem flowTableGetOrCreate_unannounced :
    flowTableGetOrCreate table.unannounced packet now =
      ((flowTableGetOrCreate table packet now).1.unannounced,
        (flowTableGetOrCreate table packet now).2) := by
  unfold flowTableGetOrCreate
  split
  · rfl
  · split
    · rfl
    next key direction _ =>
      have stale : evictStaleFlows table.unannounced now =
          (evictStaleFlows table now).unannounced := by
        rw [evictStaleFlows, flowTableEvictIdle_unannounced, flowTableEvictClosed_unannounced]
        rfl
      simp only [stale, unannounced_flows, position_unannounced, makeRoomForFlow_unannounced,
        List.length_map]
      generalize makeRoomForFlow (evictStaleFlows table now) = roomy
      have room : roomy.unannounced.maxFlows = roomy.maxFlows := rfl
      rw [room]
      split
      · rfl
      · split
        · rfl
        · simp only [createFlow, FlowTable.unannounced, List.map_append]
          rfl

end Table

/-! ### Decoding -/

section Decoding

variable (config : AppConfig) (flow : FlowInfo) (direction : FlowDirection) (packet : PacketInfo)
variable (now : Nat)

theorem setTcp_unannounced (tcp : TcpReassemblyDirection) :
    flow.unannounced.setTcp direction tcp = (flow.setTcp direction tcp).unannounced := by
  cases direction <;> rfl

theorem tcp_unannounced : flow.unannounced.tcp direction = flow.tcp direction := by
  cases direction <;> rfl

theorem flowUpdatePacket_unannounced :
    flowUpdatePacket flow.unannounced packet now direction =
      (flowUpdatePacket flow packet now direction).unannounced := by
  cases direction <;> rfl

theorem classifyFlow_unannounced (app : AppInfo) :
    classifyFlow flow.unannounced app = (classifyFlow flow app).unannounced := rfl

theorem flowPrepareReassemblyDirection_unannounced :
    flowPrepareReassemblyDirection flow.unannounced direction =
      ((flowPrepareReassemblyDirection flow direction).1.unannounced,
        (flowPrepareReassemblyDirection flow direction).2) := by
  have sized : flow.unannounced.streamBufferBytes = flow.streamBufferBytes := rfl
  unfold flowPrepareReassemblyDirection
  rw [sized, tcp_unannounced]
  split
  · rfl
  · split
    · rfl
    · split <;> rw [setTcp_unannounced]

theorem feedStream_unannounced :
    feedStream flow.unannounced direction packet =
      ((feedStream flow direction packet).1.unannounced,
        (feedStream flow direction packet).2) := by
  unfold feedStream
  rw [flowPrepareReassemblyDirection_unannounced]
  rcases flowPrepareReassemblyDirection flow direction with ⟨prepared, _ | _⟩
  · rfl
  · simp only [tcp_unannounced, setTcp_unannounced, classifyFlow_unannounced]
    split_ifs <;> rfl

theorem flowDecodeStreamApp_unannounced :
    flowDecodeStreamApp flow.unannounced direction packet =
      ((flowDecodeStreamApp flow direction packet).1.unannounced,
        (flowDecodeStreamApp flow direction packet).2) := by
  have classified : flow.unannounced.appClassified = flow.appClassified := rfl
  unfold flowDecodeStreamApp
  rw [classified, tcp_unannounced, setTcp_unannounced, feedStream_unannounced]
  split_ifs <;> rfl

theorem feedFlow_unannounced :
    feedFlow config flow.unannounced direction packet now =
      (feedFlow config flow direction packet now).unannounced := by
  unfold feedFlow
  rw [flowUpdatePacket_unannounced]
  generalize flowUpdatePacket flow packet now direction = updated
  have classified : updated.unannounced.appClassified = updated.appClassified := rfl
  simp only [classified, flowDecodeStreamApp_unannounced]
  split_ifs
  · rfl
  · rfl
  · rcases flowDecodeStreamApp updated direction packet with ⟨fed, _ | _, status⟩ <;> rfl
  · rfl

theorem classifyLocals_unannounced (app : Option AppInfo) (locals : FlowLocals) :
    classifyLocals app locals.unannounced = (classifyLocals app locals).unannounced := by
  have classified : locals.unannounced.flow.appClassified = locals.flow.appClassified := rfl
  unfold classifyLocals
  rw [classified]
  split
  · rfl
  · split_ifs <;> rfl

/-- What is decoded of a packet does not depend on what was announced. -/
theorem decodeCapture_unannounced (flowTable : Option FlowTable) :
    decodeCapture config (flowTable.map FlowTable.unannounced) packet now =
      ((decodeCapture config flowTable packet now).1.map FlowTable.unannounced,
        (decodeCapture config flowTable packet now).2.unannounced) := by
  have tracked : trackFlow config (flowTable.map FlowTable.unannounced) packet now =
      ((trackFlow config flowTable packet now).1.map FlowTable.unannounced,
        (trackFlow config flowTable packet now).2.map fun slot =>
          (slot.1, slot.2.unannounced)) := by
    cases flowTable with
    | none => rfl
    | some table =>
        simp only [trackFlow, Option.map_some, flowTableGetOrCreate_unannounced]
        rcases flowTableGetOrCreate table packet now with ⟨looked, _ | ⟨index, direction⟩⟩
        · rfl
        · simp only [unannounced_flows, List.getElem?_map]
          cases looked.flows[index]? with
          | none => rfl
          | some flow => simp only [Option.map_some, feedFlow_unannounced]
  simp only [decodeCapture, tracked]
  cases (trackFlow config flowTable packet now).2 with
  | none => rfl
  | some slot =>
      simp only [DecodedCapture.unannounced, Option.map_some, classifyLocals_unannounced]
      rfl

theorem storeFlow_unannounced (flowTable : Option FlowTable) (slot : Option (Nat × FlowLocals)) :
    storeFlow (flowTable.map FlowTable.unannounced)
        (slot.map fun slot => (slot.1, slot.2.unannounced)) =
      (storeFlow flowTable slot).map FlowTable.unannounced := by
  cases flowTable with
  | none => rfl
  | some table =>
      cases slot with
      | none => rfl
      | some slot =>
          simp only [storeFlow, Option.map_some, FlowTable.unannounced, List.map_set]
          rfl

end Decoding

/-! ### Fragments -/

section Fragments

variable (state : FragmentState) (stats : PacketStats) (fragment : PacketInfo) (now : Nat)

/-- Expiry is the same loop whether or not it is counted. -/
theorem expire_table :
    (ipv4FragmentTableExpire (state.1, stats) now).1 = (ipv4FragmentTableExpire state now).1 := by
  have uncounted : ∀ state : FragmentState,
      sweep IPv4FragmentTable.datagrams (datagramIsIdle state.1.timeoutSeconds now)
          removeDatagramAt state.1 =
        (sweep (fun current : FragmentState => current.1.datagrams)
          (datagramIsIdle state.1.timeoutSeconds now) expireAt state).1 :=
    fun state => sweep_image (fun state : FragmentState => (List.map_id _).symm) (fun _ => rfl)
      (fun _ _ => rfl) state
  unfold ipv4FragmentTableExpire
  split
  · rfl
  · rw [← uncounted (state.1, stats), ← uncounted state]

theorem acceptFragment_table (table : IPv4FragmentTable) (other : PacketStats) (index : Nat)
    (datagram : IPv4FragmentDatagram) :
    (acceptFragment table stats index datagram fragment now).1.1 =
        (acceptFragment table other index datagram fragment now).1.1 ∧
      (acceptFragment table stats index datagram fragment now).2 =
        (acceptFragment table other index datagram fragment now).2 := by
  unfold acceptFragment
  dsimp only
  split
  · exact ⟨rfl, rfl⟩
  split
  · exact ⟨rfl, rfl⟩
  split
  · split <;> exact ⟨rfl, rfl⟩
  · exact ⟨rfl, rfl⟩

/-- Reassembly reads no counter. -/
theorem process_table :
    (ipv4FragmentTableProcess (state.1, stats) fragment now).1.1 =
        (ipv4FragmentTableProcess state fragment now).1.1 ∧
      (ipv4FragmentTableProcess (state.1, stats) fragment now).2 =
        (ipv4FragmentTableProcess state fragment now).2 := by
  unfold ipv4FragmentTableProcess
  split
  · exact ⟨rfl, rfl⟩
  have expired := expire_table
    (state.1, { state.2 with ipv4FragmentsSeen := state.2.ipv4FragmentsSeen + 1 })
    { stats with ipv4FragmentsSeen := stats.ipv4FragmentsSeen + 1 } now
  dsimp only at expired ⊢
  generalize ipv4FragmentTableExpire
    (state.1, { state.2 with ipv4FragmentsSeen := state.2.ipv4FragmentsSeen + 1 }) now = swept
    at expired ⊢
  generalize ipv4FragmentTableExpire
    (state.1, { stats with ipv4FragmentsSeen := stats.ipv4FragmentsSeen + 1 }) now = other
    at expired ⊢
  rw [expired]
  split
  · exact ⟨rfl, rfl⟩
  split
  · exact ⟨rfl, rfl⟩
  split
  · exact ⟨rfl, rfl⟩
  · exact acceptFragment_table _ _ _ _ _ _ _

theorem effectivePacket_table (config : AppConfig) :
    (effectivePacket config (state.1, stats) fragment now).1.1 =
        (effectivePacket config state fragment now).1.1 ∧
      (effectivePacket config (state.1, stats) fragment now).2 =
        (effectivePacket config state fragment now).2 := by
  have processed := process_table state stats fragment now
  unfold effectivePacket
  split
  · exact ⟨rfl, rfl⟩
  · generalize ipv4FragmentTableProcess state fragment now = next at processed ⊢
    generalize ipv4FragmentTableProcess (state.1, stats) fragment now = other at processed ⊢
    rcases next with ⟨next, result⟩
    rcases other with ⟨other, otherResult⟩
    obtain ⟨sameTable, sameResult⟩ := processed
    dsimp only at sameTable sameResult
    rw [sameResult]
    cases result <;> exact ⟨sameTable, rfl⟩

end Fragments

/-! ### What a capture displays -/

/-- What a displayed packet is written from, without the announcement of its flow. -/
def DisplayedPacket.unannounced (shown : DisplayedPacket) : DisplayedPacket :=
  { shown with flowEvent := none }

/-- What would be displayed of a packet, whatever the filters say and the output is. -/
def DecodedCapture.shown (capture : DecodedCapture) : DisplayedPacket :=
  (capture.display {}).unannounced

def DecodedCapture.passes (idna : IdnaLookup) (config : AppConfig) (capture : DecodedCapture) :
    Bool :=
  filtersMatch idna config capture.filterContext

/-- How many more packets a capture displays. -/
def captureQuota (config : AppConfig) (state : CaptureState) : Option Nat :=
  if config.maxPackets = 0 then none
  else some (config.maxPackets.toNat - state.capturedPackets.toNat)

/-- The observer that starts where a capture does. -/
def CaptureState.observerState (state : CaptureState) : ObserverState where
  fragmentTable := state.fragmentTable
  flowTable := state.flowTable

/-- A capture has seen what the observer has. -/
structure Observes (observed : ObserverState) (state : CaptureState) : Prop where
  fragments : observed.fragmentTable = state.fragmentTable
  flows : observed.flowTable = state.flowTable.map FlowTable.unannounced

section Selection

variable {idna : IdnaLookup} {config other : AppConfig} {datalink : Datalink}
variable {state initial : CaptureState} {observed : ObserverState} {captured : CapturedPacket}

theorem captureIsDone_iff :
    captureIsDone config state = true ↔ captureQuota config state = some 0 := by
  unfold captureIsDone captureQuota
  split
  next unlimited => simp [unlimited]
  next limited =>
    simp only [ne_eq, limited, not_false_eq_true, decide_true, Bool.true_and, decide_eq_true_eq,
      Option.some.injEq, Nat.sub_eq_zero_iff_le, ge_iff_le, UInt32.le_iff_toNat_le]

/-- One displayed packet costs one of the quota. -/
theorem captureQuota_displayed (running : captureIsDone config state = false)
    {next : CaptureState} (counted : next.capturedPackets = state.capturedPackets + 1) :
    captureQuota config next = (captureQuota config state).map (· - 1) := by
  unfold captureQuota
  split
  · rfl
  next limited =>
    have below : state.capturedPackets.toNat < config.maxPackets.toNat := by
      simpa [captureIsDone, limited, UInt32.lt_iff_toNat_lt] using running
    have small := config.maxPackets.toNat_lt
    have one : (1 : UInt32).toNat = 1 := rfl
    rw [counted, UInt32.toNat_add, one, Nat.mod_eq_of_lt (by omega), Option.map_some]
    rfl

theorem filterContext_unannounced (capture : DecodedCapture) :
    capture.unannounced.filterContext = capture.filterContext := by
  rcases capture with ⟨info, app, _ | slot⟩ <;> rfl

theorem display_unannounced (config : AppConfig) (capture : DecodedCapture) :
    (capture.display config).unannounced = capture.unannounced.shown := by
  rcases capture with ⟨info, _ | app, _ | slot⟩ <;> rfl

/-- Marking a flow as announced changes nothing else. -/
theorem storeFlow_announcedSlot (flowTable : Option FlowTable) (capture : DecodedCapture) :
    (storeFlow flowTable (capture.announcedSlot config)).map FlowTable.unannounced =
      (storeFlow flowTable capture.slot).map FlowTable.unannounced := by
  unfold DecodedCapture.announcedSlot
  split
  · rw [← storeFlow_unannounced, ← storeFlow_unannounced]
    cases capture.slot with
    | none => rfl
    | some slot => rfl
  · rfl

/-- A pass of a capture that is not done shows what its filters select of the observer's pass. -/
theorem Observes.pass (observes : Observes observed state)
    (running : captureIsDone config state = false) :
    ((captureLoop idna config datalink).output state captured).map DisplayedPacket.unannounced =
        (if ((observer config datalink).output observed captured).passes idna config then
          some ((observer config datalink).output observed captured).shown else none) ∧
      Observes ((observer config datalink).next observed captured)
        ((captureLoop idna config datalink).next state captured) ∧
      captureQuota config ((captureLoop idna config datalink).next state captured) =
        if ((captureLoop idna config datalink).output state captured).isSome then
          (captureQuota config state).map (· - 1)
        else captureQuota config state := by
  have effective := effectivePacket_table
    (state.fragmentTable, { state.stats with rawPacketsSeen := state.stats.rawPacketsSeen + 1 }) {}
    (parserParsePacketWithDatalink (payloadDecodeLimit config.payloadDecodeBytes) captured.bytes
      datalink) captured.seconds config
  have looked : observePass config datalink observed captured =
      let reassembled := effectivePacket config (state.fragmentTable,
          { state.stats with rawPacketsSeen := state.stats.rawPacketsSeen + 1 })
        (parserParsePacketWithDatalink (payloadDecodeLimit config.payloadDecodeBytes) captured.bytes
          datalink) captured.seconds
      let decoded := decodeCapture config state.flowTable reassembled.2 captured.seconds
      ({ fragmentTable := reassembled.1.1
         flowTable := (storeFlow decoded.1 decoded.2.slot).map FlowTable.unannounced },
        decoded.2.unannounced) := by
    simp only [observePass, observes.fragments, observes.flows, effective.1, effective.2,
      decodeCapture_unannounced]
    congr 2
    exact storeFlow_unannounced _ _
  have seen : (observer config datalink).output observed captured =
      (observePass config datalink observed captured).2 := rfl
  have followed : (observer config datalink).next observed captured =
      (observePass config datalink observed captured).1 := rfl
  rw [seen, followed, looked]
  show Option.map _ (capturePass idna config datalink state captured).2 = _ ∧
    Observes _ (capturePass idna config datalink state captured).1 ∧
    captureQuota config (capturePass idna config datalink state captured).1 =
      if (capturePass idna config datalink state captured).2.isSome then _ else _
  unfold capturePass
  simp only [running, Bool.false_eq_true, if_false]
  generalize effectivePacket config (state.fragmentTable,
      { state.stats with rawPacketsSeen := state.stats.rawPacketsSeen + 1 })
    (parserParsePacketWithDatalink (payloadDecodeLimit config.payloadDecodeBytes) captured.bytes
      datalink) captured.seconds = reassembled
  generalize decodeCapture config state.flowTable reassembled.2 captured.seconds = decoded
  unfold DecodedCapture.passes
  rw [filterContext_unannounced]
  cases passes : filtersMatch idna config decoded.2.filterContext with
  | false => exact ⟨rfl, ⟨rfl, rfl⟩, rfl⟩
  | true =>
      exact ⟨congrArg some (display_unannounced config decoded.2),
        ⟨rfl, (storeFlow_announcedSlot _ _).symm⟩, captureQuota_displayed running rfl⟩

theorem captureInit_parts (started : captureInit config = some initial) :
    ipv4FragmentTableInit config.ipv4FragmentMaxDatagrams config.ipv4FragmentMaxBytes
        config.ipv4FragmentTimeoutSeconds = some initial.fragmentTable ∧
      (if config.reassemble then
        initial.flowTable.isSome = true ∧
          flowTableInit config.maxFlows config.streamBufferBytes config.flowTimeoutSeconds =
            initial.flowTable
      else initial.flowTable = none) ∧ initial.stats = {} ∧ initial.capturedPackets = 0 := by
  unfold captureInit at started
  cases fragments : ipv4FragmentTableInit config.ipv4FragmentMaxDatagrams
      config.ipv4FragmentMaxBytes config.ipv4FragmentTimeoutSeconds with
  | none =>
      rw [fragments] at started
      contradiction
  | some fragmentTable =>
      rw [fragments] at started
      dsimp only at started
      split at started
      next reassembling =>
        obtain ⟨flowTable, initialized, rfl⟩ := Option.map_eq_some_iff.mp started
        rw [if_pos reassembling]
        exact ⟨rfl, ⟨rfl, initialized⟩, rfl, rfl⟩
      next untracked =>
        obtain rfl := Option.some.inj started
        rw [if_neg untracked]
        exact ⟨rfl, rfl, rfl, rfl⟩

theorem captureInit_observes (started : captureInit config = some initial) :
    Observes initial.observerState initial := by
  refine ⟨rfl, ?_⟩
  have tables := (captureInit_parts started).2.1
  show initial.flowTable = initial.flowTable.map FlowTable.unannounced
  cases held : initial.flowTable with
  | none => rfl
  | some table =>
      rw [held] at tables
      split at tables
      · have empty := flowTableInit_flows tables.2
        have same : table.unannounced = table := by
          rcases table with ⟨flows⟩
          obtain rfl : flows = [] := empty
          rfl
        rw [Option.map_some, same]
      · contradiction

theorem captureInit_quota (started : captureInit config = some initial) :
    captureQuota config initial =
      if config.maxPackets = 0 then none else some config.maxPackets.toNat := by
  unfold captureQuota
  rw [(captureInit_parts started).2.2.2]
  rfl

/-- From any state, what is displayed is selected of the observer's view, up to the quota left. -/
theorem Observes.displays (observes : Observes observed state) (idna : IdnaLookup)
    (datalink : Datalink) (packets : List CapturedPacket) :
    ((captureLoop idna config datalink).outputs state packets).reduceOption.map
        DisplayedPacket.unannounced =
      Machine.withinQuota (captureQuota config state)
        ((((observer config datalink).outputs observed packets).filter
          (DecodedCapture.passes idna config)).map DecodedCapture.shown) := by
  apply Machine.reduceOption_outputs_select _ _ observes
  · intro state captured spent
    have done := captureIsDone_iff.mpr spent
    simp [Machine.output, Machine.next, captureLoop, capturePass, done]
  · intro observed state captured observes room
    have running : captureIsDone config state = false := by
      rw [← Bool.not_eq_true, captureIsDone_iff]
      exact room
    exact observes.pass running

/-- A capture displays what its filters select of the observer's view, up to its limit. -/
theorem captureLoop_displays_selection (idna : IdnaLookup) (datalink : Datalink)
    (started : captureInit config = some initial) (packets : List CapturedPacket) :
    ((captureLoop idna config datalink).outputs initial packets).reduceOption.map
        DisplayedPacket.unannounced =
      Machine.withinQuota
        (if config.maxPackets = 0 then none else some config.maxPackets.toNat)
        ((((observer config datalink).outputs initial.observerState packets).filter
          (DecodedCapture.passes idna config)).map DecodedCapture.shown) := by
  rw [← captureInit_quota started]
  exact (captureInit_observes started).displays idna datalink packets

/-- A request in two segments between packets that the filter hides, displayed up to one. -/
def sampleSelectionConfig : AppConfig :=
  { sampleStreamConfig with filterAppEnabled := true, filterAppProtocol := .http, maxPackets := 1 }

theorem captureLoop_displays_selection_sampleSplitRequest :
    ((captureLoop none sampleSelectionConfig .en10mb).outputs sampleStreamState
        (sampleSplitRequest ++ sampleWholeRequest)).reduceOption.map DisplayedPacket.unannounced =
      Machine.withinQuota (some 1)
        ((((observer sampleSelectionConfig .en10mb).outputs sampleStreamState.observerState
          (sampleSplitRequest ++ sampleWholeRequest)).filter
            (DecodedCapture.passes none sampleSelectionConfig)).map DecodedCapture.shown) :=
  captureLoop_displays_selection none .en10mb
    (show captureInit sampleSelectionConfig = some sampleStreamState from rfl) _

/-! ### Captures that track alike -/

theorem SameTracking.captureInit_eq (same : SameTracking config other) :
    captureInit config = captureInit other := by
  unfold captureInit
  rw [same.reassemble_eq, same.maxFlows_eq, same.streamBufferBytes_eq, same.flowTimeoutSeconds_eq,
    same.fragmentMaxDatagrams_eq, same.fragmentMaxBytes_eq, same.fragmentTimeoutSeconds_eq]

/-- Observing reads tracking options only. -/
theorem SameTracking.observer_eq (same : SameTracking config other) (datalink : Datalink) :
    observer config datalink = observer other datalink := by
  have effective : effectivePacket config = effectivePacket other := by
    funext state info now
    unfold effectivePacket
    rw [same.payloadDecodeBytes_eq]
  have decoded : decodeCapture config = decodeCapture other := by
    funext flowTable packet now
    have info : decodedInfo config = decodedInfo other := by
      funext packet status
      unfold decodedInfo
      rw [same.decodeApp_eq]
    have fed : feedFlow config = feedFlow other := by
      funext flow direction packet now
      unfold feedFlow
      rw [same.decodeApp_eq]
    have tracked : trackFlow config = trackFlow other := by
      funext flowTable packet now
      unfold trackFlow
      rw [fed]
    unfold decodeCapture
    rw [info, tracked, same.decodeApp_eq]
  unfold observer observePass
  rw [effective, decoded, same.payloadDecodeBytes_eq]

/-- A capture without a limit ends where the observer does. -/
theorem Observes.run (unlimited : config.maxPackets = 0) (observes : Observes observed state)
    (idna : IdnaLookup) (datalink : Datalink) (packets : List CapturedPacket) :
    Observes ((observer config datalink).run observed packets)
      ((captureLoop idna config datalink).run state packets) := by
  apply Machine.run_related _ observes
  intro state observed captured observes
  have running : captureIsDone config state = false := by simp [captureIsDone, unlimited]
  exact (observes.pass running).2.1

/-- What stricter filters or a limit display is part of what a capture without a limit displays that
tracks alike. -/
theorem SameTracking.displays_sublist (same : SameTracking config other)
    (unlimited : other.maxPackets = 0)
    (stricter : ∀ context, filtersMatch idna config context = true →
      filtersMatch idna other context = true)
    (started : captureInit config = some initial) (datalink : Datalink)
    (packets : List CapturedPacket) :
    (((captureLoop idna config datalink).outputs initial packets).reduceOption.map
      DisplayedPacket.unannounced).Sublist
      (((captureLoop idna other datalink).outputs initial packets).reduceOption.map
        DisplayedPacket.unannounced) := by
  have startedOther : captureInit other = some initial := same.captureInit_eq ▸ started
  rw [(captureInit_observes started).displays idna datalink,
    (captureInit_observes startedOther).displays idna datalink, captureInit_quota startedOther,
    if_pos unlimited, same.observer_eq datalink]
  have passing : ∀ capture : DecodedCapture, capture.passes idna config = true →
      capture.passes idna other = true := fun capture passes => stricter _ passes
  exact (Machine.withinQuota_sublist _ _).trans
    ((List.monotone_filter_right _ passing).map DecodedCapture.shown)

/-- Filters do not change which tables a capture without a limit ends with. -/
theorem SameTracking.run_tables (same : SameTracking config other)
    (limitless : config.maxPackets = 0) (unlimited : other.maxPackets = 0)
    (started : captureInit config = some initial) (idna : IdnaLookup) (datalink : Datalink)
    (packets : List CapturedPacket) :
    ((captureLoop idna config datalink).run initial packets).fragmentTable =
        ((captureLoop idna other datalink).run initial packets).fragmentTable ∧
      ((captureLoop idna config datalink).run initial packets).flowTable.map
          FlowTable.unannounced =
        ((captureLoop idna other datalink).run initial packets).flowTable.map
          FlowTable.unannounced := by
  have startedOther : captureInit other = some initial := same.captureInit_eq ▸ started
  have mine := (captureInit_observes started).run limitless idna datalink packets
  have theirs := (captureInit_observes startedOther).run unlimited idna datalink packets
  rw [same.observer_eq datalink] at mine
  exact ⟨mine.fragments.symm.trans theirs.fragments, mine.flows.symm.trans theirs.flows⟩

/-- Two captures of the same traffic that track alike behind the same pre-filter and run without a
limit end with the same tables, but for which flows were announced, and what stricter filters or a
limit leave of one is in the same order in the other. -/
theorem tracking_ignores_filters (idna : IdnaLookup) (datalink : Datalink)
    (kernel : List BpfPrimitive → CapturedPacket → Bool) (same : SameTracking config other)
    (alike : installBpfFilter config = installBpfFilter other) (unlimited : other.maxPackets = 0)
    (stricter : ∀ context, filtersMatch idna config context = true →
      filtersMatch idna other context = true)
    (started : captureInit config = some initial) (traffic : List CapturedPacket) :
    let mine := handedOver kernel config traffic
    let theirs := handedOver kernel other traffic
    captureInit other = some initial ∧
      (((captureLoop idna config datalink).outputs initial mine).reduceOption.map
        DisplayedPacket.unannounced).Sublist
        (((captureLoop idna other datalink).outputs initial theirs).reduceOption.map
          DisplayedPacket.unannounced) ∧
      (config.maxPackets = 0 →
        ((captureLoop idna config datalink).run initial mine).fragmentTable =
            ((captureLoop idna other datalink).run initial theirs).fragmentTable ∧
          ((captureLoop idna config datalink).run initial mine).flowTable.map
              FlowTable.unannounced =
            ((captureLoop idna other datalink).run initial theirs).flowTable.map
              FlowTable.unannounced) := by
  intro mine theirs
  have startedOther : captureInit other = some initial := by
    rw [← same.captureInit_eq]
    exact started
  have delivered : mine = theirs := by
    simp only [mine, theirs, handedOver, alike]
  rw [delivered]
  refine ⟨startedOther, ?_, ?_⟩
  · exact same.displays_sublist unlimited stricter started datalink theirs
  · intro limitless
    exact same.run_tables limitless unlimited started idna datalink theirs

theorem tracking_ignores_filters_sampleSplitRequest :
    captureInit sampleStreamConfig = some sampleStreamState ∧
      (((captureLoop none sampleSelectionConfig .en10mb).outputs sampleStreamState
        sampleSplitRequest).reduceOption.map DisplayedPacket.unannounced).Sublist
        (((captureLoop none sampleStreamConfig .en10mb).outputs sampleStreamState
          sampleSplitRequest).reduceOption.map DisplayedPacket.unannounced) := by
  have hidden := tracking_ignores_filters none .en10mb (fun _ _ => true)
    (show SameTracking sampleSelectionConfig sampleStreamConfig from
      ⟨rfl, rfl, rfl, rfl, rfl, rfl, rfl, rfl, rfl⟩)
    rfl rfl (fun _ _ => rfl) rfl sampleSplitRequest
  exact ⟨hidden.1, hidden.2.1⟩

end Selection

end MiniSniffer
