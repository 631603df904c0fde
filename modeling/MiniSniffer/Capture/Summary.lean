import MiniSniffer.Capture.Memory
import MiniSniffer.Capture.Observation
import MiniSniffer.Fragment.Accounting

/-!
Contract: the summary that a capture leaves (the end of `capture_start`, `src/stats.c`).

Owns the last eviction pass, the totals that are copied into the counters, and what the summary of
any run adds up to. A pass does to the flow table what a list of capture-path operations does, so
the laws of those operations hold of every capture.

Does not own the balance of raw and displayed packets: see `Capture.Funnel`.
-/

namespace MiniSniffer

open Foundation

/-! ### The end of a capture -/

/-- The counters, with the totals that `stats_apply_flow_table` and
`stats_apply_ipv4_fragment_table` copy in. -/
structure CaptureSummary extends PacketStats where
  flowCountCreated : Nat := 0
  flowCountActiveAtExit : Nat := 0
  flowClosedFin : Nat := 0
  flowClosedRst : Nat := 0
  flowEvictedIdle : Nat := 0
  flowEvictedCapacity : Nat := 0
  flowRetransmissions : Nat := 0
  flowOutOfOrderSegments : Nat := 0
  flowOverlappingSegments : Nat := 0
  flowGaps : Nat := 0
  flowStreamBytesInUse : Nat := 0
  flowStreamBytesConfiguredMax : Nat := 0
  ipv4FragmentBytesInUse : Nat := 0
  ipv4FragmentBytesConfiguredMax : Nat := 0
deriving DecidableEq, Repr

def statsApplyFlowTable (stats : CaptureSummary) (table : FlowTable) : CaptureSummary :=
  let snapshot := flowTableSnapshotStats table
  { stats with
    flowCountCreated := snapshot.flowsCreated
    flowCountActiveAtExit := snapshot.flowsActive
    flowClosedFin := snapshot.flowsClosedFin
    flowClosedRst := snapshot.flowsClosedRst
    flowEvictedIdle := snapshot.flowsEvictedIdle
    flowEvictedCapacity := snapshot.flowsEvictedCapacity
    flowRetransmissions := snapshot.retransmissions
    flowOutOfOrderSegments := snapshot.outOfOrderSegments
    flowOverlappingSegments := snapshot.overlappingSegments
    flowGaps := snapshot.gaps
    flowStreamBytesInUse := snapshot.streamBytesInUse
    flowStreamBytesConfiguredMax := snapshot.streamBytesConfiguredMax }

def statsApplyIpv4FragmentTable (stats : CaptureSummary) (table : IPv4FragmentTable) :
    CaptureSummary :=
  { stats with
    ipv4FragmentBytesInUse := table.usedBytes
    ipv4FragmentBytesConfiguredMax := table.maxBytes }

/-- What follows the loop; without reassembly the flow table is a cleared one. -/
def captureFinish (state : CaptureState) : CaptureSummary :=
  let flowTable := flowTableEvictClosed (state.flowTable.getD {})
  statsApplyIpv4FragmentTable (statsApplyFlowTable { toPacketStats := state.stats } flowTable)
    state.fragmentTable

/-! ### A pass as operations -/

/-- The packet is displayed and its flow announced. -/
def announces (idna : IdnaLookup) (config : AppConfig) (flowTable : Option FlowTable)
    (packet : PacketInfo) (now : Nat) : Bool :=
  let capture := (decodeCapture config flowTable packet now).2
  filtersMatch idna config capture.filterContext && capture.announcesFlow config

/-- What a pass does to the flow table. -/
def passOperations (idna : IdnaLookup) (config : AppConfig) (table : FlowTable)
    (packet : PacketInfo) (now : Nat) : List FlowOperation :=
  match (flowTableGetOrCreate table packet now).2 with
  | none => [.getOrCreate packet now]
  | some (index, direction) =>
      [.getOrCreate packet now, .visit index (.update packet now direction)] ++
        (if config.decodeApp then
          [.visit index (.decode direction packet), .visit index (.classify packet)] else []) ++
        if announces idna config (some table) packet now then [.visit index .print] else []

section Pass

variable {idna : IdnaLookup} {config : AppConfig} {table : FlowTable} {packet : PacketInfo}
variable {flow : FlowInfo} {direction : FlowDirection} {now index : Nat}

/-- A flow is updated, and fed where decoding is enabled. -/
theorem feedFlow_flow :
    (feedFlow config flow direction packet now).flow =
      if config.decodeApp then
        (flowDecodeStreamApp (flowUpdatePacket flow packet now direction) direction packet).1
      else flowUpdatePacket flow packet now direction := by
  unfold feedFlow
  generalize flowUpdatePacket flow packet now direction = updated
  dsimp only
  split
  · rfl
  · split
    · split
      next fed status decoded => rw [decoded]
      next fed status decoded => rw [decoded]
    · rfl

theorem classifyLocals_flow (locals : FlowLocals) :
    (classifyLocals (packetApp packet) locals).flow = classifyFromPacket locals.flow packet := by
  unfold packetApp classifyFromPacket classifyLocals
  dsimp only
  cases known : locals.flow.appClassified with
  | true =>
      simp only [Bool.not_true, Bool.and_false, Bool.false_eq_true, if_false, if_true]
      split <;> rfl
  | false =>
      simp only [Bool.not_false, Bool.and_true, Bool.false_eq_true, if_false]
      split_ifs <;> rfl

theorem flowOperations_visit (table : FlowTable) (index : Nat) (visit : FlowVisit) :
    flowOperations.next table (.visit index visit) = visitFlowAt table index visit := rfl

/-- A pass does to the flow table what its operations do. -/
theorem displayPacket_eq_run (idna : IdnaLookup) (config : AppConfig) (packet : PacketInfo)
    (now : Nat) (wellformed : table.Wellformed) :
    (displayPacket idna config (some table) packet now).1 =
      some (flowOperations.run table (passOperations idna config table packet now)) := by
  cases tracked : trackedAs packet with
  | none =>
      rw [displayPacket_untracked idna config (some table) tracked, passOperations,
        flowTableGetOrCreate_untracked tracked, Machine.run_cons, Machine.run_nil]
      simp only [Machine.next, flowOperations, flowTableGetOrCreate_untracked tracked]
  | some keyed =>
      rcases keyed with ⟨key, direction⟩
      obtain ⟨looked, index, -, -, lookup, slot, -⟩ :=
        flowTableGetOrCreate_place now wellformed tracked
      have decoded : decodeCapture config (some table) packet now = (some looked,
          captureWithFlow config (assignedFlow table key now) direction packet now index) := by
        simp only [decodeCapture, trackFlow, lookup, slot]
        rfl
      have opened : flowOperations.next table (.getOrCreate packet now) = looked := by
        simp only [Machine.next, flowOperations, lookup]
      have stored : ∀ announced : Bool, flowOperations.run table
          ([.getOrCreate packet now, .visit index (.update packet now direction)] ++
            (if config.decodeApp then
              [.visit index (.decode direction packet), .visit index (.classify packet)] else []) ++
            if announced then [.visit index .print] else []) =
          let visited := (classifyLocals (if config.decodeApp then packetApp packet else none)
            (feedFlow config (assignedFlow table key now) direction packet now)).flow
          { looked with
            flows := looked.flows.set index
              (if announced then { visited with appEventPrinted := true } else visited) } := by
        intro announced
        cases decoding : config.decodeApp with
        | false =>
            cases announced <;>
              simp only [Bool.false_eq_true, if_false, if_true, List.append_nil, List.cons_append,
                List.nil_append, Machine.run_cons, Machine.run_nil, opened, flowOperations_visit,
                visitFlowAt_of_slot slot, visitFlowAt_set slot, classifyLocals_none, feedFlow_flow,
                decoding] <;> rfl
        | true =>
            cases announced <;>
              simp only [Bool.false_eq_true, if_false, if_true, List.append_nil, List.cons_append,
                List.nil_append, Machine.run_cons, Machine.run_nil, opened, flowOperations_visit,
                visitFlowAt_of_slot slot, visitFlowAt_set slot, classifyLocals_flow, feedFlow_flow,
                decoding] <;> rfl
      rw [passOperations, lookup]
      simp only [stored, announces, displayPacket, decoded]
      cases passes : filtersMatch idna config (captureWithFlow config (assignedFlow table key now)
          direction packet now index).filterContext with
      | false => rfl
      | true =>
          simp only [Bool.not_true, Bool.false_eq_true, if_false, Bool.true_and]
          exact announcedSlot_withFlow config _ direction packet now index

end Pass

/-! ### Runs -/

/-- Every fragment seen was a raw packet, and the flow table is where operations on the initial one
led. -/
structure CaptureState.Accounted (config : AppConfig) (count : Nat) (state : CaptureState) : Prop
    where
  fragments : FragmentLedger state.stats.rawPacketsSeen.toNat (state.fragmentTable, state.stats)
  fragmentLimits : state.fragmentTable.limits = (config.ipv4FragmentMaxDatagrams,
    config.ipv4FragmentMaxBytes, config.ipv4FragmentTimeoutSeconds)
  raw_le : state.stats.rawPacketsSeen.toNat ≤ count
  untracked : config.reassemble = false → state.flowTable = none
  tracked : config.reassemble = true → ∃ initial operations,
    flowTableInit config.maxFlows config.streamBufferBytes config.flowTimeoutSeconds =
        some initial ∧
      state.flowTable = some (flowOperations.run initial operations)

section Runs

variable {idna : IdnaLookup} {config : AppConfig} {datalink : Datalink} {captured : CapturedPacket}
variable {state initial : CaptureState} {stats other : PacketStats} {count : Nat}

/-- The pass of a capture that is not done, by its parts. -/
theorem capturePass_running (running : captureIsDone config state = false) :
    let effective := effectiveAt config datalink state captured
    let shown := displayPacket idna config state.flowTable effective.2 captured.seconds
    let next := (captureLoop idna config datalink).next state captured
    next.fragmentTable = effective.1.1 ∧ next.flowTable = shown.1 ∧
      settledFragments next.stats = settledFragments effective.1.2 ∧
      next.stats.ipv4FragmentsSeen = effective.1.2.ipv4FragmentsSeen ∧
      next.stats.rawPacketsSeen = effective.1.2.rawPacketsSeen := by
  intro effective shown next
  have counted : ∀ (stats : PacketStats) (info : PacketInfo),
      settledFragments (statsUpdate stats info) = settledFragments stats ∧
        (statsUpdate stats info).ipv4FragmentsSeen = stats.ipv4FragmentsSeen ∧
        (statsUpdate stats info).rawPacketsSeen = stats.rawPacketsSeen := by
    intro stats info
    unfold statsUpdate countDecodeStatus countProtocol
    cases info.protocol <;> cases info.appDecodeStatus <;> exact ⟨rfl, rfl, rfl⟩
  simp only [next, shown, Machine.next, captureLoop, capturePass, running, Bool.false_eq_true,
    if_false]
  rw [← effectiveAt_eq]
  simp only [effective]
  generalize effectiveAt config datalink state captured = effective
  simp only [displayPacket]
  split
  · exact ⟨rfl, rfl, rfl, rfl, rfl⟩
  · exact ⟨rfl, rfl, counted _ _⟩

theorem effectiveAt_ledger (ledger : FragmentLedger count (state.fragmentTable, state.stats))
    (room : count + 1 < 2 ^ 32) (config : AppConfig) (datalink : Datalink)
    (captured : CapturedPacket) :
    FragmentLedger (count + 1) (effectiveAt config datalink state captured).1 ∧
      (effectiveAt config datalink state captured).1.1.limits = state.fragmentTable.limits := by
  have seen : FragmentLedger count (state.fragmentTable,
      { state.stats with rawPacketsSeen := state.stats.rawPacketsSeen + 1 }) :=
    ⟨ledger.represented, ledger.occupied, ledger.balanced, ledger.seen_le⟩
  rw [effectiveAt_eq]
  generalize parserParsePacketWithDatalink (payloadDecodeLimit config.payloadDecodeBytes)
    captured.bytes datalink = info
  have processed := seen.process room info captured.seconds
  have limits := process_limits seen.represented.toWellformed
    (FragmentEvent.mk info captured.seconds)
  have next : fragmentReassembly.next (state.fragmentTable,
      { state.stats with rawPacketsSeen := state.stats.rawPacketsSeen + 1 })
      ⟨info, captured.seconds⟩ = (ipv4FragmentTableProcess (state.fragmentTable,
        { state.stats with rawPacketsSeen := state.stats.rawPacketsSeen + 1 }) info
        captured.seconds).1 := rfl
  rw [next] at limits
  unfold effectivePacket
  split
  · exact ⟨⟨seen.represented, seen.occupied, seen.balanced, seen.seen_le.trans (Nat.le_succ _)⟩,
      rfl⟩
  · split
    next packet reassembled =>
      rw [reassembled] at processed limits
      exact ⟨processed, limits⟩
    next result other =>
      rw [other] at processed limits
      exact ⟨processed, limits⟩

theorem CaptureState.Accounted.next (accounted : state.Accounted config count)
    (room : count + 1 < 2 ^ 32) (idna : IdnaLookup) (datalink : Datalink)
    (captured : CapturedPacket) :
    ((captureLoop idna config datalink).next state captured).Accounted config (count + 1) := by
  cases done : captureIsDone config state with
  | true =>
      have same : (captureLoop idna config datalink).next state captured = state := by
        simp [Machine.next, captureLoop, capturePass, done]
      rw [same]
      exact { accounted with raw_le := accounted.raw_le.trans (Nat.le_succ count) }
  | false =>
      have parts := @capturePass_running idna config datalink captured state done
      have rawLe := accounted.raw_le
      have ledger := effectiveAt_ledger accounted.fragments (by omega) config datalink captured
      have raw : (effectiveAt config datalink state captured).1.2.rawPacketsSeen =
          state.stats.rawPacketsSeen + 1 :=
        congrArg PacketStats.rawPacketsSeen
          (effectiveAt_withoutFragments config datalink state captured)
      generalize (captureLoop idna config datalink).next state captured = next at parts ⊢
      generalize effectiveAt config datalink state captured = effective at parts ledger raw ⊢
      obtain ⟨fragmentTable, flowTable, settled, seen, rawSeen⟩ := parts
      have one : (state.stats.rawPacketsSeen + 1).toNat = state.stats.rawPacketsSeen.toNat + 1 :=
        toNat_add_one (by omega)
      refine ⟨?_, ?_, ?_, ?_, ?_⟩
      · rw [rawSeen, raw, one]
        have balanced := ledger.1.balanced
        have seenLe := ledger.1.seen_le
        rw [← settled, ← fragmentTable, ← seen] at balanced
        rw [← seen] at seenLe
        exact ⟨by rw [fragmentTable]; exact ledger.1.represented,
          by rw [fragmentTable]; exact ledger.1.occupied, balanced, seenLe⟩
      · rw [fragmentTable, ledger.2]
        exact accounted.fragmentLimits
      · rw [rawSeen, raw, one]
        omega
      · intro reassembling
        rw [flowTable, accounted.untracked reassembling, displayPacket_none]
      · intro reassembling
        obtain ⟨start, operations, initialized, held⟩ := accounted.tracked reassembling
        have operated : start.Operated :=
          ⟨_, _, _, start, initialized, Machine.Reachable.refl _⟩
        have wellformed := (run_limits operated operations).2.wellformed
        rw [flowTable, held, displayPacket_eq_run idna config _ _ wellformed, ← Machine.run_append]
        exact ⟨start, _, initialized, rfl⟩

theorem captureInit_accounted (started : captureInit config = some initial) :
    initial.Accounted config 0 := by
  obtain ⟨fragments, flows, stats, -⟩ := captureInit_parts started
  have represented := ipv4FragmentTableInit_represented fragments
  have fresh : initial.fragmentTable.datagrams = [] ∧ initial.fragmentTable.limits =
      (config.ipv4FragmentMaxDatagrams, config.ipv4FragmentMaxBytes,
        config.ipv4FragmentTimeoutSeconds) := by
    unfold ipv4FragmentTableInit at fragments
    split at fragments
    · contradiction
    · rw [← Option.some.inj fragments]
      exact ⟨rfl, rfl⟩
  refine ⟨⟨represented, ?_, ?_, ?_⟩, fresh.2, ?_, ?_, ?_⟩
  · rw [fresh.1]
    simp
  · simp [stats, waitingFragments, fresh.1, settledFragments]
  · simp [stats]
  · simp [stats]
  · intro reassembling
    rw [reassembling] at flows
    exact flows
  · intro reassembling
    rw [if_pos reassembling] at flows
    obtain ⟨table, held⟩ := Option.isSome_iff_exists.mp flows.1
    rw [held] at flows
    exact ⟨table, [], flows.2, held⟩

theorem CaptureState.Accounted.run (accounted : state.Accounted config count)
    (idna : IdnaLookup) (datalink : Datalink) (packets : List CapturedPacket)
    (room : count + packets.length < 2 ^ 32) :
    ((captureLoop idna config datalink).run state packets).Accounted config
      (count + packets.length) := by
  induction packets generalizing state count with
  | nil => exact accounted
  | cons captured packets inductionHypothesis =>
      rw [List.length_cons] at room ⊢
      have next := accounted.next (by omega) idna datalink captured
      have rest := inductionHypothesis next (by omega)
      rwa [Nat.add_assoc, Nat.add_comm 1] at rest

/-! ### What the summary adds up to -/

/-- The flow counters of a summary. -/
structure FlowTotals (summary : CaptureSummary) : Prop where
  created_eq : summary.flowCountCreated = summary.flowCountActiveAtExit + summary.flowClosedFin +
    summary.flowClosedRst + summary.flowEvictedIdle + summary.flowEvictedCapacity
  streamBytes_le : summary.flowStreamBytesInUse ≤ summary.flowStreamBytesConfiguredMax

/-- A snapshot copies the table's own counters of flows. -/
theorem flowTableSnapshotStats_flows (table : FlowTable) :
    let snapshot := flowTableSnapshotStats table
    snapshot.flowsCreated = table.flowsCreated ∧ snapshot.flowsActive = table.flows.length ∧
      snapshot.flowsClosedFin = table.flowsClosedFin ∧
      snapshot.flowsClosedRst = table.flowsClosedRst ∧
      snapshot.flowsEvictedIdle = table.flowsEvictedIdle ∧
      snapshot.flowsEvictedCapacity = table.flowsEvictedCapacity := by
  have scanned : ∀ (flows : List FlowInfo) (start : FlowTableStats × Nat),
      let snapshot := (flows.foldl snapshotFlow start).1
      snapshot.flowsCreated = start.1.flowsCreated ∧
        snapshot.flowsActive = start.1.flowsActive ∧
        snapshot.flowsClosedFin = start.1.flowsClosedFin ∧
        snapshot.flowsClosedRst = start.1.flowsClosedRst ∧
        snapshot.flowsEvictedIdle = start.1.flowsEvictedIdle ∧
        snapshot.flowsEvictedCapacity = start.1.flowsEvictedCapacity := by
    intro flows
    induction flows with
    | nil => exact fun _ => ⟨rfl, rfl, rfl, rfl, rfl, rfl⟩
    | cons flow flows inductionHypothesis =>
        intro start
        exact inductionHypothesis (snapshotFlow start flow)
  exact scanned table.flows _

/-- A flow table that operations led to, after the last eviction pass. -/
theorem flowTotals_of_operations {start : FlowTable} {operations : List FlowOperation}
    {maxFlows streamBufferBytes timeoutSeconds : Nat}
    (initialized : flowTableInit maxFlows streamBufferBytes timeoutSeconds = some start)
    (stats : CaptureSummary) :
    let table := flowTableEvictClosed (flowOperations.run start operations)
    FlowTotals (statsApplyFlowTable stats table) ∧ table.flows.length ≤ maxFlows ∧
      (statsApplyFlowTable stats table).flowStreamBytesConfiguredMax =
        maxFlows * streamBufferBytes * 2 ∧
      (table.flows.map FlowInfo.memory).sum ≤ minisnifferMaxTotalReassemblyBytes := by
  intro table
  have operated : start.Operated := ⟨_, _, _, start, initialized, Machine.Reachable.refl _⟩
  have capped := flowTableInit_capped initialized
  have ended : table = flowOperations.run start (operations ++ [.evictClosed]) := by
    rw [Machine.run_append]
    rfl
  have reached := run_limits operated (operations ++ [.evictClosed])
  have created : start.flowsCreated = start.flows.length + start.flowsLeft := by
    unfold flowTableInit at initialized
    split at initialized
    · contradiction
    · rw [← Option.some.inj initialized]
      rfl
  have conserved := (conserved_run operated created (operations ++ [.evictClosed])).1
  rw [← ended] at reached conserved
  have wellformed := reached.2.wellformed
  have limits := reached.1.trans capped.2
  simp only [FlowTable.limits, Prod.mk.injEq] at limits
  have count := wellformed.bounded
  rw [limits.1] at count
  have kept := flowTableSnapshotStats_flows table
  refine ⟨⟨?_, streamBytesInUse_le wellformed⟩, count, ?_, ?_⟩
  · have left : table.flowsLeft = table.flowsClosedFin + table.flowsClosedRst +
        table.flowsEvictedIdle + table.flowsEvictedCapacity := rfl
    simp only [statsApplyFlowTable]
    omega
  · show table.maxFlows * table.streamBufferBytes * 2 = _
    rw [limits.1, limits.2.1]
  · have sized : ∀ flow ∈ table.flows, flow.memory ≤ 4 * streamBufferBytes := by
      intro flow member
      rw [← limits.2.1, ← wellformed.sized flow member]
      exact (reached.2.bounded flow member).memory_le
    exact (sum_memory_le sized).trans ((Nat.mul_le_mul_right _ count).trans capped.1)

/-- The summary of a capture adds up, whatever was captured: created flows are active or left in one
of four ways, the flows and bytes held at exit are within the configured limits, and no more
fragments are settled than were seen. -/
theorem capture_summary_adds_up (idna : IdnaLookup) (datalink : Datalink)
    (started : captureInit config = some initial) (packets : List CapturedPacket)
    (few : packets.length < 2 ^ 32) :
    let summary := captureFinish ((captureLoop idna config datalink).run initial packets)
    FlowTotals summary ∧ summary.flowCountActiveAtExit ≤ config.maxFlows ∧
      summary.flowStreamBytesConfiguredMax =
        (if config.reassemble then config.maxFlows * config.streamBufferBytes * 2 else 0) ∧
      summary.ipv4FragmentBytesInUse ≤ summary.ipv4FragmentBytesConfiguredMax ∧
      summary.ipv4FragmentBytesConfiguredMax = config.ipv4FragmentMaxBytes ∧
      settledFragments summary.toPacketStats ≤ summary.ipv4FragmentsSeen.toNat ∧
      summary.ipv4FragmentsSeen.toNat ≤ summary.rawPacketsSeen.toNat ∧
      summary.rawPacketsSeen.toNat ≤ packets.length := by
  have accounted := (captureInit_accounted started).run idna datalink packets
    (by rwa [Nat.zero_add])
  rw [Nat.zero_add] at accounted
  generalize (captureLoop idna config datalink).run initial packets = final at accounted ⊢
  have represented := accounted.fragments.represented
  have fragmentLimits := accounted.fragmentLimits
  simp only [IPv4FragmentTable.limits, Prod.mk.injEq] at fragmentLimits
  have settled : settledFragments final.stats ≤ final.stats.ipv4FragmentsSeen.toNat :=
    (Nat.le_add_right _ _).trans accounted.fragments.balanced
  have fragments : final.fragmentTable.usedBytes ≤ final.fragmentTable.maxBytes ∧
      final.fragmentTable.maxBytes = config.ipv4FragmentMaxBytes ∧
      settledFragments final.stats ≤ final.stats.ipv4FragmentsSeen.toNat ∧
      final.stats.ipv4FragmentsSeen.toNat ≤ final.stats.rawPacketsSeen.toNat ∧
      final.stats.rawPacketsSeen.toNat ≤ packets.length :=
    ⟨represented.capped, fragmentLimits.2.1, settled, accounted.fragments.seen_le,
      accounted.raw_le⟩
  cases reassembling : config.reassemble with
  | false =>
      have untracked := accounted.untracked reassembling
      have flows : FlowTotals (captureFinish final) ∧
          (captureFinish final).flowCountActiveAtExit = 0 ∧
          (captureFinish final).flowStreamBytesConfiguredMax = 0 := by
        unfold captureFinish
        rw [untracked]
        exact ⟨⟨rfl, Nat.le_refl _⟩, rfl, rfl⟩
      exact ⟨flows.1, flows.2.1.le.trans (Nat.zero_le _), flows.2.2, fragments⟩
  | true =>
      obtain ⟨start, operations, initialized, held⟩ := accounted.tracked reassembling
      have flows := @flowTotals_of_operations start operations _ _ _ initialized
        { toPacketStats := final.stats }
      have active := (flowTableSnapshotStats_flows
        (flowTableEvictClosed (flowOperations.run start operations))).2.1
      unfold captureFinish
      rw [held]
      refine ⟨⟨flows.1.created_eq, flows.1.streamBytes_le⟩, ?_, flows.2.2.1, fragments⟩
      exact active.le.trans flows.2.1

/-- A request in two segments, captured with reassembly. -/
theorem capture_summary_adds_up_sampleSplitRequest :
    let summary := captureFinish ((captureLoop none sampleStreamConfig .en10mb).run
      sampleStreamState sampleSplitRequest)
    summary.flowCountCreated = 1 ∧ FlowTotals summary ∧
      summary.rawPacketsSeen.toNat ≤ sampleSplitRequest.length := by
  have adds := capture_summary_adds_up none .en10mb
    (show captureInit sampleStreamConfig = some sampleStreamState from rfl) sampleSplitRequest
    (by decide)
  exact ⟨by decide +kernel, adds.1, adds.2.2.2.2.2.2.2⟩

end Runs

end MiniSniffer
