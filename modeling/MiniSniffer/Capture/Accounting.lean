import MiniSniffer.Capture.Operations
import MiniSniffer.Tcp.Resources

/-!
Contract: what the flow table counts over whole runs.

Owns the two conservation laws of the table. Every flow ever created is still there or was counted
by exactly one of the four ways to leave; and every counter of a snapshot is the sum of what the
processed segments added to it, whichever flow they were added to and whatever became of it.

The second law needs that a direction without a stream has counted nothing unless its flow is
classified, since preparing a direction clears its counters.
-/

namespace MiniSniffer

open Foundation

/-! ### Counters of flows and tables -/

def FlowInfo.counter (flow : FlowInfo) (counter : ReassemblyCounter) : Nat :=
  flow.aToB.tcp.counter counter + flow.bToA.tcp.counter counter

/-- What flows that left the table had counted. -/
def FlowTable.leftCounter (table : FlowTable) : ReassemblyCounter → Nat
  | .retransmissions => table.retransmissionsTotal
  | .outOfOrderSegments => table.outOfOrderSegmentsTotal
  | .overlappingSegments => table.overlappingSegmentsTotal
  | .gaps => table.gapsTotal

def FlowTableStats.counter (stats : FlowTableStats) : ReassemblyCounter → Nat
  | .retransmissions => stats.retransmissions
  | .outOfOrderSegments => stats.outOfOrderSegments
  | .overlappingSegments => stats.overlappingSegments
  | .gaps => stats.gaps

/-- All that a counter of the table stands for. -/
def FlowTable.totalCounter (table : FlowTable) (counter : ReassemblyCounter) : Nat :=
  table.leftCounter counter + (table.flows.map fun flow => flow.counter counter).sum

/-- The flows that left the table. -/
def FlowTable.flowsLeft (table : FlowTable) : Nat :=
  table.flowsClosedFin + table.flowsClosedRst + table.flowsEvictedIdle + table.flowsEvictedCapacity

/-! ### What segments add -/

/-- How often processing a segment and the flush it starts count a counter up. -/
def segmentIncrements (counter : ReassemblyCounter) (state : TcpReassemblyDirection)
    (packet : PacketInfo) : Nat :=
  (tcpReassemblyProcessSegment state packet.tcpSequence packet.tcpFlags
    packet.payloadBytes).1.counter counter - state.counter counter

/-- `flow_decode_stream_app` gets as far as processing the segment. -/
def feedsSegment (flow : FlowInfo) (packet : PacketInfo) : Bool :=
  packet.protocol = .tcp && packet.hasTcpSequence && !flow.appClassified && bearsPayload packet

def FlowVisit.increments (counter : ReassemblyCounter) (flow : FlowInfo) : FlowVisit → Nat
  | .decode direction packet =>
      if feedsSegment flow packet then
        match flowPrepareReassemblyDirection flow direction with
        | (_, false) => 0
        | (prepared, true) => segmentIncrements counter (prepared.tcp direction) packet
      else 0
  | _ => 0

/-- Only a visit that decodes processes a segment. -/
def operationIncrements (counter : ReassemblyCounter) (table : FlowTable) :
    FlowOperation → Nat
  | .visit index visit =>
      match table.flows[index]? with
      | none => 0
      | some flow => visit.increments counter flow
  | _ => 0

/-! ### Snapshots -/

section Snapshot

theorem snapshotFlow_fold (flows : List FlowInfo) (start : FlowTableStats × Nat)
    (counter : ReassemblyCounter) :
    (flows.foldl snapshotFlow start).1.counter counter =
      start.1.counter counter + (flows.map fun flow => flow.counter counter).sum := by
  induction flows generalizing start with
  | nil => rfl
  | cons flow flows inductionHypothesis =>
      rw [List.foldl_cons, inductionHypothesis, List.map_cons, List.sum_cons, ← Nat.add_assoc]
      congr 1
      cases counter <;> rfl

theorem flowTableSnapshotStats_counter (table : FlowTable) (counter : ReassemblyCounter) :
    (flowTableSnapshotStats table).counter counter = table.totalCounter counter := by
  have scanned := fun start => snapshotFlow_fold table.flows start counter
  cases counter <;> exact scanned _

end Snapshot

/-! ### Leaving the table -/

section Leaving

variable {table : FlowTable} {flow : FlowInfo} {index now : Nat} {counter : ReassemblyCounter}

/-- The counters of a table's flows, split at one slot. -/
theorem sum_counter (counter : ReassemblyCounter) (found : table.flows[index]? = some flow) :
    (table.flows.map fun flow => flow.counter counter).sum =
      flow.counter counter +
        ((table.flows.eraseIdx index).map fun flow => flow.counter counter).sum := by
  obtain ⟨bound, rfl⟩ := List.getElem?_eq_some_iff.mp found
  have perm := (List.getElem_cons_eraseIdx_perm bound).map fun flow => flow.counter counter
  rw [← perm.sum_eq, List.map_cons, List.sum_cons]

/-- What a flow had counted is added to the table as it leaves. -/
theorem removeFlowAt_totalCounter (table : FlowTable) (index : Nat) (counter : ReassemblyCounter) :
    (removeFlowAt table index).totalCounter counter = table.totalCounter counter := by
  cases found : table.flows[index]? with
  | none => rw [removeFlowAt, found]
  | some flow =>
      have split := sum_counter counter found
      have added : (removeFlowAt table index).leftCounter counter =
          table.leftCounter counter + flow.counter counter := by
        rw [removeFlowAt, found]
        cases counter <;> exact Nat.add_assoc _ _ _
      rw [FlowTable.totalCounter, FlowTable.totalCounter, added, removeFlowAt_flows]
      omega

theorem evictIdleAt_totalCounter (table : FlowTable) (index : Nat) :
    (evictIdleAt table index).totalCounter counter = table.totalCounter counter :=
  removeFlowAt_totalCounter { table with flowsEvictedIdle := table.flowsEvictedIdle + 1 } index
    counter

theorem evictClosedAt_totalCounter (table : FlowTable) (index : Nat) :
    (evictClosedAt table index).totalCounter counter = table.totalCounter counter :=
  evictClosedAt_frame table index (fun table => table.totalCounter counter)
    (fun table index => removeFlowAt_totalCounter table index counter) (fun _ => rfl) fun _ => rfl

theorem evictOldestFlow_totalCounter (table : FlowTable) :
    (evictOldestFlow table).totalCounter counter = table.totalCounter counter := by
  unfold evictOldestFlow
  split
  · rfl
  · exact removeFlowAt_totalCounter
      { table with flowsEvictedCapacity := table.flowsEvictedCapacity + 1 } _ counter

/-- The ways in which a removal and the flow counters move together. -/
theorem removeFlowAt_flowsLeft (table : FlowTable) (index : Nat) :
    (removeFlowAt table index).flowsLeft = table.flowsLeft := by
  unfold removeFlowAt
  split <;> rfl

theorem length_removeFlowAt (found : table.flows[index]? = some flow) :
    (removeFlowAt table index).flows.length + 1 = table.flows.length := by
  have bound := (List.getElem?_eq_some_iff.mp found).1
  rw [removeFlowAt_flows, List.length_eraseIdx_of_lt bound]
  omega

/-- A flow that is counted and removed moves from the table to a counter. -/
theorem flowsLeft_counted {counted : FlowTable} (found : table.flows[index]? = some flow)
    (sameFlows : counted.flows = table.flows) (more : counted.flowsLeft = table.flowsLeft + 1) :
    (removeFlowAt counted index).flows.length + (removeFlowAt counted index).flowsLeft =
      table.flows.length + table.flowsLeft := by
  have shorter := @length_removeFlowAt counted flow index (by rw [sameFlows]; exact found)
  have left := removeFlowAt_flowsLeft counted index
  rw [sameFlows] at shorter
  omega

theorem evictIdleAt_flowsLeft (found : table.flows[index]? = some flow) :
    (evictIdleAt table index).flows.length + (evictIdleAt table index).flowsLeft =
      table.flows.length + table.flowsLeft := by
  refine flowsLeft_counted found rfl ?_
  simp only [FlowTable.flowsLeft]
  omega

theorem evictClosedAt_flowsLeft (found : table.flows[index]? = some flow) :
    (evictClosedAt table index).flows.length + (evictClosedAt table index).flowsLeft =
      table.flows.length + table.flowsLeft := by
  simp only [evictClosedAt, found]
  split
  · refine flowsLeft_counted found rfl ?_
    simp only [FlowTable.flowsLeft]
    omega
  · refine flowsLeft_counted found rfl ?_
    simp only [FlowTable.flowsLeft]
    omega

theorem evictOldestFlow_flowsLeft (table : FlowTable) :
    (evictOldestFlow table).flows.length + (evictOldestFlow table).flowsLeft =
      table.flows.length + table.flowsLeft := by
  unfold evictOldestFlow
  split
  · rfl
  next nonempty =>
    have bound := oldestIndex_lt (Nat.pos_of_ne_zero nonempty)
    refine flowsLeft_counted (List.getElem?_eq_getElem bound) rfl ?_
    simp only [FlowTable.flowsLeft]
    omega

theorem flowTableEvictIdle_flowsLeft (table : FlowTable) (now : Nat) :
    (flowTableEvictIdle table now).flows.length + (flowTableEvictIdle table now).flowsLeft =
      table.flows.length + table.flowsLeft := by
  unfold flowTableEvictIdle
  split
  · rfl
  · exact sweep_invariant
      (fun current : FlowTable => current.flows.length + current.flowsLeft =
        table.flows.length + table.flowsLeft)
      (fun current index flow found _ same => (evictIdleAt_flowsLeft found).trans same) rfl

theorem flowTableEvictClosed_flowsLeft (table : FlowTable) :
    (flowTableEvictClosed table).flows.length + (flowTableEvictClosed table).flowsLeft =
      table.flows.length + table.flowsLeft :=
  sweep_invariant
    (fun current : FlowTable => current.flows.length + current.flowsLeft =
      table.flows.length + table.flowsLeft)
    (fun _ _ _ found _ same => (evictClosedAt_flowsLeft found).trans same) rfl

theorem flowTableEvictIdle_totalCounter (table : FlowTable) (now : Nat) :
    (flowTableEvictIdle table now).totalCounter counter = table.totalCounter counter :=
  flowTableEvictIdle_frame _ _ (fun table => table.totalCounter counter) evictIdleAt_totalCounter

theorem flowTableEvictClosed_totalCounter (table : FlowTable) :
    (flowTableEvictClosed table).totalCounter counter = table.totalCounter counter :=
  flowTableEvictClosed_frame _ (fun table => table.totalCounter counter) evictClosedAt_totalCounter

/-- The evictions of a lookup only move flows from the table to the counters. -/
theorem afterEvictions_conserved (table : FlowTable) (key : FlowKey) (now : Nat) :
    (afterEvictions table key now).flows.length + (afterEvictions table key now).flowsLeft =
        table.flows.length + table.flowsLeft ∧
      ∀ counter, (afterEvictions table key now).totalCounter counter =
        table.totalCounter counter := by
  have stale : (evictStaleFlows table now).flows.length + (evictStaleFlows table now).flowsLeft =
        table.flows.length + table.flowsLeft ∧
      ∀ counter, (evictStaleFlows table now).totalCounter counter =
        table.totalCounter counter := by
    refine ⟨(flowTableEvictClosed_flowsLeft _).trans (flowTableEvictIdle_flowsLeft table now), ?_⟩
    intro counter
    exact (flowTableEvictClosed_totalCounter _).trans (flowTableEvictIdle_totalCounter table now)
  simp only [afterEvictions]
  split
  · exact stale
  · unfold makeRoomForFlow
    split
    · refine ⟨(evictOldestFlow_flowsLeft _).trans stale.1, ?_⟩
      intro counter
      exact (evictOldestFlow_totalCounter _).trans (stale.2 counter)
    · exact stale

end Leaving

/-! ### Visits -/

/-- A direction without a stream has counted nothing, unless the flow is classified. -/
def FlowInfo.Uncounted (flow : FlowInfo) : Prop :=
  flow.appClassified = true ∨ ∀ direction counter,
    (flow.tcp direction).stream.data = none → (flow.tcp direction).counter counter = 0

section Visits

variable {flow : FlowInfo} {counter : ReassemblyCounter} {direction : FlowDirection}
variable {packet : PacketInfo}

theorem freshFlow_uncounted (streamBufferBytes : Nat) (key : FlowKey) (now : Nat) :
    (freshFlow streamBufferBytes key now).Uncounted := by
  refine Or.inr fun direction counter _ => ?_
  cases direction <;> cases counter <;> rfl

/-- Counters are read through the two directions only. -/
theorem counter_congr {other : FlowInfo}
    (same : ∀ side, (other.tcp side).counter counter = (flow.tcp side).counter counter) :
    other.counter counter = flow.counter counter :=
  congrArg₂ (· + ·) (same .aToB) (same .bToA)

theorem counter_release (tcp : TcpReassemblyDirection) (counter : ReassemblyCounter) :
    (tcpReassemblyDirectionReleaseBuffers tcp).counter counter = tcp.counter counter := by
  cases counter <;> rfl

theorem counter_classifyFlow (flow : FlowInfo) (app : AppInfo) (counter : ReassemblyCounter) :
    (classifyFlow flow app).counter counter = flow.counter counter := by
  apply counter_congr
  intro side
  rw [classifyFlow_tcp, counter_release]

/-- Preparing a direction loses no count. -/
theorem counter_preparedTcp (direction : FlowDirection) (counter : ReassemblyCounter)
    (unclassified : flow.appClassified = false)
    (uncounted : flow.Uncounted) :
    (preparedTcp flow direction).counter counter = (flow.tcp direction).counter counter := by
  unfold preparedTcp
  split_ifs with allocated
  · rfl
  · rcases uncounted with classified | nothing
    · rw [unclassified] at classified
      contradiction
    · rw [nothing direction counter (not_not.mp allocated)]
      cases counter <;> rfl

/-- The counters of a flow whose direction processed a segment. -/
theorem counter_processed {fed : FlowInfo} (unclassified : flow.appClassified = false)
    (uncounted : flow.Uncounted)
    (tcp : ∀ side, fed.tcp side =
      if side = direction then processedTcp flow direction packet else flow.tcp side) :
    fed.counter counter = flow.counter counter +
      segmentIncrements counter (preparedTcp flow direction) packet := by
  have prepared := counter_preparedTcp direction counter unclassified
    uncounted
  have grown := (spends_processSegment 0 (preparedTcp flow direction) packet.tcpSequence
    packet.tcpFlags packet.payloadBytes).counters_le counter
  have processed : (processedTcp flow direction packet).counter counter =
      (flow.tcp direction).counter counter +
        segmentIncrements counter (preparedTcp flow direction) packet := by
    rw [segmentIncrements, ← prepared]
    exact (Nat.add_sub_of_le grown).symm
  have sides : ∀ flow : FlowInfo, flow.counter counter =
      (flow.tcp .aToB).counter counter + (flow.tcp .bToA).counter counter := fun _ => rfl
  rw [sides, sides, tcp, tcp]
  cases direction with
  | aToB =>
      rw [if_pos rfl, if_neg (by decide), processed]
      omega
  | bToA =>
      rw [if_neg (by decide), if_pos rfl, processed]
      omega

/-- A visit that decodes adds what it processed, and a direction that counted keeps its stream
until the flow is classified. -/
theorem decode_counter (buffered : 0 < flow.streamBufferBytes) (uncounted : flow.Uncounted) :
    (∀ counter, (flowDecodeStreamApp flow direction packet).1.counter counter =
      flow.counter counter + (FlowVisit.decode direction packet).increments counter flow) ∧
      (flowDecodeStreamApp flow direction packet).1.Uncounted := by
  by_cases feeds : feedsSegment flow packet = true
  · have decoded :
        flowDecodeStreamApp flow direction packet = feedStream flow direction packet := by
      simp only [feedsSegment, Bool.and_eq_true, decide_eq_true_eq, Bool.not_eq_true'] at feeds
      simp [flowDecodeStreamApp, feeds]
    have unclassified : flow.appClassified = false := by
      simp only [feedsSegment, Bool.and_eq_true, Bool.not_eq_true'] at feeds
      exact feeds.1.2
    obtain ⟨prepared, prepareEq, preparedEq⟩ := flowPrepare_tcp flow direction buffered
    obtain ⟨fed, tcp, -, -, classifiedEq, outcome⟩ :=
      feedStream_cases flow direction packet buffered
    have counted : ∀ counter, fed.counter counter =
        flow.counter counter + (FlowVisit.decode direction packet).increments counter flow := by
      intro counter
      rw [FlowVisit.increments, if_pos feeds, prepareEq]
      simp only [preparedEq]
      exact counter_processed unclassified uncounted tcp
    rw [decoded]
    rcases outcome with same | ⟨app, classified⟩
    · rw [same]
      refine ⟨counted, ?_⟩
      rcases uncounted with already | nothing
      · rw [unclassified] at already
        contradiction
      · refine Or.inr fun side counter empty => ?_
        rw [tcp] at empty ⊢
        split_ifs at empty ⊢ with own
        · exact absurd empty (processedTcp_allocated flow direction packet)
        · exact nothing side counter empty
    · rw [classified]
      refine ⟨fun counter => ?_, Or.inl rfl⟩
      rw [counter_classifyFlow, counted]
  · have nothing : ∀ counter,
        (FlowVisit.decode direction packet).increments counter flow = 0 := by
      intro counter
      rw [FlowVisit.increments, if_neg feeds]
    have outcome : (flowDecodeStreamApp flow direction packet).1 = flow ∨
        (flowDecodeStreamApp flow direction packet).1 = flow.setTcp direction
          (tcpReassemblyTrackFlags (flow.tcp direction) packet.tcpFlags) := by
      unfold flowDecodeStreamApp
      split_ifs with skipped quiet
      · exact Or.inl rfl
      · exact Or.inr rfl
      · exfalso
        apply feeds
        simp only [Bool.or_eq_true, not_or, decide_eq_true_eq, Bool.not_eq_true', not_not,
          Bool.not_eq_true, Bool.not_eq_false] at skipped quiet
        simp [feedsSegment, skipped, quiet]
    rcases outcome with same | tracked
    · rw [same]
      refine ⟨fun counter => ?_, uncounted⟩
      rw [nothing]
      rfl
    · -- tracking flags moves neither counters nor the stream
      have sides : ∀ side, ((flow.setTcp direction
          (tcpReassemblyTrackFlags (flow.tcp direction) packet.tcpFlags)).tcp side).stream =
            (flow.tcp side).stream ∧
          ∀ counter, ((flow.setTcp direction
            (tcpReassemblyTrackFlags (flow.tcp direction) packet.tcpFlags)).tcp side).counter
              counter = (flow.tcp side).counter counter := by
        intro side
        rw [tcp_setTcp]
        split_ifs with own
        · rw [own]
          exact ⟨rfl, fun counter => by cases counter <;> rfl⟩
        · exact ⟨rfl, fun counter => rfl⟩
      rw [tracked]
      refine ⟨fun counter => ?_, ?_⟩
      · rw [nothing, counter_congr fun side => (sides side).2 counter]
        rfl
      · rcases uncounted with classified | empty
        · exact Or.inl (by rw [setTcp_appClassified]; exact classified)
        · refine Or.inr fun side counter noStream => ?_
          rw [(sides side).1] at noStream
          rw [(sides side).2]
          exact empty side counter noStream

/-- What a visit adds to the counters of its flow. -/
theorem visit_counter (visit : FlowVisit) (buffered : 0 < flow.streamBufferBytes)
    (uncounted : flow.Uncounted) :
    (∀ counter, (visit.apply flow).counter counter =
      flow.counter counter + visit.increments counter flow) ∧ (visit.apply flow).Uncounted := by
  cases visit with
  | update packet now direction =>
      refine ⟨fun counter => counter_congr fun side => ?_, ?_⟩
      · rw [FlowVisit.apply, flowUpdatePacket_tcp]
      · simpa only [FlowInfo.Uncounted, FlowVisit.apply, flowUpdatePacket_appClassified,
          flowUpdatePacket_tcp] using uncounted
  | decode direction packet => exact decode_counter buffered uncounted
  | classify packet =>
      rcases classifyFromPacket_cases flow packet with same | ⟨app, classified⟩
      · rw [FlowVisit.apply, same]
        exact ⟨fun counter => rfl, uncounted⟩
      · rw [FlowVisit.apply, classified]
        exact ⟨fun counter => counter_classifyFlow flow app counter, Or.inl rfl⟩
  | print => exact ⟨fun counter => rfl, uncounted⟩

end Visits

/-! ### One operation -/

section Step

variable {table : FlowTable}

theorem visitFlowAt_totalCounter (wellformed : table.Wellformed)
    (uncounted : ∀ flow ∈ table.flows, flow.Uncounted) (index : Nat) (visit : FlowVisit)
    (counter : ReassemblyCounter) :
    (visitFlowAt table index visit).totalCounter counter =
      table.totalCounter counter + operationIncrements counter table (.visit index visit) := by
  cases found : table.flows[index]? with
  | none => simp only [visitFlowAt, operationIncrements, found, Nat.add_zero]
  | some flow =>
      have member := List.mem_of_getElem? found
      have buffered : 0 < flow.streamBufferBytes := by
        rw [wellformed.sized flow member]
        exact wellformed.buffered
      have visited := (visit_counter visit buffered (uncounted flow member)).1 counter
      have before := sum_counter counter found
      rw [visitFlowAt_of_slot found]
      simp only [operationIncrements, found, FlowTable.totalCounter]
      have bound := (List.getElem?_eq_some_iff.mp found).1
      have after := @sum_counter { table with flows := table.flows.set index (visit.apply flow) } _
        index counter (List.getElem?_set_self bound)
      have rest : (table.flows.set index (visit.apply flow)).eraseIdx index =
          table.flows.eraseIdx index := List.eraseIdx_set_eq
      simp only [rest] at after
      have left : FlowTable.leftCounter
          { table with flows := table.flows.set index (visit.apply flow) } counter =
            table.leftCounter counter := by cases counter <;> rfl
      omega

/-- A lookup creates at most one flow, which has counted nothing. -/
theorem getOrCreate_conserved (wellformed : table.Wellformed)
    (conserved : table.flowsCreated = table.flows.length + table.flowsLeft) (packet : PacketInfo)
    (now : Nat) :
    (flowTableGetOrCreate table packet now).1.flowsCreated =
        (flowTableGetOrCreate table packet now).1.flows.length +
          (flowTableGetOrCreate table packet now).1.flowsLeft ∧
      ∀ counter, (flowTableGetOrCreate table packet now).1.totalCounter counter =
        table.totalCounter counter := by
  cases tracked : trackedAs packet with
  | none =>
      rw [flowTableGetOrCreate_untracked tracked]
      exact ⟨conserved, fun counter => rfl⟩
  | some keyed =>
      rcases keyed with ⟨key, direction⟩
      have evicted := afterEvictions_conserved table key now
      have created := afterEvictions_flowsCreated table key now
      rcases flowTableGetOrCreate_spec now wellformed tracked with
        ⟨_, _, _, _, _, found⟩ | ⟨_, _, fresh⟩
      · rw [found]
        refine ⟨?_, evicted.2⟩
        show (afterEvictions table key now).flowsCreated =
          (afterEvictions table key now).flows.length + (afterEvictions table key now).flowsLeft
        omega
      · rw [fresh]
        have left : (createFlow (afterEvictions table key now) key now).flowsLeft =
            (afterEvictions table key now).flowsLeft := rfl
        refine ⟨?_, fun counter => ?_⟩
        · rw [left]
          simp only [createFlow, List.length_append, List.length_singleton]
          omega
        · rw [← evicted.2 counter]
          have same : (createFlow (afterEvictions table key now) key now).leftCounter counter =
              (afterEvictions table key now).leftCounter counter := by cases counter <;> rfl
          have nothing : (freshFlow (afterEvictions table key now).streamBufferBytes key
              now).counter counter = 0 := by cases counter <;> rfl
          rw [FlowTable.totalCounter, FlowTable.totalCounter, same]
          simp only [createFlow, List.map_append, List.map_cons, List.map_nil, List.sum_append,
            List.sum_cons, List.sum_nil, nothing, Nat.add_zero]

/-- What one operation does to the two laws. -/
theorem operation_conserved (wellformed : table.Wellformed)
    (uncounted : ∀ flow ∈ table.flows, flow.Uncounted)
    (conserved : table.flowsCreated = table.flows.length + table.flowsLeft)
    (operation : FlowOperation) :
    (flowOperations.next table operation).flowsCreated =
        (flowOperations.next table operation).flows.length +
          (flowOperations.next table operation).flowsLeft ∧
      ∀ counter, (flowOperations.next table operation).totalCounter counter =
        table.totalCounter counter + operationIncrements counter table operation := by
  cases operation with
  | getOrCreate packet now => exact getOrCreate_conserved wellformed conserved packet now
  | visit index visit =>
      refine ⟨?_, visitFlowAt_totalCounter wellformed uncounted index visit⟩
      show (visitFlowAt table index visit).flowsCreated =
        _ + (visitFlowAt table index visit).flowsLeft
      unfold visitFlowAt
      split
      next missing =>
        simpa only [Machine.next, flowOperations, visitFlowAt, missing] using conserved
      next flow found =>
        simp only [Machine.next, flowOperations, visitFlowAt, found, List.length_set]
        exact conserved
  | evictIdle now =>
      refine ⟨?_, fun counter => flowTableEvictIdle_totalCounter table now⟩
      have created : (flowTableEvictIdle table now).flowsCreated = table.flowsCreated :=
        flowTableEvictIdle_frame _ _ FlowTable.flowsCreated evictIdleAt_flowsCreated
      have moved := flowTableEvictIdle_flowsLeft table now
      show (flowTableEvictIdle table now).flowsCreated =
        (flowTableEvictIdle table now).flows.length + (flowTableEvictIdle table now).flowsLeft
      omega
  | evictClosed =>
      refine ⟨?_, fun counter => flowTableEvictClosed_totalCounter table⟩
      have created : (flowTableEvictClosed table).flowsCreated = table.flowsCreated :=
        flowTableEvictClosed_frame _ FlowTable.flowsCreated evictClosedAt_flowsCreated
      have moved := flowTableEvictClosed_flowsLeft table
      show (flowTableEvictClosed table).flowsCreated =
        (flowTableEvictClosed table).flows.length + (flowTableEvictClosed table).flowsLeft
      omega

end Step

/-! ### Whole runs -/

section Runs

variable {table initial : FlowTable} {maxFlows streamBufferBytes timeoutSeconds : Nat}

theorem FlowTable.Operated.uncounted (operated : table.Operated) :
    ∀ flow ∈ table.flows, flow.Uncounted :=
  operated.forall_flows
    (fun _ now key _ streamBufferBytes _ => freshFlow_uncounted streamBufferBytes key now)
    fun visit _ buffered uncounted => (visit_counter visit buffered uncounted).2

/-- Both laws over a run, from any table that operations lead to. -/
theorem conserved_run (operated : table.Operated)
    (conserved : table.flowsCreated = table.flows.length + table.flowsLeft)
    (operations : List FlowOperation) :
    (flowOperations.run table operations).flowsCreated =
        (flowOperations.run table operations).flows.length +
          (flowOperations.run table operations).flowsLeft ∧
      ∀ counter, (flowOperations.run table operations).totalCounter counter =
        table.totalCounter counter +
          flowOperations.tally (operationIncrements counter) table operations := by
  induction operations generalizing table with
  | nil => exact ⟨conserved, fun counter => rfl⟩
  | cons operation operations inductionHypothesis =>
      have step := operation_conserved operated.wellformed operated.uncounted conserved operation
      have rest := inductionHypothesis (operated.next operation) step.1
      refine ⟨rest.1, fun counter => ?_⟩
      rw [Machine.run_cons, rest.2, step.2, Machine.tally_cons, Nat.add_assoc]

/-- Flow accounting is conserved: at every point of a run of capture-path operations the flows
created are those in the table and those that left it in one of four ways, and every total of a
snapshot is what the processed segments counted. -/
theorem flow_accounting_conserved
    (initialized : flowTableInit maxFlows streamBufferBytes timeoutSeconds = some initial)
    (operations : List FlowOperation) :
    let table := flowOperations.run initial operations
    table.flowsCreated = table.flows.length + table.flowsClosedFin + table.flowsClosedRst +
        table.flowsEvictedIdle + table.flowsEvictedCapacity ∧
      ∀ counter, (flowTableSnapshotStats table).counter counter =
        flowOperations.tally (operationIncrements counter) initial operations := by
  have operated : initial.Operated :=
    ⟨maxFlows, streamBufferBytes, timeoutSeconds, initial, initialized, Machine.Reachable.refl _⟩
  have empty : initial.flowsCreated = initial.flows.length + initial.flowsLeft ∧
      ∀ counter, initial.totalCounter counter = 0 := by
    unfold flowTableInit at initialized
    split at initialized
    · contradiction
    · rw [← Option.some.inj initialized]
      exact ⟨rfl, fun counter => by cases counter <;> rfl⟩
  have whole := conserved_run operated empty.1 operations
  refine ⟨?_, fun counter => ?_⟩
  · have created := whole.1
    unfold FlowTable.flowsLeft at created
    omega
  · rw [flowTableSnapshotStats_counter, whole.2, empty.2, Nat.zero_add]

/-- One flow that saw a retransmission leaves the table, and the snapshot still counts it. -/
def retransmittedFlow : List FlowOperation :=
  [.getOrCreate (sampleSegment .aToB 100 0 [1, 2]) 5,
    .visit 0 (.decode .aToB (sampleSegment .aToB 100 0 [1, 2])),
    .visit 0 (.decode .aToB (sampleSegment .aToB 100 0 [1, 2])),
    .evictIdle 90]

theorem flow_accounting_conserved_retransmittedFlow :
    let table := flowOperations.run
      { maxFlows := 2, streamBufferBytes := 8, timeoutSeconds := 60 } retransmittedFlow
    table.flowsCreated = table.flows.length + table.flowsClosedFin + table.flowsClosedRst +
        table.flowsEvictedIdle + table.flowsEvictedCapacity ∧
      ∀ counter, (flowTableSnapshotStats table).counter counter =
        flowOperations.tally (operationIncrements counter)
          { maxFlows := 2, streamBufferBytes := 8, timeoutSeconds := 60 } retransmittedFlow :=
  flow_accounting_conserved (show flowTableInit 2 8 60 = some _ from by decide) retransmittedFlow

example : flowOperations.tally (operationIncrements .retransmissions)
    { maxFlows := 2, streamBufferBytes := 8, timeoutSeconds := 60 } retransmittedFlow = 1 := by
  decide +kernel

end Runs

end MiniSniffer
