import Mathlib.Algebra.Order.BigOperators.Group.List
import Mathlib.Algebra.Order.Ring.Nat
import MiniSniffer.Capture.Accounting

/-!
Contract: the memory that reassembly holds.

Owns the bound from the smallest part up: what one direction may hold, that the directions of a
classified flow hold nothing, and that all flows together stay within what `flow_table_init` checked
its limits against. It holds of every table that capture-path operations lead to.

Does not own what a segment does to a direction's memory: see `Tcp.Resources`.
-/

namespace MiniSniffer

open Foundation

/-! ### Directions -/

namespace TcpReassemblyDirection

/-- A direction that was never prepared, or was released. -/
structure Released (tcp : TcpReassemblyDirection) : Prop where
  stream_eq : tcp.stream = {}
  pending_eq : tcp.pending = []
  pendingBytes_eq : tcp.pendingBytes = 0

/-- What the configuration allows a direction to hold. -/
structure WithinBounds (streamBufferBytes : Nat) (tcp : TcpReassemblyDirection) : Prop where
  few : tcp.pending.length ≤ tcpReassemblyMaxPendingSegments
  nonempty : ∀ segment ∈ tcp.pending, 0 < segment.data.length
  pendingBytes_eq : tcp.pendingBytes = tcp.pendingLengths.sum
  pendingBytes_le : tcp.pendingBytes ≤ streamBufferBytes
  readable_le : tcp.stream.readable.length ≤ streamBufferBytes
  capacity_le : tcp.stream.capacity ≤ streamBufferBytes

/-- The bytes allocated for a direction. -/
def memory (tcp : TcpReassemblyDirection) : Nat := tcp.stream.capacity + tcp.pendingBytes

end TcpReassemblyDirection

open TcpReassemblyDirection

section Directions

variable {streamBufferBytes : Nat} {tcp : TcpReassemblyDirection}

theorem TcpReassemblyDirection.Stored.withinBounds (stored : tcp.Stored streamBufferBytes) :
    tcp.WithinBounds streamBufferBytes where
  few := stored.few
  nonempty := stored.nonempty
  pendingBytes_eq := stored.pendingBytes_eq
  pendingBytes_le := stored.pendingBytes_le
  readable_le := by
    rw [← stored.capacity_eq]
    exact stored.streamValid.readable_le
  capacity_le := Nat.le_of_eq stored.capacity_eq

theorem TcpReassemblyDirection.Released.withinBounds (released : tcp.Released) :
    tcp.WithinBounds streamBufferBytes where
  few := by
    rw [released.pending_eq]
    exact Nat.zero_le _
  nonempty := by simp [released.pending_eq]
  pendingBytes_eq := by
    rw [released.pendingBytes_eq, pendingLengths, released.pending_eq]
    rfl
  pendingBytes_le := by
    rw [released.pendingBytes_eq]
    exact Nat.zero_le _
  readable_le := by
    rw [released.stream_eq]
    exact Nat.zero_le _
  capacity_le := by
    rw [released.stream_eq]
    exact Nat.zero_le _

theorem released_releaseBuffers (tcp : TcpReassemblyDirection) :
    (tcpReassemblyDirectionReleaseBuffers tcp).Released := ⟨rfl, rfl, rfl⟩

/-- Flag tracking reads and writes no storage. -/
theorem released_trackFlags (released : tcp.Released) (flags : UInt8) :
    (tcpReassemblyTrackFlags tcp flags).Released :=
  ⟨released.stream_eq, released.pending_eq, released.pendingBytes_eq⟩

end Directions

/-! ### Flows -/

/-- Each direction holds an initialised store or nothing, and nothing once the flow is
classified. -/
structure FlowInfo.Bounded (flow : FlowInfo) : Prop where
  either : ∀ direction, (flow.tcp direction).Stored flow.streamBufferBytes ∨
    (flow.tcp direction).Released
  classified : flow.appClassified = true → ∀ direction, (flow.tcp direction).Released

def FlowInfo.memory (flow : FlowInfo) : Nat := flow.aToB.tcp.memory + flow.bToA.tcp.memory

section Flows

variable {flow : FlowInfo} {direction : FlowDirection} {packet : PacketInfo}

theorem FlowInfo.Bounded.withinBounds (bounded : flow.Bounded) (direction : FlowDirection) :
    (flow.tcp direction).WithinBounds flow.streamBufferBytes := by
  rcases bounded.either direction with stored | released
  · exact stored.withinBounds
  · exact released.withinBounds

theorem FlowInfo.Bounded.memory_le (bounded : flow.Bounded) :
    flow.memory ≤ 4 * flow.streamBufferBytes := by
  have aToB := bounded.withinBounds .aToB
  have bToA := bounded.withinBounds .bToA
  have aCapacity : flow.aToB.tcp.stream.capacity ≤ flow.streamBufferBytes := aToB.capacity_le
  have aPending : flow.aToB.tcp.pendingBytes ≤ flow.streamBufferBytes := aToB.pendingBytes_le
  have bCapacity : flow.bToA.tcp.stream.capacity ≤ flow.streamBufferBytes := bToA.capacity_le
  have bPending : flow.bToA.tcp.pendingBytes ≤ flow.streamBufferBytes := bToA.pendingBytes_le
  unfold FlowInfo.memory TcpReassemblyDirection.memory
  omega

theorem freshFlow_bounded (streamBufferBytes : Nat) (key : FlowKey) (now : Nat) :
    (freshFlow streamBufferBytes key now).Bounded where
  either := by
    intro direction
    right
    cases direction <;> exact ⟨rfl, rfl, rfl⟩
  classified := by
    intro classified
    contradiction

theorem classifyFlow_bounded (flow : FlowInfo) (app : AppInfo) :
    (classifyFlow flow app).Bounded := by
  have released : ∀ direction, ((classifyFlow flow app).tcp direction).Released := by
    intro direction
    rw [classifyFlow_tcp]
    exact released_releaseBuffers _
  exact ⟨fun direction => Or.inr (released direction), fun _ => released⟩

/-- A direction is processed in an initialised store. -/
theorem preparedTcp_stored (buffered : 0 < flow.streamBufferBytes) (bounded : flow.Bounded) :
    (preparedTcp flow direction).Stored flow.streamBufferBytes := by
  unfold preparedTcp
  split_ifs with allocated
  · rcases bounded.either direction with stored | released
    · exact stored
    · rw [released.stream_eq] at allocated
      exact absurd rfl allocated
  · exact tcpReassemblyDirectionInit_stored (tcpReassemblyDirectionInit_eq buffered)

theorem processedTcp_stored (buffered : 0 < flow.streamBufferBytes) (bounded : flow.Bounded) :
    (processedTcp flow direction packet).Stored flow.streamBufferBytes :=
  (spends_processSegment _ _ _ _ _).stored (preparedTcp_stored buffered bounded)

theorem decode_bounded (buffered : 0 < flow.streamBufferBytes) (bounded : flow.Bounded) :
    (flowDecodeStreamApp flow direction packet).1.Bounded := by
  unfold flowDecodeStreamApp
  split_ifs with skipped quiet
  · exact bounded
  · -- flags only
    have tracked : ∀ side, (flow.setTcp direction
        (tcpReassemblyTrackFlags (flow.tcp direction) packet.tcpFlags)).tcp side =
          if side = direction then tcpReassemblyTrackFlags (flow.tcp direction) packet.tcpFlags
          else flow.tcp side := fun side => tcp_setTcp flow direction side _
    refine ⟨fun side => ?_, fun classified side => ?_⟩
    · rw [tracked, setTcp_streamBufferBytes]
      split_ifs
      · rcases bounded.either direction with stored | released
        · exact Or.inl ((spends_trackFlags _ _).stored stored)
        · exact Or.inr (released_trackFlags released _)
      · exact bounded.either side
    · rw [setTcp_appClassified] at classified
      rw [tracked]
      split_ifs
      · exact released_trackFlags (bounded.classified classified direction) _
      · exact bounded.classified classified side
  · have unclassified : flow.appClassified = false := by
      simp only [Bool.or_eq_true, not_or, Bool.not_eq_true] at quiet
      exact quiet.1
    obtain ⟨fed, tcp, -, bytes, classifiedEq, outcome⟩ :=
      feedStream_cases flow direction packet buffered
    rcases outcome with same | ⟨app, classified⟩
    · rw [same]
      refine ⟨fun side => ?_, fun classified => ?_⟩
      · rw [tcp, bytes]
        split_ifs
        · exact Or.inl (processedTcp_stored buffered bounded)
        · exact bounded.either side
      · rw [classifiedEq, unclassified] at classified
        contradiction
    · rw [classified]
      exact classifyFlow_bounded fed app

theorem visit_bounded (visit : FlowVisit) (buffered : 0 < flow.streamBufferBytes)
    (bounded : flow.Bounded) : (visit.apply flow).Bounded := by
  cases visit with
  | update packet now direction =>
      refine ⟨fun side => ?_, fun classified side => ?_⟩
      · rw [FlowVisit.apply, flowUpdatePacket_tcp, flowUpdatePacket_streamBufferBytes]
        exact bounded.either side
      · rw [FlowVisit.apply, flowUpdatePacket_appClassified] at classified
        rw [FlowVisit.apply, flowUpdatePacket_tcp]
        exact bounded.classified classified side
  | decode direction packet => exact decode_bounded buffered bounded
  | classify packet =>
      rcases classifyFromPacket_cases flow packet with same | ⟨app, classified⟩
      · rw [FlowVisit.apply, same]
        exact bounded
      · rw [FlowVisit.apply, classified]
        exact classifyFlow_bounded flow app
  | print => exact ⟨bounded.either, bounded.classified⟩

end Flows

/-! ### Tables -/

section Tables

variable {table initial : FlowTable} {maxFlows streamBufferBytes timeoutSeconds : Nat}

theorem FlowTable.Operated.bounded (operated : table.Operated) :
    ∀ flow ∈ table.flows, flow.Bounded :=
  operated.forall_flows (fun _ now key _ bytes _ => freshFlow_bounded bytes key now)
    fun visit _ buffered bounded => visit_bounded visit buffered bounded

/-- Directions that hold a buffer, two for each flow at most. -/
theorem snapshotFlow_fold_active (flows : List FlowInfo) (snapshot : FlowTableStats)
    (active : Nat) :
    (flows.foldl snapshotFlow (snapshot, active)).2 ≤ active + 2 * flows.length := by
  induction flows generalizing snapshot active with
  | nil => exact Nat.le_refl _
  | cons flow flows inductionHypothesis =>
      have rest := inductionHypothesis (snapshotFlow (snapshot, active) flow).1
        (snapshotFlow (snapshot, active) flow).2
      have atMostOne : ∀ tcp : TcpReassemblyDirection, activeDirection tcp ≤ 1 := by
        intro tcp
        unfold activeDirection
        split_ifs
        · exact Nat.zero_le _
        · exact Nat.le_refl _
      have aToB := atMostOne flow.aToB.tcp
      have bToA := atMostOne flow.bToA.tcp
      have scanned : (snapshotFlow (snapshot, active) flow).2 =
          active + activeDirection flow.aToB.tcp + activeDirection flow.bToA.tcp := rfl
      simp only [Prod.mk.eta] at rest
      rw [List.foldl_cons, List.length_cons]
      omega

theorem streamBytesInUse_le (wellformed : table.Wellformed) :
    (flowTableSnapshotStats table).streamBytesInUse ≤
      (flowTableSnapshotStats table).streamBytesConfiguredMax := by
  have bounded := wellformed.bounded
  show (table.flows.foldl snapshotFlow _).2 * table.streamBufferBytes ≤
    table.maxFlows * table.streamBufferBytes * 2
  rw [Nat.mul_assoc, Nat.mul_comm table.streamBufferBytes 2, ← Nat.mul_assoc]
  apply Nat.mul_le_mul_right
  apply (snapshotFlow_fold_active table.flows _ 0).trans
  omega

theorem sum_memory_le (sized : ∀ flow ∈ table.flows, flow.memory ≤ 4 * streamBufferBytes) :
    (table.flows.map FlowInfo.memory).sum ≤ table.flows.length * (4 * streamBufferBytes) := by
  have bound := List.sum_le_card_nsmul (table.flows.map FlowInfo.memory) (4 * streamBufferBytes)
    (by
      intro bytes member
      obtain ⟨flow, flowMember, rfl⟩ := List.mem_map.mp member
      exact sized flow flowMember)
  rwa [List.length_map, nsmul_eq_mul, Nat.cast_id] at bound

/-- The limits that `flow_table_init` accepts keep all buffers within the hard cap. -/
theorem flowTableInit_capped
    (initialized : flowTableInit maxFlows streamBufferBytes timeoutSeconds = some initial) :
    maxFlows * (4 * streamBufferBytes) ≤ minisnifferMaxTotalReassemblyBytes ∧
      initial.limits = (maxFlows, streamBufferBytes, timeoutSeconds) := by
  unfold flowTableInit at initialized
  split at initialized
  · contradiction
  next valid =>
    simp only [Bool.or_eq_true, decide_eq_true_eq, not_or, Nat.not_lt] at valid
    rw [← Option.some.inj initialized]
    refine ⟨?_, rfl⟩
    have positive : 0 < streamBufferBytes := Nat.pos_of_ne_zero valid.1.1.1.2
    have divided := (Nat.le_div_iff_mul_le positive).mp valid.2
    have quarter := (Nat.le_div_iff_mul_le (show 0 < 4 from by decide)).mp divided
    rwa [Nat.mul_comm 4, ← Nat.mul_assoc]

theorem run_limits (operated : table.Operated) (operations : List FlowOperation) :
    (flowOperations.run table operations).limits = table.limits ∧
      (flowOperations.run table operations).Operated := by
  have kept : ∀ current operation, current.limits = table.limits ∧ current.Operated →
      (flowOperations.next current operation).limits = table.limits ∧
        (flowOperations.next current operation).Operated := by
    intro current operation holds
    exact ⟨(operation_limits holds.2.wellformed operation).trans holds.1,
      holds.2.next operation⟩
  exact Machine.run_preserves kept ⟨rfl, operated⟩ operations

/-- Reassembly memory stays within the configured bound after any capture-path operations. -/
theorem reassembly_memory_bounded
    (initialized : flowTableInit maxFlows streamBufferBytes timeoutSeconds = some initial)
    (operations : List FlowOperation) :
    let table := flowOperations.run initial operations
    (∀ flow ∈ table.flows,
      (∀ direction, (flow.tcp direction).WithinBounds streamBufferBytes) ∧
      (flow.appClassified = true → ∀ direction,
        (flow.tcp direction).stream.data = none ∧ (flow.tcp direction).pending = [])) ∧
      (flowTableSnapshotStats table).streamBytesInUse ≤
        (flowTableSnapshotStats table).streamBytesConfiguredMax ∧
      (table.flows.map FlowInfo.memory).sum ≤ minisnifferMaxTotalReassemblyBytes := by
  intro table
  have start : initial.Operated :=
    ⟨maxFlows, streamBufferBytes, timeoutSeconds, initial, initialized, Machine.Reachable.refl _⟩
  have capped := flowTableInit_capped initialized
  have reached := run_limits start operations
  have limits : table.limits = (maxFlows, streamBufferBytes, timeoutSeconds) :=
    reached.1.trans capped.2
  simp only [FlowTable.limits, Prod.mk.injEq] at limits
  have wellformed : table.Wellformed := reached.2.wellformed
  have bounded : ∀ flow ∈ table.flows, flow.Bounded := reached.2.bounded
  have sized : ∀ flow ∈ table.flows, flow.streamBufferBytes = streamBufferBytes := by
    intro flow member
    rw [wellformed.sized flow member, limits.2.1]
  refine ⟨fun flow member => ⟨fun direction => ?_, fun classified direction => ?_⟩,
    streamBytesInUse_le wellformed, ?_⟩
  · rw [← sized flow member]
    exact (bounded flow member).withinBounds direction
  · have released := (bounded flow member).classified classified direction
    exact ⟨by rw [released.stream_eq], released.pending_eq⟩
  · have total : (table.flows.map FlowInfo.memory).sum ≤
        table.flows.length * (4 * streamBufferBytes) := by
      apply sum_memory_le
      intro flow member
      rw [← sized flow member]
      exact (bounded flow member).memory_le
    have count : table.flows.length ≤ maxFlows := by
      rw [← limits.1]
      exact wellformed.bounded
    exact total.trans ((Nat.mul_le_mul_right _ count).trans capped.1)

/-- Two directions in use, one with a segment waiting behind a gap. -/
def waitingSegments : List FlowOperation :=
  [.getOrCreate (sampleSegment .aToB 100 0 [1, 2]) 5,
    .visit 0 (.decode .aToB (sampleSegment .aToB 100 0 [1, 2])),
    .visit 0 (.decode .aToB (sampleSegment .aToB 110 0 [3, 4, 5])),
    .visit 0 (.decode .bToA (sampleSegment .bToA 700 0 [6]))]

theorem reassembly_memory_bounded_waitingSegments :
    let table := flowOperations.run
      { maxFlows := 2, streamBufferBytes := 8, timeoutSeconds := 60 } waitingSegments
    (∀ flow ∈ table.flows,
      (∀ direction, (flow.tcp direction).WithinBounds 8) ∧
      (flow.appClassified = true → ∀ direction,
        (flow.tcp direction).stream.data = none ∧ (flow.tcp direction).pending = [])) ∧
      (flowTableSnapshotStats table).streamBytesInUse ≤
        (flowTableSnapshotStats table).streamBytesConfiguredMax ∧
      (table.flows.map FlowInfo.memory).sum ≤ minisnifferMaxTotalReassemblyBytes :=
  reassembly_memory_bounded (show flowTableInit 2 8 60 = some _ from by decide) waitingSegments

end Tables

end MiniSniffer
