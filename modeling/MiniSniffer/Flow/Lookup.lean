import MiniSniffer.Flow.Table

/-!
Contract: the flow table as a map from keys to flows.

Owns the facts about the table's own operations that every run over it needs:
the eviction passes are filters, removal erases one slot, and a lookup either
finds the packet's flow among the flows that stay or adds a fresh one. What stays
is named `afterEvictions`, so that what a lookup removes can be stated for any
key.

Does not own what happens to a flow after it was looked up.
-/

namespace MiniSniffer

open Foundation

/-- The flow with a key. -/
def flowOf (table : FlowTable) (key : FlowKey) : Option FlowInfo :=
  lookup FlowInfo.key table.flows key

/-! ### Flow directions -/

section Directions

variable (flow : FlowInfo) (direction other : FlowDirection)

@[simp] theorem setTcp_key (tcp : TcpReassemblyDirection) :
    (flow.setTcp direction tcp).key = flow.key := by
  cases direction <;> rfl

@[simp] theorem setTcp_appClassified (tcp : TcpReassemblyDirection) :
    (flow.setTcp direction tcp).appClassified = flow.appClassified := by
  cases direction <;> rfl

@[simp] theorem setTcp_streamBufferBytes (tcp : TcpReassemblyDirection) :
    (flow.setTcp direction tcp).streamBufferBytes = flow.streamBufferBytes := by
  cases direction <;> rfl

@[simp] theorem tcp_setTcp (tcp : TcpReassemblyDirection) :
    (flow.setTcp direction tcp).tcp other = if other = direction then tcp else flow.tcp other := by
  cases direction <;> cases other <;> rfl

variable (packet : PacketInfo) (now : Nat)

@[simp] theorem flowUpdatePacket_key :
    (flowUpdatePacket flow packet now direction).key = flow.key := by
  cases direction <;> rfl

@[simp] theorem flowUpdatePacket_appClassified :
    (flowUpdatePacket flow packet now direction).appClassified = flow.appClassified := by
  cases direction <;> rfl

@[simp] theorem flowUpdatePacket_streamBufferBytes :
    (flowUpdatePacket flow packet now direction).streamBufferBytes = flow.streamBufferBytes := by
  cases direction <;> rfl

@[simp] theorem flowUpdatePacket_tcp :
    (flowUpdatePacket flow packet now direction).tcp other = flow.tcp other := by
  cases direction <;> cases other <;> rfl

@[simp] theorem flowReleaseReassemblyBuffers_key :
    (flowReleaseReassemblyBuffers flow).key = flow.key := rfl

@[simp] theorem flowReleaseReassemblyBuffers_appClassified :
    (flowReleaseReassemblyBuffers flow).appClassified = flow.appClassified := rfl

@[simp] theorem flowReleaseReassemblyBuffers_streamBufferBytes :
    (flowReleaseReassemblyBuffers flow).streamBufferBytes = flow.streamBufferBytes := rfl

@[simp] theorem flowReleaseReassemblyBuffers_tcp :
    (flowReleaseReassemblyBuffers flow).tcp other =
      tcpReassemblyDirectionReleaseBuffers (flow.tcp other) := by
  cases other <;> rfl

end Directions

/-! ### Removal and eviction -/

section Eviction

variable (table : FlowTable) (index now : Nat)

/-- Removal erases the slot and touches no limit and no created or eviction counter. -/
theorem removeFlowAt_flows : (removeFlowAt table index).flows = table.flows.eraseIdx index := by
  unfold removeFlowAt
  cases found : table.flows[index]? with
  | none => exact (List.eraseIdx_of_length_le (List.getElem?_eq_none_iff.mp found)).symm
  | some flow => rfl

/-- The limits that no table operation changes. -/
def FlowTable.limits (table : FlowTable) : Nat × Nat × Nat :=
  (table.maxFlows, table.streamBufferBytes, table.timeoutSeconds)

@[simp] theorem removeFlowAt_limits : (removeFlowAt table index).limits = table.limits := by
  unfold removeFlowAt
  split <;> rfl

@[simp] theorem removeFlowAt_flowsCreated :
    (removeFlowAt table index).flowsCreated = table.flowsCreated := by
  unfold removeFlowAt
  split <;> rfl

@[simp] theorem removeFlowAt_flowsClosedFin :
    (removeFlowAt table index).flowsClosedFin = table.flowsClosedFin := by
  unfold removeFlowAt
  split <;> rfl

theorem evictIdleAt_flows : (evictIdleAt table index).flows = table.flows.eraseIdx index :=
  removeFlowAt_flows _ _

theorem evictClosedAt_flows : (evictClosedAt table index).flows = table.flows.eraseIdx index := by
  unfold evictClosedAt
  cases found : table.flows[index]? with
  | none => exact (List.eraseIdx_of_length_le (List.getElem?_eq_none_iff.mp found)).symm
  | some flow =>
      simp only [removeFlowAt_flows]
      split <;> rfl

/-- Idle eviction keeps exactly the flows that are not idle. -/
theorem flowTableEvictIdle_flows :
    (flowTableEvictIdle table now).flows = table.flows.filter fun flow =>
      !(table.timeoutSeconds ≠ 0 && flowIsIdle table.timeoutSeconds now flow) := by
  unfold flowTableEvictIdle
  split
  next disabled => simp [disabled]
  next enabled => simp [entries_sweep evictIdleAt_flows, enabled]

/-- Closed-flow eviction keeps exactly the flows that are not closed. -/
theorem flowTableEvictClosed_flows :
    (flowTableEvictClosed table).flows = table.flows.filter fun flow => !flowIsClosed flow :=
  entries_sweep evictClosedAt_flows table

/-- The flows that the two passes of a lookup leave. -/
def stays (timeoutSeconds now : Nat) (flow : FlowInfo) : Bool :=
  !(timeoutSeconds ≠ 0 && flowIsIdle timeoutSeconds now flow) && !flowIsClosed flow

theorem evictStaleFlows_flows :
    (evictStaleFlows table now).flows = table.flows.filter (stays table.timeoutSeconds now) := by
  rw [evictStaleFlows, flowTableEvictClosed_flows, flowTableEvictIdle_flows, List.filter_filter]
  congr 1
  funext flow
  exact Bool.and_comm _ _

/-- A projection that removal and the eviction counters leave alone, all passes leave alone. -/
theorem flowTableEvictIdle_frame {Field : Type} (field : FlowTable → Field)
    (frame : ∀ table index, field (evictIdleAt table index) = field table) :
    field (flowTableEvictIdle table now) = field table := by
  unfold flowTableEvictIdle
  split
  · rfl
  · exact sweep_invariant (fun current => field current = field table)
      (fun current place _ _ _ same => (frame current place).trans same) rfl

theorem flowTableEvictClosed_frame {Field : Type} (field : FlowTable → Field)
    (frame : ∀ table index, field (evictClosedAt table index) = field table) :
    field (flowTableEvictClosed table) = field table :=
  sweep_invariant (fun current => field current = field table)
    (fun current place _ _ _ same => (frame current place).trans same) rfl

theorem evictClosedAt_frame {Field : Type} (field : FlowTable → Field)
    (removal : ∀ table index, field (removeFlowAt table index) = field table)
    (rst : ∀ table : FlowTable,
      field { table with flowsClosedRst := table.flowsClosedRst + 1 } = field table)
    (fin : ∀ table : FlowTable,
      field { table with flowsClosedFin := table.flowsClosedFin + 1 } = field table) :
    field (evictClosedAt table index) = field table := by
  unfold evictClosedAt
  split
  · rfl
  · rw [removal]
    split
    · exact rst table
    · exact fin table

theorem evictIdleAt_limits : (evictIdleAt table index).limits = table.limits :=
  removeFlowAt_limits _ _

theorem evictIdleAt_flowsCreated :
    (evictIdleAt table index).flowsCreated = table.flowsCreated :=
  removeFlowAt_flowsCreated _ _

theorem evictIdleAt_flowsClosedFin :
    (evictIdleAt table index).flowsClosedFin = table.flowsClosedFin :=
  removeFlowAt_flowsClosedFin _ _

theorem evictClosedAt_limits : (evictClosedAt table index).limits = table.limits :=
  evictClosedAt_frame table index FlowTable.limits removeFlowAt_limits (fun _ => rfl) fun _ => rfl

theorem evictClosedAt_flowsCreated :
    (evictClosedAt table index).flowsCreated = table.flowsCreated :=
  evictClosedAt_frame table index FlowTable.flowsCreated removeFlowAt_flowsCreated (fun _ => rfl)
    fun _ => rfl

@[simp] theorem evictStaleFlows_limits : (evictStaleFlows table now).limits = table.limits := by
  rw [evictStaleFlows, flowTableEvictClosed_frame _ _ evictClosedAt_limits,
    flowTableEvictIdle_frame _ _ _ evictIdleAt_limits]

@[simp] theorem evictStaleFlows_flowsCreated :
    (evictStaleFlows table now).flowsCreated = table.flowsCreated := by
  rw [evictStaleFlows, flowTableEvictClosed_frame _ _ evictClosedAt_flowsCreated,
    flowTableEvictIdle_frame _ _ _ evictIdleAt_flowsCreated]

/-- A flow that both sides closed and nobody reset. -/
def flowIsFinished (flow : FlowInfo) : Bool := flowIsClosed flow && !flowIsReset flow

/-- The FIN counter grows by the finished flows that leave. -/
theorem flowTableEvictClosed_flowsClosedFin :
    (flowTableEvictClosed table).flowsClosedFin =
      table.flowsClosedFin + (table.flows.filter flowIsFinished).length := by
  have tally : (sweep FlowTable.flows flowIsClosed evictClosedAt table).flowsClosedFin =
      table.flowsClosedFin + ((table.flows.filter flowIsClosed).map fun flow =>
        if flowIsReset flow then 0 else 1).sum := by
    apply tally_sweep FlowTable.flowsClosedFin _ evictClosedAt_flows
    intro current place flow found _
    simp only [evictClosedAt, found]
    rw [removeFlowAt_flowsClosedFin]
    split <;> rfl
  rw [flowTableEvictClosed, tally]
  congr 1
  induction table.flows with
  | nil => rfl
  | cons flow flows inductionHypothesis =>
      by_cases closed : flowIsClosed flow = true
      · by_cases reset : flowIsReset flow = true
        · simpa [flowIsFinished, closed, reset] using inductionHypothesis
        · simpa [flowIsFinished, closed, reset, Nat.add_comm 1] using inductionHypothesis
      · simpa [flowIsFinished, closed] using inductionHypothesis

theorem evictOldestFlow_flows :
    (evictOldestFlow table).flows = table.flows.eraseIdx (oldestIndex table.flows) := by
  unfold evictOldestFlow
  split
  next empty =>
    rw [List.length_eq_zero_iff.mp empty]
    rfl
  next => exact removeFlowAt_flows _ _

@[simp] theorem evictOldestFlow_limits : (evictOldestFlow table).limits = table.limits := by
  unfold evictOldestFlow
  split
  · rfl
  · exact removeFlowAt_limits _ _

@[simp] theorem evictOldestFlow_flowsCreated :
    (evictOldestFlow table).flowsCreated = table.flowsCreated := by
  unfold evictOldestFlow
  split
  · rfl
  · exact removeFlowAt_flowsCreated _ _

section Oldest

/-- One pass of the scan for the oldest flow. -/
def olderIndex (flows : List FlowInfo) (oldest index : Nat) : Nat :=
  match flows[index]?, flows[oldest]? with
  | some flow, some candidate =>
      if flow.lastSeenTime < candidate.lastSeenTime then index else oldest
  | _, _ => oldest

/-- The flow at an index was seen no later than another. -/
def SeenBefore (flows : List FlowInfo) (index : Nat) (flow : FlowInfo) : Prop :=
  ∃ candidate, flows[index]? = some candidate ∧ candidate.lastSeenTime ≤ flow.lastSeenTime

variable {flows : List FlowInfo} {start : Nat} {flow : FlowInfo}

theorem olderIndex_seenBefore (index : Nat) (before : SeenBefore flows start flow) :
    SeenBefore flows (olderIndex flows start index) flow := by
  obtain ⟨candidate, found, earlier⟩ := before
  unfold olderIndex
  rw [found]
  cases slot : flows[index]? with
  | none => exact ⟨candidate, found, earlier⟩
  | some other =>
      simp only
      split_ifs with older
      · exact ⟨other, slot, (Nat.le_of_lt older).trans earlier⟩
      · exact ⟨candidate, found, earlier⟩

theorem olderIndex_own {index : Nat} (bound : start < flows.length)
    (slot : flows[index]? = some flow) : SeenBefore flows (olderIndex flows start index) flow := by
  unfold olderIndex
  rw [slot, List.getElem?_eq_getElem bound]
  simp only
  split_ifs with older
  · exact ⟨flow, slot, Nat.le_refl _⟩
  · exact ⟨flows[start], List.getElem?_eq_getElem bound, Nat.le_of_not_lt older⟩

/-- The scan ends at a flow seen no later than any it passed. -/
theorem olderIndex_fold (indices : List Nat) (bound : start < flows.length) :
    (∀ flow, SeenBefore flows start flow →
      SeenBefore flows (indices.foldl (olderIndex flows) start) flow) ∧
      ∀ index ∈ indices, ∀ flow, flows[index]? = some flow →
        SeenBefore flows (indices.foldl (olderIndex flows) start) flow := by
  induction indices generalizing start with
  | nil => exact ⟨fun _ before => before, fun index member => absurd member List.not_mem_nil⟩
  | cons index indices inductionHypothesis =>
      have within : olderIndex flows start index < flows.length := by
        have own : SeenBefore flows start flows[start] :=
          ⟨_, List.getElem?_eq_getElem bound, Nat.le_refl _⟩
        obtain ⟨_, found, -⟩ := olderIndex_seenBefore index own
        exact (List.getElem?_eq_some_iff.mp found).1
      have rest := inductionHypothesis within
      refine ⟨fun flow before => rest.1 flow (olderIndex_seenBefore index before), ?_⟩
      intro other member flow slot
      rcases List.mem_cons.mp member with rfl | later
      · exact rest.1 flow (olderIndex_own bound slot)
      · exact rest.2 other later flow slot

/-- The flow that makes room was seen no later than any other. -/
theorem oldestIndex_minimal (member : flow ∈ flows) :
    SeenBefore flows (oldestIndex flows) flow := by
  have nonempty : 0 < flows.length := List.length_pos_of_mem member
  obtain ⟨index, bound, rfl⟩ := List.mem_iff_getElem.mp member
  exact (olderIndex_fold (List.range flows.length) nonempty).2 index (List.mem_range.mpr bound) _
    (List.getElem?_eq_getElem bound)

theorem oldestIndex_lt (nonempty : 0 < flows.length) : oldestIndex flows < flows.length := by
  obtain ⟨_, found, -⟩ := oldestIndex_minimal (List.getElem_mem nonempty)
  exact (List.getElem?_eq_some_iff.mp found).1

end Oldest

end Eviction

/-! ### Lookup -/

/-- A packet that takes part in flow tracking, with its key and direction. -/
def trackedAs (packet : PacketInfo) : Option (FlowKey × FlowDirection) :=
  if packet.protocol ≠ .tcp then none else flowKeyFromPacket packet

/-- The table once a lookup of `key` has evicted what it evicts. -/
def afterEvictions (table : FlowTable) (key : FlowKey) (now : Nat) : FlowTable :=
  let evicted := evictStaleFlows table now
  match position FlowInfo.key evicted.flows key with
  | some _ => evicted
  | none => makeRoomForFlow evicted

theorem afterEvictions_of_placed {table : FlowTable} {key : FlowKey} {now index : Nat}
    (placed : position FlowInfo.key (evictStaleFlows table now).flows key = some index) :
    afterEvictions table key now = evictStaleFlows table now := by
  simp only [afterEvictions, placed]

theorem afterEvictions_of_absent {table : FlowTable} {key : FlowKey} {now : Nat}
    (absent : position FlowInfo.key (evictStaleFlows table now).flows key = none) :
    afterEvictions table key now = makeRoomForFlow (evictStaleFlows table now) := by
  simp only [afterEvictions, absent]

/-- Distinct keys, room for a flow, and every flow sized by the table. -/
structure FlowTable.Wellformed (table : FlowTable) : Prop where
  distinct : DistinctKeys FlowInfo.key table.flows
  bounded : table.flows.length ≤ table.maxFlows
  slots : 0 < table.maxFlows
  buffered : 0 < table.streamBufferBytes
  sized : ∀ flow ∈ table.flows, flow.streamBufferBytes = table.streamBufferBytes

section LookupSpec

variable {table : FlowTable} {key : FlowKey} {direction : FlowDirection} {packet : PacketInfo}
variable {now : Nat}

/-- Fewer flows under the same limits. -/
theorem FlowTable.Wellformed.fewer {smaller : FlowTable} (wellformed : table.Wellformed)
    (sublist : smaller.flows.Sublist table.flows) (limits : smaller.limits = table.limits) :
    smaller.Wellformed := by
  simp only [FlowTable.limits, Prod.mk.injEq] at limits
  obtain ⟨maxFlows, streamBytes, -⟩ := limits
  exact
    { distinct := wellformed.distinct.sublist sublist
      bounded := by rw [maxFlows]; exact sublist.length_le.trans wellformed.bounded
      slots := by rw [maxFlows]; exact wellformed.slots
      buffered := by rw [streamBytes]; exact wellformed.buffered
      sized := by
        intro flow member
        rw [streamBytes]
        exact wellformed.sized flow (sublist.subset member) }

/-- A flow written back to its slot. -/
theorem FlowTable.Wellformed.set {index : Nat} {flow written : FlowInfo}
    (wellformed : table.Wellformed) (slot : table.flows[index]? = some flow)
    (keyed : written.key = flow.key) (sized : written.streamBufferBytes = flow.streamBufferBytes) :
    { table with flows := table.flows.set index written : FlowTable }.Wellformed :=
  { distinct := wellformed.distinct.set slot keyed
    bounded := by simpa using wellformed.bounded
    slots := wellformed.slots
    buffered := wellformed.buffered
    sized := by
      intro other member
      rcases List.mem_or_eq_of_mem_set member with old | rfl
      · exact wellformed.sized other old
      · exact sized.trans (wellformed.sized flow (List.mem_of_getElem? slot)) }

theorem evictStaleFlows_sublist (table : FlowTable) (now : Nat) :
    (evictStaleFlows table now).flows.Sublist table.flows := by
  rw [evictStaleFlows_flows]
  exact List.filter_sublist

theorem makeRoomForFlow_sublist (table : FlowTable) :
    (makeRoomForFlow table).flows.Sublist table.flows := by
  unfold makeRoomForFlow
  split
  · rw [evictOldestFlow_flows]
    exact List.eraseIdx_sublist _ _
  · exact List.Sublist.refl _

@[simp] theorem makeRoomForFlow_limits (table : FlowTable) :
    (makeRoomForFlow table).limits = table.limits := by
  unfold makeRoomForFlow
  split
  · exact evictOldestFlow_limits table
  · rfl

@[simp] theorem makeRoomForFlow_flowsCreated (table : FlowTable) :
    (makeRoomForFlow table).flowsCreated = table.flowsCreated := by
  unfold makeRoomForFlow
  split
  · exact evictOldestFlow_flowsCreated table
  · rfl

theorem afterEvictions_sublist (table : FlowTable) (key : FlowKey) (now : Nat) :
    (afterEvictions table key now).flows.Sublist table.flows := by
  simp only [afterEvictions]
  split
  · exact evictStaleFlows_sublist table now
  · exact (makeRoomForFlow_sublist _).trans (evictStaleFlows_sublist table now)

@[simp] theorem afterEvictions_limits (table : FlowTable) (key : FlowKey) (now : Nat) :
    (afterEvictions table key now).limits = table.limits := by
  simp only [afterEvictions]
  split <;> simp

@[simp] theorem afterEvictions_flowsCreated (table : FlowTable) (key : FlowKey) (now : Nat) :
    (afterEvictions table key now).flowsCreated = table.flowsCreated := by
  simp only [afterEvictions]
  split <;> simp

theorem FlowTable.Wellformed.evicted (wellformed : table.Wellformed) (key : FlowKey)
    (now : Nat) : (afterEvictions table key now).Wellformed :=
  wellformed.fewer (afterEvictions_sublist table key now) (afterEvictions_limits table key now)

/-- Making room leaves a free slot. -/
theorem makeRoomForFlow_room (bounded : table.flows.length ≤ table.maxFlows)
    (slots : 0 < table.maxFlows) :
    (makeRoomForFlow table).flows.length < (makeRoomForFlow table).maxFlows := by
  have limits := makeRoomForFlow_limits table
  simp only [FlowTable.limits, Prod.mk.injEq] at limits
  rw [limits.1]
  unfold makeRoomForFlow
  split
  next full =>
    rw [evictOldestFlow_flows, List.length_eraseIdx_of_lt (oldestIndex_lt (by omega))]
    omega
  next free => omega

/-- The slot a lookup answers with: the packet's flow among those that stay, or a fresh one at the
end. -/
theorem flowTableGetOrCreate_spec (now : Nat) (wellformed : table.Wellformed)
    (tracked : trackedAs packet = some (key, direction)) :
    (∃ index flow, (afterEvictions table key now).flows[index]? = some flow ∧ flow.key = key ∧
      flowOf (afterEvictions table key now) key = some flow ∧
      flowTableGetOrCreate table packet now =
        (afterEvictions table key now, some (index, direction))) ∨
    (flowOf (afterEvictions table key now) key = none ∧
      (afterEvictions table key now).flows.length < table.maxFlows ∧
      flowTableGetOrCreate table packet now =
        (createFlow (afterEvictions table key now) key now,
          some ((afterEvictions table key now).flows.length, direction))) := by
  unfold trackedAs at tracked
  split at tracked
  next => contradiction
  next isTcp =>
    simp only [flowTableGetOrCreate, if_neg isTcp, tracked, afterEvictions]
    cases found : position FlowInfo.key (evictStaleFlows table now).flows key with
    | some index =>
        obtain ⟨flow, slot, located⟩ := lookup_of_position found
        exact Or.inl ⟨index, flow, slot, lookup_key located, located, rfl⟩
    | none =>
        have absent := position_eq_none_iff.mp found
        have stale := wellformed.fewer (evictStaleFlows_sublist table now)
          (evictStaleFlows_limits table now)
        have room := makeRoomForFlow_room stale.bounded stale.slots
        have limits : (makeRoomForFlow (evictStaleFlows table now)).limits = table.limits := by
          simp
        simp only [FlowTable.limits, Prod.mk.injEq] at limits
        have fits :
            (makeRoomForFlow (evictStaleFlows table now)).flows.length < table.maxFlows := by
          rw [← limits.1]
          exact room
        refine Or.inr ⟨?_, fits, by simp only [if_neg (not_le.mpr room)]⟩
        rw [flowOf, lookup_eq_none_iff]
        intro flow member
        exact lookup_eq_none_iff.mp absent flow ((makeRoomForFlow_sublist _).subset member)

/-- A packet outside flow tracking leaves the table alone. -/
theorem flowTableGetOrCreate_untracked (untracked : trackedAs packet = none) :
    flowTableGetOrCreate table packet now = (table, none) := by
  unfold trackedAs at untracked
  unfold flowTableGetOrCreate
  split at untracked
  next notTcp => rw [if_pos notTcp]
  next isTcp => rw [if_neg isTcp, untracked]

end LookupSpec

end MiniSniffer
