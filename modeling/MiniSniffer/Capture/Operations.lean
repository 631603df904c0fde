import MiniSniffer.Capture.FlowRuns

/-!
Contract: the capture path's operations on its flow table, one by one and in any order.

Owns the operations that `capture_start` performs between two packets: lookup, what is done to the
flow that a lookup returned, and the two eviction passes that also run on their own. Owns the rule
that a property of fresh flows which every visit keeps holds of every flow ever in the table, and
the theorem that one captured packet is four of these operations.

Does not own what the operations count or store: see `Capture.Accounting` and `Capture.Memory`.
-/

namespace MiniSniffer

open Foundation

/-- What the capture path does to a flow it holds. -/
inductive FlowVisit where
  | update (packet : PacketInfo) (now : Nat) (direction : FlowDirection)
  | decode (direction : FlowDirection) (packet : PacketInfo)
  | classify (packet : PacketInfo)
  | print
deriving DecidableEq, Repr

def FlowVisit.apply (visit : FlowVisit) (flow : FlowInfo) : FlowInfo :=
  match visit with
  | .update packet now direction => flowUpdatePacket flow packet now direction
  | .decode direction packet => (flowDecodeStreamApp flow direction packet).1
  | .classify packet => classifyFromPacket flow packet
  | .print => { flow with appEventPrinted := true }

/-- A held flow is the slot that a lookup answered. -/
inductive FlowOperation where
  | getOrCreate (packet : PacketInfo) (now : Nat)
  | visit (index : Nat) (visit : FlowVisit)
  | evictIdle (now : Nat)
  | evictClosed
deriving DecidableEq, Repr

def visitFlowAt (table : FlowTable) (index : Nat) (visit : FlowVisit) : FlowTable :=
  match table.flows[index]? with
  | none => table
  | some flow => { table with flows := table.flows.set index (visit.apply flow) }

/-- Only a lookup has an output, the slot and direction it answers. -/
def flowOperations : Machine FlowTable FlowOperation (Option (Nat × FlowDirection)) where
  step table operation :=
    match operation with
    | .getOrCreate packet now => flowTableGetOrCreate table packet now
    | .visit index visit => (visitFlowAt table index visit, none)
    | .evictIdle now => (flowTableEvictIdle table now, none)
    | .evictClosed => (flowTableEvictClosed table, none)

/-- The tables that any operations lead to from an initialised one. -/
def FlowTable.Operated (table : FlowTable) : Prop :=
  ∃ maxFlows streamBufferBytes timeoutSeconds initial,
    flowTableInit maxFlows streamBufferBytes timeoutSeconds = some initial ∧
      flowOperations.Reachable initial table

/-! ### One operation -/

section Step

variable {table looked : FlowTable} {flow : FlowInfo} {packet : PacketInfo} {key : FlowKey}
variable {direction : FlowDirection} {operation : FlowOperation} {index now : Nat}

@[simp] theorem visitFlowAt_limits (visit : FlowVisit) :
    (visitFlowAt table index visit).limits = table.limits := by
  unfold visitFlowAt
  split <;> rfl

theorem getOrCreate_limits (wellformed : table.Wellformed) (packet : PacketInfo) (now : Nat) :
    (flowTableGetOrCreate table packet now).1.limits = table.limits := by
  cases tracked : trackedAs packet with
  | none => rw [flowTableGetOrCreate_untracked tracked]
  | some keyed =>
      rcases keyed with ⟨key, direction⟩
      have limits := afterEvictions_limits table key now
      rcases flowTableGetOrCreate_spec now wellformed tracked with
        ⟨_, _, _, _, _, found⟩ | ⟨_, _, created⟩
      · rw [found]
        exact limits
      · rw [created]
        exact limits

theorem operation_limits (wellformed : table.Wellformed) (operation : FlowOperation) :
    (flowOperations.next table operation).limits = table.limits := by
  cases operation with
  | getOrCreate packet now => exact getOrCreate_limits wellformed packet now
  | visit index visit => exact visitFlowAt_limits visit
  | evictIdle now => exact flowTableEvictIdle_frame _ _ FlowTable.limits evictIdleAt_limits
  | evictClosed => exact flowTableEvictClosed_frame _ FlowTable.limits evictClosedAt_limits

/-- The flows of a lookup are flows that were there, or one fresh flow with the packet's key. -/
theorem mem_getOrCreate (wellformed : table.Wellformed)
    (member : flow ∈ (flowTableGetOrCreate table packet now).1.flows) :
    flow ∈ table.flows ∨ ∃ key direction, trackedAs packet = some (key, direction) ∧
      flow = freshFlow table.streamBufferBytes key now := by
  cases tracked : trackedAs packet with
  | none =>
      rw [flowTableGetOrCreate_untracked tracked] at member
      exact Or.inl member
  | some keyed =>
      rcases keyed with ⟨key, direction⟩
      have stayed := (afterEvictions_sublist table key now).subset
      rcases flowTableGetOrCreate_spec now wellformed tracked with
        ⟨_, _, _, _, _, found⟩ | ⟨_, _, created⟩
      · rw [found] at member
        exact Or.inl (stayed member)
      · rw [created] at member
        rcases List.mem_append.mp member with old | new
        · exact Or.inl (stayed old)
        · rw [List.mem_singleton.mp new, afterEvictions_streamBufferBytes]
          exact Or.inr ⟨key, direction, rfl, rfl⟩

/-- The flows after an operation: old ones, a visited one, or a fresh one. -/
theorem mem_operation (wellformed : table.Wellformed)
    (member : flow ∈ (flowOperations.next table operation).flows) :
    flow ∈ table.flows ∨
      (∃ visit, ∃ held ∈ table.flows, flow = FlowVisit.apply visit held) ∨
      ∃ packet now key direction, trackedAs packet = some (key, direction) ∧
        flow = freshFlow table.streamBufferBytes key now := by
  cases operation with
  | getOrCreate packet now =>
      rcases mem_getOrCreate wellformed member with old | ⟨key, direction, tracked, fresh⟩
      · exact Or.inl old
      · exact Or.inr (Or.inr ⟨packet, now, key, direction, tracked, fresh⟩)
  | visit index visit =>
      have visited : flow ∈ (visitFlowAt table index visit).flows := member
      unfold visitFlowAt at visited
      split at visited
      · exact Or.inl visited
      next held found =>
        rcases List.mem_or_eq_of_mem_set visited with old | new
        · exact Or.inl old
        · exact Or.inr (Or.inl ⟨visit, held, List.mem_of_getElem? found, new⟩)
  | evictIdle now =>
      have kept : flow ∈ (flowTableEvictIdle table now).flows := member
      rw [flowTableEvictIdle_flows] at kept
      exact Or.inl (List.mem_filter.mp kept).1
  | evictClosed =>
      have kept : flow ∈ (flowTableEvictClosed table).flows := member
      rw [flowTableEvictClosed_flows] at kept
      exact Or.inl (List.mem_filter.mp kept).1

/-- No visit moves a flow to another key or resizes it. -/
theorem FlowVisit.apply_key (visit : FlowVisit) (buffered : 0 < flow.streamBufferBytes) :
    (visit.apply flow).key = flow.key ∧
      (visit.apply flow).streamBufferBytes = flow.streamBufferBytes := by
  cases visit with
  | update packet now direction =>
      exact ⟨flowUpdatePacket_key flow direction packet now,
        flowUpdatePacket_streamBufferBytes flow direction packet now⟩
  | decode direction packet => exact flowDecodeStreamApp_key flow direction packet buffered
  | classify packet =>
      rcases classifyFromPacket_cases flow packet with same | ⟨app, classified⟩
      · rw [FlowVisit.apply, same]
        exact ⟨rfl, rfl⟩
      · rw [FlowVisit.apply, classified]
        exact ⟨rfl, rfl⟩
  | print => exact ⟨rfl, rfl⟩

theorem getOrCreate_wellformed (wellformed : table.Wellformed) (packet : PacketInfo) (now : Nat) :
    (flowTableGetOrCreate table packet now).1.Wellformed := by
  cases tracked : trackedAs packet with
  | none =>
      rw [flowTableGetOrCreate_untracked tracked]
      exact wellformed
  | some keyed =>
      rcases keyed with ⟨key, direction⟩
      obtain ⟨looked, _, lookedWellformed, _, equal, _⟩ := flowCapture_tracked false wellformed
        (show trackedAs (FlowEvent.mk packet now).packet = some (key, direction) from tracked)
      rw [equal]
      exact lookedWellformed

theorem visitFlowAt_wellformed (wellformed : table.Wellformed) (index : Nat) (visit : FlowVisit) :
    (visitFlowAt table index visit).Wellformed := by
  unfold visitFlowAt
  split
  · exact wellformed
  next flow found =>
    have member := List.mem_of_getElem? found
    have sized := wellformed.sized flow member
    have buffered : 0 < flow.streamBufferBytes := by
      rw [sized]
      exact wellformed.buffered
    have kept := visit.apply_key buffered
    exact wellformed.set found kept.1 kept.2

theorem operation_wellformed (wellformed : table.Wellformed) (operation : FlowOperation) :
    (flowOperations.next table operation).Wellformed := by
  cases operation with
  | getOrCreate packet now => exact getOrCreate_wellformed wellformed packet now
  | visit index visit => exact visitFlowAt_wellformed wellformed index visit
  | evictIdle now =>
      have limits : (flowTableEvictIdle table now).limits = table.limits :=
        flowTableEvictIdle_frame _ _ FlowTable.limits evictIdleAt_limits
      apply wellformed.fewer _ limits
      show (flowTableEvictIdle table now).flows.Sublist table.flows
      rw [flowTableEvictIdle_flows]
      exact List.filter_sublist
  | evictClosed =>
      have limits : (flowTableEvictClosed table).limits = table.limits :=
        flowTableEvictClosed_frame _ FlowTable.limits evictClosedAt_limits
      apply wellformed.fewer _ limits
      show (flowTableEvictClosed table).flows.Sublist table.flows
      rw [flowTableEvictClosed_flows]
      exact List.filter_sublist

end Step

/-! ### Runs of operations -/

section Runs

variable {table : FlowTable}

theorem FlowTable.Operated.next (operated : table.Operated) (operation : FlowOperation) :
    (flowOperations.next table operation).Operated := by
  obtain ⟨maxFlows, streamBufferBytes, timeoutSeconds, initial, initialized, reached⟩ := operated
  exact ⟨maxFlows, streamBufferBytes, timeoutSeconds, initial, initialized, reached.next operation⟩

theorem FlowTable.Operated.wellformed (operated : table.Operated) : table.Wellformed := by
  obtain ⟨maxFlows, streamBufferBytes, timeoutSeconds, initial, initialized, reached⟩ := operated
  have kept : ∀ (table : FlowTable) operation, table.Wellformed →
      (flowOperations.next table operation).Wellformed :=
    fun _ operation holds => operation_wellformed holds operation
  exact Machine.Reachable.invariant kept (flowTableInit_consistent initialized).toWellformed reached

theorem flowTableInit_flows {maxFlows streamBufferBytes timeoutSeconds : Nat}
    (initialized : flowTableInit maxFlows streamBufferBytes timeoutSeconds = some table) :
    table.flows = [] := by
  unfold flowTableInit at initialized
  split at initialized
  · contradiction
  · rw [← Option.some.inj initialized]

/-- A property of fresh flows that every visit keeps holds of every flow in the table. -/
theorem FlowTable.Operated.forall_flows {holds : FlowInfo → Prop} (operated : table.Operated)
    (fresh : ∀ packet now key direction streamBufferBytes,
      trackedAs packet = some (key, direction) → holds (freshFlow streamBufferBytes key now))
    (visited : ∀ (visit : FlowVisit) flow, 0 < flow.streamBufferBytes → holds flow →
      holds (visit.apply flow)) :
    ∀ flow ∈ table.flows, holds flow := by
  obtain ⟨maxFlows, streamBufferBytes, timeoutSeconds, initial, initialized, reached⟩ := operated
  have kept : ∀ (table : FlowTable) operation,
      table.Wellformed ∧ (∀ flow ∈ table.flows, holds flow) →
      (flowOperations.next table operation).Wellformed ∧
        ∀ flow ∈ (flowOperations.next table operation).flows, holds flow := by
    rintro table operation ⟨wellformed, all⟩
    refine ⟨operation_wellformed wellformed operation, ?_⟩
    intro flow member
    rcases mem_operation wellformed member with
      old | ⟨visit, held, heldMember, rfl⟩ | ⟨packet, now, key, direction, tracked, rfl⟩
    · exact all flow old
    · apply visited visit held
      · rw [wellformed.sized held heldMember]
        exact wellformed.buffered
      · exact all held heldMember
    · exact fresh packet now key direction table.streamBufferBytes tracked
  have start : initial.Wellformed ∧ ∀ flow ∈ initial.flows, holds flow := by
    refine ⟨(flowTableInit_consistent initialized).toWellformed, ?_⟩
    rw [flowTableInit_flows initialized]
    simp
  exact (Machine.Reachable.invariant kept start reached).2

end Runs

/-! ### One captured packet -/

/-- What `capture_start` does to the table for a packet, with the slot its lookup answers. -/
def captureOperations (packetLocal : Bool) (table : FlowTable) (event : FlowEvent) :
    List FlowOperation :=
  match (flowTableGetOrCreate table event.packet event.now).2 with
  | none => [.getOrCreate event.packet event.now]
  | some (index, direction) =>
      [.getOrCreate event.packet event.now,
        .visit index (.update event.packet event.now direction),
        .visit index (.decode direction event.packet)] ++
      if packetLocal then [.visit index (.classify event.packet)] else []

section Captured

variable {packetLocal : Bool} {table : FlowTable} {event : FlowEvent} {index : Nat}
variable {flow : FlowInfo}

theorem visitFlowAt_of_slot (found : table.flows[index]? = some flow) (visit : FlowVisit) :
    visitFlowAt table index visit =
      { table with flows := table.flows.set index (visit.apply flow) } := by
  rw [visitFlowAt, found]

/-- Visiting the slot just visited. -/
theorem visitFlowAt_set (found : table.flows[index]? = some flow) (visited : FlowInfo)
    (visit : FlowVisit) :
    visitFlowAt { table with flows := table.flows.set index visited } index visit =
      { table with flows := table.flows.set index (visit.apply visited) } := by
  obtain ⟨bound, -⟩ := List.getElem?_eq_some_iff.mp found
  rw [visitFlowAt_of_slot (List.getElem?_set_self bound), List.set_set]

/-- A packet through the capture machine is its lookup and the visits that follow. -/
theorem flowCapture_next_eq_run (wellformed : table.Wellformed) :
    (flowCapture packetLocal).next table event =
      flowOperations.run table (captureOperations packetLocal table event) := by
  cases tracked : trackedAs event.packet with
  | none =>
      rw [flowCapture_untracked tracked, captureOperations,
        flowTableGetOrCreate_untracked tracked, Machine.run_cons, Machine.run_nil]
      simp only [Machine.next, flowOperations, flowTableGetOrCreate_untracked tracked]
  | some keyed =>
      rcases keyed with ⟨key, direction⟩
      obtain ⟨looked, index, -, -, lookup, slot, -, -, -, -, next⟩ :=
        flowCapture_tracked packetLocal wellformed tracked
      have opened : flowOperations.next table (.getOrCreate event.packet event.now) = looked := by
        simp only [Machine.next, flowOperations, lookup]
      have visiting : ∀ (table : FlowTable) (visit : FlowVisit),
          flowOperations.next table (.visit index visit) = visitFlowAt table index visit :=
        fun _ _ => rfl
      rw [next, captureOperations, lookup]
      simp only [List.cons_append, List.nil_append, Machine.run_cons, opened, visiting,
        visitFlowAt_of_slot slot, visitFlowAt_set slot]
      cases packetLocal with
      | false => rfl
      | true =>
          simp only [if_true, Machine.run_cons, Machine.run_nil, visiting, visitFlowAt_set slot]
          rfl

/-- Every captured table is reached by operations. -/
theorem FlowTable.Captured.operated (captured : table.Captured packetLocal) : table.Operated := by
  obtain ⟨maxFlows, streamBufferBytes, timeoutSeconds, initial, initialized, reached⟩ := captured
  have kept : ∀ (table : FlowTable) event, table.Operated →
      ((flowCapture packetLocal).next table event).Operated := by
    intro table event operated
    rw [flowCapture_next_eq_run operated.wellformed]
    exact Machine.run_preserves (fun _ operation operated => operated.next operation) operated _
  apply Machine.Reachable.invariant kept _ reached
  exact ⟨maxFlows, streamBufferBytes, timeoutSeconds, initial, initialized,
    Machine.Reachable.refl _⟩

end Captured

end MiniSniffer
