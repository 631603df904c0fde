import MiniSniffer.Capture.Connection

/-!
Contract: flows do not observe each other.

Owns the comparison of two tables at one key. Two tables agree at a clock when they hold the same
flow for the key once whatever a lookup at that time takes away as idle or closed is left out. A
packet of another flow makes such a flow leave early, and the next packet of the key, which comes no
earlier, would have made it leave anyway. So agreement survives packets of other flows in one of the
tables, and packets of the key in both, which then see the same flow.

Capacity eviction is the one removal that depends on other flows; where it takes the key's flow,
the tables stop agreeing.
-/

namespace MiniSniffer

open Foundation

/-! ### Agreement -/

/-- The tables hold the same flow for the key, as far as a lookup at `clock` can tell. -/
def AgreeAt (clock : Nat) (key : FlowKey) (left right : FlowTable) : Prop :=
  (flowOf left key).filter (stays left.timeoutSeconds clock) =
    (flowOf right key).filter (stays right.timeoutSeconds clock)

/-- The lookup of `own` takes no flow of `key` away to make room. -/
def KeepsRoomFor (key : FlowKey) (table : FlowTable) (own : FlowKey) (now : Nat) : Prop :=
  flowOf (afterEvictions table own now) key = flowOf (evictStaleFlows table now) key

section Agreement

variable {clock now timeoutSeconds : Nat} {key own : FlowKey} {left right table : FlowTable}
variable {flow : FlowInfo}

/-- A flow that stays at a later time stays at an earlier one. -/
theorem stays_of_later (later : clock ≤ now) (kept : stays timeoutSeconds now flow = true) :
    stays timeoutSeconds clock flow = true := by
  simp only [stays, flowIsIdle, Bool.and_eq_true, Bool.not_eq_true', Bool.and_eq_false_iff,
    decide_eq_false_iff_not] at kept ⊢
  refine ⟨?_, kept.2⟩
  rcases kept.1 with never | fresh
  · exact Or.inl never
  · right
    split_ifs at fresh ⊢ <;> omega

theorem filter_stays_stays (later : clock ≤ now) (entry : Option FlowInfo) :
    (entry.filter (stays timeoutSeconds clock)).filter (stays timeoutSeconds now) =
      entry.filter (stays timeoutSeconds now) := by
  cases entry with
  | none => rfl
  | some flow =>
      by_cases kept : stays timeoutSeconds now flow = true
      · rw [Option.filter_some, stays_of_later later kept]
        rfl
      · rw [Option.filter_some, Option.filter_some, if_neg kept]
        split_ifs
        · rw [Option.filter_some, if_neg kept]
        · rfl

theorem AgreeAt.later (agree : AgreeAt clock key left right)
    (limits : left.limits = right.limits) (later : clock ≤ now) : AgreeAt now key left right := by
  simp only [FlowTable.limits, Prod.mk.injEq] at limits
  unfold AgreeAt at agree ⊢
  rw [← filter_stays_stays later (flowOf left key), agree, limits.2.2,
    filter_stays_stays later]

/-- Stale flows are what a lookup at that time leaves out. -/
theorem flowOf_evictStaleFlows (wellformed : table.Wellformed) (key : FlowKey) (now : Nat) :
    flowOf (evictStaleFlows table now) key =
      (flowOf table key).filter (stays table.timeoutSeconds now) := by
  rw [flowOf, evictStaleFlows_flows]
  exact lookup_filter wellformed.distinct _

/-- The lookup of a key makes room only if the key has no flow. -/
theorem keepsRoomFor_self (table : FlowTable) (key : FlowKey) (now : Nat) :
    KeepsRoomFor key table key now := by
  unfold KeepsRoomFor
  cases placed : position FlowInfo.key (evictStaleFlows table now).flows key with
  | some index => rw [afterEvictions_of_placed placed]
  | none =>
      have absent := position_eq_none_iff.mp placed
      rw [afterEvictions_of_absent placed, flowOf, flowOf, absent, lookup_eq_none_iff]
      intro flow member
      exact lookup_eq_none_iff.mp absent flow ((makeRoomForFlow_sublist _).subset member)

/-- What the lookup of any key leaves of a flow it keeps room for. -/
theorem KeepsRoomFor.flowOf_eq (wellformed : table.Wellformed)
    (keeps : KeepsRoomFor key table own now) :
    flowOf (afterEvictions table own now) key =
      (flowOf table key).filter (stays table.timeoutSeconds now) :=
  keeps.trans (flowOf_evictStaleFlows wellformed key now)

/-- Tables that agree assign the key's packet to the same flow. -/
theorem AgreeAt.assigned_eq (agree : AgreeAt now key left right)
    (limits : left.limits = right.limits) (leftWellformed : left.Wellformed)
    (rightWellformed : right.Wellformed) :
    assignedFlow left key now = assignedFlow right key now := by
  have sizes := limits
  simp only [FlowTable.limits, Prod.mk.injEq] at sizes
  rw [assignedFlow, assignedFlow, (keepsRoomFor_self left key now).flowOf_eq leftWellformed,
    (keepsRoomFor_self right key now).flowOf_eq rightWellformed, agree, sizes.2.1]

end Agreement

/-! ### Packets -/

section Packets

variable {packetLocal : Bool} {now : Nat} {key own : FlowKey} {direction : FlowDirection}
variable {left right table : FlowTable} {event : FlowEvent}

theorem next_limits (packetLocal : Bool) (wellformed : table.Wellformed) (event : FlowEvent) :
    ((flowCapture packetLocal).next table event).limits = table.limits := by
  cases tracked : trackedAs event.packet with
  | none => rw [flowCapture_untracked tracked]
  | some keyed =>
      rcases keyed with ⟨key, direction⟩
      obtain ⟨looked, index, -, limits, -, -, -, -, -, -, next⟩ :=
        flowCapture_tracked packetLocal wellformed tracked
      rw [next]
      exact limits

/-- A packet of another flow in one of the tables. -/
theorem AgreeAt.foreign (agree : AgreeAt event.now key left right)
    (consistent : left.Consistent) (foreign : connectionOf event ≠ some key)
    (keeps : ∀ own, connectionOf event = some own → KeepsRoomFor key left own event.now) :
    AgreeAt event.now key ((flowCapture packetLocal).next left event) right := by
  cases tracked : trackedAs event.packet with
  | none =>
      rw [flowCapture_untracked tracked]
      exact agree
  | some keyed =>
      rcases keyed with ⟨own, direction⟩
      have belongs := connectionOf_tracked tracked
      have different : key ≠ own := by
        intro same
        apply foreign
        rw [belongs, same]
      have limits := next_limits packetLocal consistent.toWellformed event
      simp only [FlowTable.limits, Prod.mk.injEq] at limits
      unfold AgreeAt at agree ⊢
      rw [flowOf_next_other consistent tracked different,
        (keeps own belongs).flowOf_eq consistent.toWellformed, limits.2.2,
        filter_stays_stays (Nat.le_refl _)]
      exact agree

/-- A packet of the key in both tables. -/
theorem AgreeAt.both (agree : AgreeAt event.now key left right)
    (limits : left.limits = right.limits) (leftConsistent : left.Consistent)
    (rightConsistent : right.Consistent) (belongs : connectionOf event = some key) :
    AgreeAt event.now key ((flowCapture packetLocal).next left event)
      ((flowCapture packetLocal).next right event) := by
  obtain ⟨keyed, tracked, same⟩ := Option.map_eq_some_iff.mp belongs
  rcases keyed with ⟨own, direction⟩
  obtain rfl : own = key := same
  have assigned := agree.assigned_eq limits leftConsistent.toWellformed
    rightConsistent.toWellformed
  have leftLimits := next_limits packetLocal leftConsistent.toWellformed event
  have rightLimits := next_limits packetLocal rightConsistent.toWellformed event
  simp only [FlowTable.limits, Prod.mk.injEq] at leftLimits rightLimits limits
  unfold AgreeAt
  rw [flowOf_next_self leftConsistent tracked, flowOf_next_self rightConsistent tracked, assigned,
    leftLimits.2.2, rightLimits.2.2, limits.2.2]

end Packets

/-! ### What a flow observes -/

/-- The flow a packet is assigned to, that flow afterwards, and what stream decoding answered. -/
structure FlowObservation where
  assigned : FlowInfo
  visited : FlowInfo
  classifiedNow : Bool
  status : AppDecodeStatus
deriving DecidableEq, Repr

def observeFlow (packetLocal : Bool) (flow : FlowInfo) (direction : FlowDirection)
    (event : FlowEvent) : FlowObservation :=
  let decoded := flowDecodeStreamApp (flowUpdatePacket flow event.packet event.now direction)
    direction event.packet
  { assigned := flow
    visited := visitFlow packetLocal flow direction event
    classifiedNow := decoded.2.1
    status := decoded.2.2 }

/-- The capture machine with the packet's own view as output. -/
def flowObserving (packetLocal : Bool) : Machine FlowTable FlowEvent (Option FlowObservation) where
  step table event :=
    ((flowCapture packetLocal).next table event,
      match flowTableGetOrCreate table event.packet event.now with
      | (_, none) => none
      | (looked, some (index, direction)) =>
          (looked.flows[index]?).map fun flow => observeFlow packetLocal flow direction event)

/-- The packet is one of the key's. -/
def belongsTo (key : FlowKey) (event : FlowEvent) : Bool := connectionOf event = some key

/-- The packet's lookup evicts no flow for want of a slot. -/
def NoCapacityEviction (table : FlowTable) (event : FlowEvent) : Prop :=
  (flowTableGetOrCreate table event.packet event.now).1.flowsEvictedCapacity =
    table.flowsEvictedCapacity

instance (table : FlowTable) (event : FlowEvent) : Decidable (NoCapacityEviction table event) :=
  inferInstanceAs (Decidable (_ = _))

section Observations

variable {packetLocal : Bool} {clock : Nat} {key own : FlowKey} {direction : FlowDirection}
variable {left right table initial : FlowTable} {event : FlowEvent} {events : List FlowEvent}

theorem removeFlowAt_flowsEvictedCapacity (table : FlowTable) (index : Nat) :
    (removeFlowAt table index).flowsEvictedCapacity = table.flowsEvictedCapacity := by
  unfold removeFlowAt
  split <;> rfl

theorem evictStaleFlows_flowsEvictedCapacity (table : FlowTable) (now : Nat) :
    (evictStaleFlows table now).flowsEvictedCapacity = table.flowsEvictedCapacity := by
  have idle : ∀ table index, (evictIdleAt table index).flowsEvictedCapacity =
      table.flowsEvictedCapacity := fun table index => removeFlowAt_flowsEvictedCapacity _ index
  have closed : ∀ table index, (evictClosedAt table index).flowsEvictedCapacity =
      table.flowsEvictedCapacity := fun table index =>
    evictClosedAt_frame table index FlowTable.flowsEvictedCapacity
      removeFlowAt_flowsEvictedCapacity (fun _ => rfl) fun _ => rfl
  rw [evictStaleFlows, flowTableEvictClosed_frame _ _ closed, flowTableEvictIdle_frame _ _ _ idle]

/-- A lookup that evicts nothing for want of a slot keeps room for every key. -/
theorem NoCapacityEviction.keepsRoomFor (wellformed : table.Wellformed)
    (noEviction : NoCapacityEviction table event) (belongs : connectionOf event = some own)
    (key : FlowKey) : KeepsRoomFor key table own event.now := by
  obtain ⟨keyed, tracked, same⟩ := Option.map_eq_some_iff.mp belongs
  rcases keyed with ⟨tracking, direction⟩
  obtain rfl : tracking = own := same
  have counted : (afterEvictions table tracking event.now).flowsEvictedCapacity =
      table.flowsEvictedCapacity := by
    unfold NoCapacityEviction at noEviction
    rcases flowTableGetOrCreate_spec event.now wellformed tracked with
      ⟨_, _, _, _, _, looked⟩ | ⟨_, _, looked⟩
    · rw [looked] at noEviction
      exact noEviction
    · rw [looked] at noEviction
      exact noEviction
  unfold KeepsRoomFor
  cases placed : position FlowInfo.key (evictStaleFlows table event.now).flows tracking with
  | some index => rw [afterEvictions_of_placed placed]
  | none =>
      rw [afterEvictions_of_absent placed] at counted ⊢
      unfold makeRoomForFlow evictOldestFlow at counted ⊢
      split_ifs at counted ⊢ with full empty
      · rfl
      · -- an eviction would have been counted
        rw [removeFlowAt_flowsEvictedCapacity] at counted
        have stale := evictStaleFlows_flowsEvictedCapacity table event.now
        simp only at counted
        omega
      · rfl

/-- A tracked packet observes the flow it is assigned to. -/
theorem flowObserving_output (wellformed : table.Wellformed)
    (tracked : trackedAs event.packet = some (key, direction)) :
    (flowObserving packetLocal).output table event =
      some (observeFlow packetLocal (assignedFlow table key event.now) direction event) := by
  obtain ⟨looked, index, -, -, lookup, slot, -⟩ :=
    flowCapture_tracked packetLocal wellformed tracked
  simp only [Machine.output, flowObserving, lookup, slot, Option.map_some]

/-- The run of all packets and the run of the key's packets alone show the key the same, from any
two tables that agree. -/
theorem observations_eq (leftConsistent : left.Consistent) (rightConsistent : right.Consistent)
    (limits : left.limits = right.limits) (agree : AgreeAt clock key left right)
    (after : ∀ event ∈ events, clock ≤ event.now)
    (ordered : events.Pairwise fun earlier later => earlier.now ≤ later.now)
    (noEviction : (flowObserving packetLocal).AllSteps NoCapacityEviction left events) :
    (flowObserving packetLocal).selectedOutputs (belongsTo key) left events =
      (flowObserving packetLocal).outputs right (events.filter (belongsTo key)) := by
  induction events generalizing left right clock with
  | nil => rfl
  | cons event events inductionHypothesis =>
      have now := agree.later limits (after event List.mem_cons_self)
      have leftLimits := next_limits packetLocal leftConsistent.toWellformed event
      have rest : ∀ other ∈ events, event.now ≤ other.now := (List.pairwise_cons.mp ordered).1
      have stillOrdered := (List.pairwise_cons.mp ordered).2
      have leftNext : ((flowObserving packetLocal).next left event).Consistent :=
        leftConsistent.next event
      by_cases belongs : connectionOf event = some key
      · have selected : belongsTo key event = true := decide_eq_true belongs
        obtain ⟨keyed, tracked, same⟩ := Option.map_eq_some_iff.mp belongs
        rcases keyed with ⟨own, direction⟩
        obtain rfl : own = key := same
        have rightNext : ((flowObserving packetLocal).next right event).Consistent :=
          rightConsistent.next event
        rw [Machine.selectedOutputs, if_pos selected, List.filter_cons_of_pos selected,
          Machine.outputs_cons, flowObserving_output leftConsistent.toWellformed tracked,
          flowObserving_output rightConsistent.toWellformed tracked,
          now.assigned_eq limits leftConsistent.toWellformed rightConsistent.toWellformed]
        congr 1
        apply inductionHypothesis leftNext rightNext _ _ rest stillOrdered noEviction.2
        · exact leftLimits.trans
            (limits.trans (next_limits packetLocal rightConsistent.toWellformed event).symm)
        · exact now.both limits leftConsistent rightConsistent belongs
      · have skipped : ¬ belongsTo key event = true := by
          rw [belongsTo, decide_eq_true_eq]
          exact belongs
        rw [Machine.selectedOutputs, if_neg skipped, List.filter_cons_of_neg skipped]
        apply inductionHypothesis leftNext rightConsistent _ _ rest stillOrdered noEviction.2
        · exact leftLimits.trans limits
        · apply now.foreign leftConsistent belongs
          intro own owner
          exact noEviction.1.keepsRoomFor leftConsistent.toWellformed owner key

/-- Flows do not interfere: when timestamps do not decrease and nothing is evicted for want of a
slot, the packets of a key see the same flow, leave it in the same state and get the same decode
status as if they were the only packets captured. -/
theorem flows_do_not_interfere {maxFlows streamBufferBytes timeoutSeconds : Nat}
    (initialized : flowTableInit maxFlows streamBufferBytes timeoutSeconds = some initial)
    (key : FlowKey)
    (ordered : events.Pairwise fun earlier later => earlier.now ≤ later.now)
    (noEviction : (flowObserving packetLocal).AllSteps NoCapacityEviction initial events) :
    (flowObserving packetLocal).selectedOutputs (belongsTo key) initial events =
      (flowObserving packetLocal).outputs initial (events.filter (belongsTo key)) := by
  have consistent := flowTableInit_consistent initialized
  apply observations_eq consistent consistent rfl rfl _ ordered noEviction
  · exact 0
  · exact fun event _ => Nat.zero_le _

/-- Two conversations; the second one's packet evicts the first one's flow as idle before the
first one goes on. -/
def interleavedPackets : List FlowEvent :=
  [⟨sampleSegment .aToB 100 0 [1, 2], 5⟩,
    ⟨{ sampleSegment .aToB 900 0 [7] with srcPort := 4001 }, 80⟩,
    ⟨sampleSegment .aToB 102 0 [3], 90⟩]

theorem flows_do_not_interfere_interleavedPackets :
    (flowObserving true).selectedOutputs (belongsTo sampleKey)
        { maxFlows := 4, streamBufferBytes := 16, timeoutSeconds := 60 } interleavedPackets =
      (flowObserving true).outputs
        { maxFlows := 4, streamBufferBytes := 16, timeoutSeconds := 60 }
        (interleavedPackets.filter (belongsTo sampleKey)) :=
  flows_do_not_interfere (show flowTableInit 4 16 60 = some _ from by decide) sampleKey
    (by decide +kernel) (by decide +kernel)

end Observations

end MiniSniffer
