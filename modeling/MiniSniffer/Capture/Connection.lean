import MiniSniffer.Capture.FlagTracking

/-!
Contract: the flow table seen from one key.

Owns the connection machine, whose state is the flow of one key or nothing, and
the simulation by it: as long as neither the idle pass nor capacity pressure
evicts the key's flow, the table's entry for the key runs exactly like the
connection machine, whatever packets of other connections are interleaved. With
it come what the connection adds to the created and FIN-closed counters.

Does not own any property of one particular trace: see `Capture.GracefulClose`.
-/

namespace MiniSniffer

open Foundation

/-- The key of the flow a packet belongs to. -/
def connectionOf (event : FlowEvent) : Option FlowKey := (trackedAs event.packet).map Prod.fst

/-- The flow, unless it is closed: what the closed pass of a lookup leaves. -/
def openPart (entry : Option FlowInfo) : Option FlowInfo :=
  entry.filter fun flow => !flowIsClosed flow

/-! ### The connection machine -/

/-- A packet of the connection visits its flow, or a fresh one when there is none left; a packet of
another connection only makes a closed flow leave. -/
def connection (packetLocal : Bool) (streamBufferBytes : Nat) (key : FlowKey) :
    Machine (Option FlowInfo) FlowEvent Unit where
  step entry event :=
    (match trackedAs event.packet with
    | none => entry
    | some (own, direction) =>
        if own = key then
          some (visitFlow packetLocal
            ((openPart entry).getD (freshFlow streamBufferBytes key event.now)) direction event)
        else openPart entry, ())

/-- The flows a packet makes the connection create. -/
def createdFlows (key : FlowKey) (entry : Option FlowInfo) (event : FlowEvent) : Nat :=
  if connectionOf event = some key ∧ openPart entry = none then 1 else 0

/-- The finished flows of the connection that leave before a packet is assigned. -/
def finishedFlows (entry : Option FlowInfo) (event : FlowEvent) : Nat :=
  if connectionOf event ≠ none ∧ entry.any flowIsFinished = true then 1 else 0

/-! ### What the table counts for one key -/

/-- Neither the idle pass nor capacity pressure removes the key's flow at this packet. -/
def Spared (key : FlowKey) (table : FlowTable) (event : FlowEvent) : Prop :=
  match trackedAs event.packet with
  | none => True
  | some (own, _) =>
      flowOf (flowTableEvictIdle table event.now) key = flowOf table key ∧
        flowOf (afterEvictions table own event.now) key =
          flowOf (evictStaleFlows table event.now) key

/-- What a packet of the connection adds to `flows_created`. -/
def createdBy (packetLocal : Bool) (key : FlowKey) (table : FlowTable) (event : FlowEvent) : Nat :=
  if connectionOf event = some key then
    ((flowCapture packetLocal).next table event).flowsCreated - table.flowsCreated
  else 0

/-- The flows of the key among those a closed pass counts into `flows_closed_fin`. -/
def finishedOf (key : FlowKey) (table : FlowTable) : Nat :=
  (table.flows.filter fun flow => decide (flow.key = key) && flowIsFinished flow).length

/-- What the connection adds to `flows_closed_fin` when a packet is looked up. -/
def finishedBy (key : FlowKey) (table : FlowTable) (event : FlowEvent) : Nat :=
  if connectionOf event = none then 0
  else finishedOf key (flowTableEvictIdle table event.now)

section Projection

variable {packetLocal : Bool} {table : FlowTable} {event : FlowEvent} {key own : FlowKey}
variable {direction : FlowDirection}

theorem connectionOf_tracked (tracked : trackedAs event.packet = some (own, direction)) :
    connectionOf event = some own := by
  rw [connectionOf, tracked]
  rfl

theorem connectionOf_untracked (untracked : trackedAs event.packet = none) :
    connectionOf event = none := by
  rw [connectionOf, untracked]
  rfl

theorem flowTableEvictIdle_distinct (wellformed : table.Wellformed) (now : Nat) :
    DistinctKeys FlowInfo.key (flowTableEvictIdle table now).flows := by
  rw [flowTableEvictIdle_flows]
  exact wellformed.distinct.filter _

theorem flowOf_evictClosed (distinct : DistinctKeys FlowInfo.key table.flows) (key : FlowKey) :
    flowOf (flowTableEvictClosed table) key = openPart (flowOf table key) := by
  rw [flowOf, flowTableEvictClosed_flows, lookup_filter distinct]
  rfl

/-- A spared flow meets the packet's assignment exactly if it is open. -/
theorem Spared.flowOf_afterEvictions (wellformed : table.Wellformed)
    (spared : Spared key table event) (tracked : trackedAs event.packet = some (own, direction)) :
    flowOf (afterEvictions table own event.now) key = openPart (flowOf table key) := by
  simp only [Spared, tracked] at spared
  rw [spared.2, evictStaleFlows,
    flowOf_evictClosed (flowTableEvictIdle_distinct wellformed event.now), spared.1]

theorem flowOf_next (consistent : table.Consistent) (spared : Spared key table event) :
    flowOf ((flowCapture packetLocal).next table event) key =
      (connection packetLocal table.streamBufferBytes key).next (flowOf table key) event := by
  cases tracked : trackedAs event.packet with
  | none =>
      rw [flowCapture_untracked tracked]
      simp only [Machine.next, connection, tracked]
  | some keyed =>
      obtain ⟨own, direction⟩ := keyed
      have left := spared.flowOf_afterEvictions consistent.toWellformed tracked
      simp only [Machine.next, connection, tracked]
      by_cases same : own = key
      · subst same
        rw [if_pos rfl]
        exact (flowOf_next_self consistent tracked).trans (by rw [assignedFlow, left])
      · rw [if_neg same]
        exact (flowOf_next_other consistent tracked (Ne.symm same)).trans left

theorem next_streamBufferBytes (consistent : table.Consistent) :
    ((flowCapture packetLocal).next table event).streamBufferBytes = table.streamBufferBytes := by
  cases tracked : trackedAs event.packet with
  | none => rw [flowCapture_untracked tracked]
  | some keyed =>
      obtain ⟨own, direction⟩ := keyed
      obtain ⟨looked, index, -, limits, -, -, -, -, -, -, next⟩ :=
        flowCapture_tracked packetLocal consistent.toWellformed tracked
      rw [next]
      exact (Prod.mk.inj (Prod.mk.inj limits).2).1

theorem createdBy_eq (consistent : table.Consistent) (spared : Spared key table event) :
    createdBy packetLocal key table event = createdFlows key (flowOf table key) event := by
  unfold createdBy createdFlows
  by_cases belongs : connectionOf event = some key
  · rw [if_pos belongs]
    cases tracked : trackedAs event.packet with
    | none =>
        rw [connectionOf_untracked tracked] at belongs
        contradiction
    | some keyed =>
        obtain ⟨own, direction⟩ := keyed
        rw [connectionOf_tracked tracked, Option.some.injEq] at belongs
        subst belongs
        obtain ⟨looked, index, -, -, -, -, -, created, -, -, next⟩ :=
          flowCapture_tracked packetLocal consistent.toWellformed tracked
        rw [next]
        show looked.flowsCreated - _ = _
        rw [created, spared.flowOf_afterEvictions consistent.toWellformed tracked,
          connectionOf_tracked tracked]
        split_ifs <;> simp_all
  · rw [if_neg belongs, if_neg fun both => belongs both.1]

theorem finishedOf_eq (distinct : DistinctKeys FlowInfo.key table.flows) (key : FlowKey) :
    finishedOf key table = if (flowOf table key).any flowIsFinished then 1 else 0 :=
  length_filter_key distinct key flowIsFinished

theorem finishedBy_eq (wellformed : table.Wellformed) (spared : Spared key table event) :
    finishedBy key table event = finishedFlows (flowOf table key) event := by
  unfold finishedBy finishedFlows
  cases tracked : trackedAs event.packet with
  | none => simp [connectionOf_untracked tracked]
  | some keyed =>
      obtain ⟨own, direction⟩ := keyed
      simp only [Spared, tracked] at spared
      rw [finishedOf_eq (flowTableEvictIdle_distinct wellformed event.now), spared.1,
        connectionOf_tracked tracked]
      simp

/-- The closed pass of a lookup counts, over all keys, every finished flow once. -/
theorem evictStaleFlows_flowsClosedFin (table : FlowTable) (now : Nat) :
    (evictStaleFlows table now).flowsClosedFin = table.flowsClosedFin +
      ((flowTableEvictIdle table now).flows.filter flowIsFinished).length := by
  rw [evictStaleFlows, flowTableEvictClosed_flowsClosedFin,
    flowTableEvictIdle_frame _ _ _ evictIdleAt_flowsClosedFin]

/-- Over a run that spares the key's flow, the table's entry for the key is the connection machine's
state, and what the table counts for the key is what the connection adds up. -/
theorem flowOf_run (consistent : table.Consistent) {events : List FlowEvent}
    (spared : (flowCapture packetLocal).AllSteps (Spared key) table events) :
    flowOf ((flowCapture packetLocal).run table events) key =
        (connection packetLocal table.streamBufferBytes key).run (flowOf table key) events ∧
      (flowCapture packetLocal).tally (createdBy packetLocal key) table events =
        (connection packetLocal table.streamBufferBytes key).tally (createdFlows key)
          (flowOf table key) events ∧
      (flowCapture packetLocal).tally (finishedBy key) table events =
        (connection packetLocal table.streamBufferBytes key).tally finishedFlows
          (flowOf table key) events := by
  induction events generalizing table with
  | nil => exact ⟨rfl, rfl, rfl⟩
  | cons event events inductionHypothesis =>
      have rest := inductionHypothesis (consistent.next event) spared.2
      rw [flowOf_next consistent spared.1, next_streamBufferBytes consistent] at rest
      refine ⟨rest.1, ?_, ?_⟩
      · rw [Machine.tally_cons, Machine.tally_cons, createdBy_eq consistent spared.1, rest.2.1]
      · rw [Machine.tally_cons, Machine.tally_cons,
          finishedBy_eq consistent.toWellformed spared.1, rest.2.2]

/-- A condition on the key's entry holds at every step of the table exactly if it holds at every
step of the connection. -/
theorem allSteps_connection_iff (condition : Option FlowInfo → FlowEvent → Prop)
    (consistent : table.Consistent) {events : List FlowEvent}
    (spared : (flowCapture packetLocal).AllSteps (Spared key) table events) :
    (flowCapture packetLocal).AllSteps (fun table event => condition (flowOf table key) event)
        table events ↔
      (connection packetLocal table.streamBufferBytes key).AllSteps condition (flowOf table key)
        events := by
  induction events generalizing table with
  | nil => exact Iff.rfl
  | cons event events inductionHypothesis =>
      have rest := inductionHypothesis (consistent.next event) spared.2
      rw [flowOf_next consistent spared.1, next_streamBufferBytes consistent] at rest
      rw [Machine.allSteps_cons, Machine.allSteps_cons, rest]

end Projection

end MiniSniffer
