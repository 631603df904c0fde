import MiniSniffer.Capture.Connection
import MiniSniffer.Capture.Eviction
import MiniSniffer.Capture.Isolation
import MiniSniffer.Capture.Memory
import MiniSniffer.Foundation.LastValue

/-!
Contract: how long a bounded flow table keeps a connection.

Owns the condition on the traffic alone under which neither the idle timeout nor capacity pressure
takes a connection's flow: since the connection's last packet less than the timeout has passed, and
fewer other connections than the table has slots were seen. Under it the table keeps, for the
connection, what a table without bounds would keep.

Does not own closed flows, which leave in both tables.
-/

namespace MiniSniffer

open Foundation

/-! ### Traffic -/

/-- When the connection was last seen. -/
def lastSeenOf (key : FlowKey) (past : List FlowEvent) : Option Nat :=
  lastValue (fun event => if connectionOf event = some key then some event.now else none) past

/-- The connections seen at a time or later. -/
def activeSince (since : Nat) (past : List FlowEvent) : Finset FlowKey :=
  ((past.filter fun event => since ≤ event.now).filterMap connectionOf).toFinset

/-- At a tracked packet, the connection is not idle, and with the packet's own the other connections
seen since its last packet are fewer than the slots. -/
def Warm (maxFlows timeoutSeconds : Nat) (key : FlowKey) (past : List FlowEvent)
    (event : FlowEvent) : Prop :=
  ∀ own ∈ connectionOf event, ∀ seen ∈ lastSeenOf key past,
    ¬ IdleFor timeoutSeconds event.now seen ∧
      ((insert own (activeSince seen past)).erase key).card < maxFlows

instance (maxFlows timeoutSeconds : Nat) (key : FlowKey) (past : List FlowEvent)
    (event : FlowEvent) : Decidable (Warm maxFlows timeoutSeconds key past event) :=
  inferInstanceAs (Decidable (∀ own ∈ connectionOf event, ∀ seen ∈ lastSeenOf key past, _))

/-- Every flow was last seen when its connection was. -/
def FlowTable.Stamped (table : FlowTable) (past : List FlowEvent) : Prop :=
  ∀ flow ∈ table.flows, lastSeenOf flow.key past = some flow.lastSeenTime

section Traffic

variable {packetLocal : Bool} {table : FlowTable} {past : List FlowEvent} {event : FlowEvent}
variable {key own : FlowKey} {direction : FlowDirection} {flow : FlowInfo} {since : Nat}

theorem lastSeenOf_concat (key : FlowKey) (past : List FlowEvent) (event : FlowEvent) :
    lastSeenOf key (past ++ [event]) =
      if connectionOf event = some key then some event.now else lastSeenOf key past := by
  rw [lastSeenOf, lastValue_concat]
  split <;> rfl

theorem mem_activeSince_of_lastSeen {seen : Nat} (found : lastSeenOf key past = some seen)
    (later : since ≤ seen) : key ∈ activeSince since past := by
  obtain ⟨event, member, stamp⟩ := lastValue_eq_some found
  split at stamp
  next belongs =>
    have now : event.now = seen := Option.some.inj stamp
    rw [activeSince, List.mem_toFinset, List.mem_filterMap]
    exact ⟨event, List.mem_filter.mpr ⟨member, decide_eq_true (now ▸ later)⟩, belongs⟩
  next => contradiction

theorem visitFlow_lastSeenTime (packetLocal : Bool) (flow : FlowInfo) (direction : FlowDirection)
    (event : FlowEvent) :
    (visitFlow packetLocal flow direction event).lastSeenTime = event.now := by
  have decoded : (flowDecodeStreamApp (flowUpdatePacket flow event.packet event.now direction)
      direction event.packet).1.lastSeenTime = event.now := by
    have updated : (flowUpdatePacket flow event.packet event.now direction).lastSeenTime =
        event.now := by
      cases direction <;> rfl
    exact (flowDecodeStreamApp_frame FlowInfo.lastSeenTime
      (fun _ direction _ => by cases direction <;> rfl) fun _ _ => rfl).trans updated
  rcases @visitFlow_cases packetLocal flow direction event with same | ⟨app, classified⟩
  · rw [same]
    exact decoded
  · rw [classified]
    exact decoded

theorem FlowTable.Stamped.next (stamped : table.Stamped past) (wellformed : table.Wellformed)
    (event : FlowEvent) :
    ((flowCapture packetLocal).next table event).Stamped (past ++ [event]) := by
  cases tracked : trackedAs event.packet with
  | none =>
      rw [flowCapture_untracked tracked]
      intro flow member
      rw [lastSeenOf_concat, connectionOf_untracked tracked]
      exact stamped flow member
  | some keyed =>
      obtain ⟨own, direction⟩ := keyed
      obtain ⟨looked, index, lookedWellformed, -, -, slot, assigned, -, members, -, next⟩ :=
        flowCapture_tracked packetLocal wellformed tracked
      have visited := visitFlow_key packetLocal direction event
        (wellformed.assigned_buffered own event.now)
      have nextDistinct := (lookedWellformed.set slot visited.1 visited.2).distinct
      rw [next]
      intro flow member
      rw [lastSeenOf_concat, connectionOf_tracked tracked]
      by_cases belongs : own = flow.key
      · -- Keys are distinct, so the flow is the one just visited.
        have bound := (List.getElem?_eq_some_iff.mp slot).1
        have written : visitFlow packetLocal (assignedFlow table own event.now) direction event ∈
            looked.flows.set index
              (visitFlow packetLocal (assignedFlow table own event.now) direction event) :=
          List.mem_set bound _
        have same := nextDistinct.lookup_eq_some_iff.mpr ⟨written, visited.1.trans assigned⟩
        have mine := nextDistinct.lookup_eq_some_iff.mpr ⟨member, belongs.symm⟩
        rw [same] at mine
        rw [if_pos (congrArg some belongs), ← Option.some.inj mine, visitFlow_lastSeenTime]
      · rw [if_neg fun same => belongs (Option.some.inj same)]
        rcases List.mem_or_eq_of_mem_set member with old | rfl
        · rcases members flow old with stayed | rfl
          · exact stamped flow ((afterEvictions_sublist _ _ _).subset stayed)
          · exact absurd rfl belongs
        · exact absurd (visited.1.trans assigned).symm belongs

end Traffic

/-! ### Capacity -/

section Capacity

variable {packetLocal : Bool} {table : FlowTable} {past : List FlowEvent} {event : FlowEvent}
variable {key own : FlowKey} {direction : FlowDirection} {flow : FlowInfo} {now : Nat}

/-- Where the least recently seen flow of a full table is the key's, its other flows and a new one
are as many recent connections as the table has slots. -/
theorem recent_of_oldest {flows : List FlowInfo} (distinct : DistinctKeys FlowInfo.key flows)
    (stamped : ∀ flow ∈ flows, lastSeenOf flow.key past = some flow.lastSeenTime)
    (member : flow ∈ flows) (oldest : ∀ other ∈ flows, flow.lastSeenTime ≤ other.lastSeenTime)
    (absent : ∀ other ∈ flows, other.key ≠ own) :
    flows.length ≤ ((insert own (activeSince flow.lastSeenTime past)).erase flow.key).card := by
  have fresh : (freshFlow 0 own 0).key = own := rfl
  have extended : DistinctKeys FlowInfo.key (flows ++ [freshFlow 0 own 0]) :=
    distinct.append (lookup_eq_none_iff.mpr absent)
  have within : ∀ entry ∈ flows ++ [freshFlow 0 own 0],
      entry.key ∈ insert own (activeSince flow.lastSeenTime past) := by
    intro entry listed
    rcases List.mem_append.mp listed with old | new
    · exact Finset.mem_insert_of_mem
        (mem_activeSince_of_lastSeen (stamped entry old) (oldest entry old))
    · rw [List.mem_singleton.mp new]
      exact Finset.mem_insert_self _ _
  have counted := extended.length_le_card within
  rw [Finset.card_erase_of_mem (within flow (List.mem_append_left _ member))]
  simp only [List.length_append, List.length_singleton] at counted
  omega

/-- Making room for another connection spares a flow that fewer than the slots rival. -/
theorem makeRoom_spares (wellformed : table.Wellformed) (stamped : table.Stamped past)
    (found : flowOf table key = some flow) (absent : flowOf table own = none)
    (few : ((insert own (activeSince flow.lastSeenTime past)).erase key).card < table.maxFlows) :
    flowOf (makeRoomForFlow table) key = some flow := by
  unfold makeRoomForFlow
  split
  next full =>
    have member := lookup_mem found
    obtain ⟨oldest, slot, -⟩ := oldestIndex_minimal member
    have located := List.mem_of_getElem? slot
    rw [flowOf, evictOldestFlow_flows, lookup_eraseIdx wellformed.distinct slot]
    split
    next same =>
      have mine : oldest = flow := by
        have own := wellformed.distinct.lookup_eq_some_iff.mpr ⟨located, same⟩
        exact Option.some.inj (own.symm.trans found)
      subst mine
      have older : ∀ other ∈ table.flows, oldest.lastSeenTime ≤ other.lastSeenTime := by
        intro other listed
        obtain ⟨candidate, sameSlot, earlier⟩ := oldestIndex_minimal listed
        rw [slot] at sameSlot
        rwa [Option.some.inj sameSlot]
      have many := recent_of_oldest wellformed.distinct stamped located older
        (lookup_eq_none_iff.mp absent)
      rw [same] at many
      exact absurd few (not_lt.mpr (full.trans many))
    next => exact found
  next => exact found

/-- Warm traffic spares the connection's flow. -/
theorem Warm.spared (warm : Warm table.maxFlows table.timeoutSeconds key past event)
    (wellformed : table.Wellformed) (stamped : table.Stamped past) :
    Spared key table event := by
  unfold Spared
  cases tracked : trackedAs event.packet with
  | none => trivial
  | some keyed =>
      obtain ⟨own, direction⟩ := keyed
      dsimp only
      cases found : flowOf table key with
      | none =>
          have gone : ∀ smaller : FlowTable, smaller.flows.Sublist table.flows →
              flowOf smaller key = none := by
            intro smaller sublist
            rw [flowOf, lookup_eq_none_iff]
            exact fun flow member => lookup_eq_none_iff.mp found flow (sublist.subset member)
          refine ⟨gone _ ?_, (gone _ (afterEvictions_sublist table own event.now)).trans
            (gone _ (evictStaleFlows_sublist table event.now)).symm⟩
          rw [flowTableEvictIdle_flows]
          exact List.filter_sublist
      | some flow =>
          have keyed := lookup_key found
          have seen := stamped flow (lookup_mem found)
          rw [keyed] at seen
          obtain ⟨recent, few⟩ := warm own (connectionOf_tracked tracked) flow.lastSeenTime seen
          have kept : flowOf (flowTableEvictIdle table event.now) key = some flow := by
            rw [flowOf, (flowTableEvictIdle_exact table event.now).flows_eq,
              lookup_filter wellformed.distinct]
            simp only [flowOf] at found
            simp [found, recent]
          have stale := wellformed.fewer (evictStaleFlows_sublist table event.now)
            (evictStaleFlows_limits table event.now)
          have staleStamped : (evictStaleFlows table event.now).Stamped past := fun flow member =>
            stamped flow ((evictStaleFlows_sublist table event.now).subset member)
          refine ⟨kept, ?_⟩
          cases placed : position FlowInfo.key (evictStaleFlows table event.now).flows own with
          | some index => rw [afterEvictions_of_placed placed]
          | none =>
              rw [afterEvictions_of_absent placed]
              have opened :
                  flowOf (evictStaleFlows table event.now) key = openPart (some flow) := by
                rw [evictStaleFlows, flowOf_evictClosed
                  (flowTableEvictIdle_distinct wellformed event.now), kept]
              rw [opened]
              cases stays : openPart (some flow) with
              | none =>
                  rw [stays] at opened
                  rw [flowOf, lookup_eq_none_iff]
                  intro flow member
                  exact lookup_eq_none_iff.mp opened flow
                    ((makeRoomForFlow_sublist _).subset member)
              | some left =>
                  have same : left = flow :=
                    (Option.some.inj (Option.filter_eq_some_iff.mp stays).1).symm
                  subst same
                  rw [stays] at opened
                  have limits := evictStaleFlows_limits table event.now
                  simp only [FlowTable.limits, Prod.mk.injEq] at limits
                  exact makeRoom_spares stale staleStamped opened (position_eq_none_iff.mp placed)
                    (by rw [limits.1]; exact few)

end Capacity

/-! ### Runs -/

section Runs

variable {packetLocal : Bool} {table : FlowTable} {key : FlowKey}

/-- Warm traffic spares the connection at every packet. -/
theorem allSteps_spared (consistent : table.Consistent) {past : List FlowEvent}
    (stamped : table.Stamped past) {events : List FlowEvent}
    (warm : (Machine.history FlowEvent).AllSteps (Warm table.maxFlows table.timeoutSeconds key)
      past events) :
    (flowCapture packetLocal).AllSteps (Spared key) table events := by
  induction events generalizing table past with
  | nil => trivial
  | cons event events inductionHypothesis =>
      have limits := next_limits packetLocal consistent.toWellformed event
      simp only [FlowTable.limits, Prod.mk.injEq] at limits
      refine ⟨warm.1.spared consistent.toWellformed stamped, ?_⟩
      rw [Machine.allSteps_cons] at warm
      exact inductionHypothesis (consistent.next event)
        (stamped.next consistent.toWellformed event) (by rw [limits.1, limits.2.2]; exact warm.2)

/-- Under warm traffic, what a bounded table holds for a connection and the flows it creates for it
are those of a table without timeout and capacity. -/
theorem flow_retained (packetLocal : Bool) {maxFlows streamBufferBytes timeoutSeconds : Nat}
    (initialized : flowTableInit maxFlows streamBufferBytes timeoutSeconds = some table)
    (key : FlowKey) (events : List FlowEvent)
    (warm : (Machine.history FlowEvent).AllSteps (Warm maxFlows timeoutSeconds key) [] events) :
    flowOf ((flowCapture packetLocal).run table events) key =
        (connection packetLocal streamBufferBytes key).run none events ∧
      (flowCapture packetLocal).tally (createdBy packetLocal key) table events =
        (connection packetLocal streamBufferBytes key).tally (createdFlows key) none events := by
  have capped := (flowTableInit_capped initialized).2
  simp only [FlowTable.limits, Prod.mk.injEq] at capped
  obtain ⟨rfl, rfl, rfl⟩ := capped
  have consistent := flowTableInit_consistent initialized
  have empty := flowTableInit_flows initialized
  have stamped : table.Stamped [] := by
    intro flow member
    rw [empty] at member
    contradiction
  have absent : flowOf table key = none := by
    rw [flowOf, empty]
    rfl
  have spared : (flowCapture packetLocal).AllSteps (Spared key) table events :=
    allSteps_spared consistent stamped warm
  have projected := flowOf_run consistent spared
  rw [absent] at projected
  exact ⟨projected.1, projected.2.1⟩

/-- Two slots and three packets: the other connection takes the free slot. -/
def sampleTraffic : List FlowEvent :=
  [⟨sampleSegment .aToB 100 2 [], 1⟩, ⟨{ sampleSegment .aToB 7 2 [] with srcPort := 4001 }, 30⟩,
    ⟨sampleSegment .bToA 500 18 [], 60⟩]

theorem flow_retained_sampleTraffic :
    flowOf ((flowCapture true).run { maxFlows := 2, streamBufferBytes := 8, timeoutSeconds := 60 }
        sampleTraffic) sampleKey = (connection true 8 sampleKey).run none sampleTraffic ∧
      ((connection true 8 sampleKey).run none sampleTraffic).map FlowInfo.packetCount = some 2 :=
  ⟨(flow_retained true (show flowTableInit 2 8 60 = some _ from rfl) sampleKey sampleTraffic
    (by decide +kernel)).1, by decide +kernel⟩

end Runs

end MiniSniffer
