import MiniSniffer.Capture.Operations
import MiniSniffer.Flow.Identity

/-!
Contract: the flow table is a finite map keyed by normalised endpoints.

Owns what a lookup promises its caller on any table that capture-path operations lead to: it always
answers, the flow it answers has the packet's key, and the flows it takes away are the idle ones,
the closed ones, and one least recently seen flow when a new one needs its slot. With it come the
invariants of the map: endpoints in order, and packet and byte counts that add up.

Does not own what is done to the flow that was looked up.
-/

namespace MiniSniffer

open Foundation

/-! ### Endpoint order -/

section Endpoints

/-- Endpoint A comes first. -/
def FlowKey.Ordered (key : FlowKey) : Prop :=
  compareEndpoint key.aIp key.aPort key.bIp key.bPort ≠ .gt

/-- A TCP packet's key has its endpoints in order, whichever way the packet goes. -/
theorem trackedAs_ordered {packet : PacketInfo} {key : FlowKey} {direction : FlowDirection}
    (tracked : trackedAs packet = some (key, direction)) : key.Ordered := by
  unfold trackedAs at tracked
  split at tracked
  · contradiction
  next isTcp =>
    unfold flowKeyFromPacket at tracked
    split at tracked
    · contradiction
    · split at tracked
      next transport source destination _ _ _ =>
        split_ifs at tracked with swapped
        · simp only [Option.some.injEq, Prod.mk.injEq] at tracked
          simp only [Bool.and_eq_true, decide_eq_true_eq] at swapped
          rw [← tracked.1, FlowKey.Ordered, compareEndpoint_swap, swapped.2]
          decide
        · simp only [Option.some.injEq, Prod.mk.injEq] at tracked
          rw [← tracked.1]
          intro greater
          apply swapped
          simp only [Bool.and_eq_true, decide_eq_true_eq]
          exact ⟨not_not.mp isTcp, greater⟩
      · contradiction

/-- A TCP packet with ports and addresses has a key. -/
theorem flowKeyFromPacket_isSome {packet : PacketInfo} (isTcp : packet.protocol = .tcp)
    (ported : packet.hasPorts = true) (source : packet.srcIp ≠ .empty)
    (destination : packet.dstIp ≠ .empty) :
    ∃ key direction, flowKeyFromPacket packet = some (key, direction) := by
  have parses : ∀ text : IpText, text ≠ .empty → ∃ address, parseIpAddress text = some address := by
    intro text present
    cases text with
    | empty => exact absurd rfl present
    | ipv4 bytes => exact ⟨_, rfl⟩
    | ipv6 bytes => exact ⟨_, rfl⟩
  obtain ⟨srcIp, srcEq⟩ := parses packet.srcIp source
  obtain ⟨dstIp, dstEq⟩ := parses packet.dstIp destination
  unfold flowKeyFromPacket
  rw [if_neg (by simp [ported]), srcEq, dstEq, isTcp]
  simp only [packetProtocolToFlowProtocol]
  split
  · exact ⟨_, _, rfl⟩
  · exact ⟨_, _, rfl⟩

end Endpoints

/-! ### Counts -/

/-- Packets and bytes of a flow, and of its two directions. -/
def FlowInfo.traffic (flow : FlowInfo) : (Nat × Nat) × (Nat × Nat) × (Nat × Nat) :=
  ((flow.packetCount, flow.byteCount), (flow.aToB.packetCount, flow.aToB.byteCount),
    (flow.bToA.packetCount, flow.bToA.byteCount))

/-- The counts of a flow are the sums over its two directions. -/
structure FlowInfo.Counted (flow : FlowInfo) : Prop where
  packets : flow.packetCount = flow.aToB.packetCount + flow.bToA.packetCount
  bytes : flow.byteCount = flow.aToB.byteCount + flow.bToA.byteCount

section Counts

variable {flow other : FlowInfo} {direction : FlowDirection} {packet : PacketInfo}

theorem FlowInfo.Counted.congr (counted : flow.Counted) (same : other.traffic = flow.traffic) :
    other.Counted := by
  simp only [FlowInfo.traffic, Prod.mk.injEq] at same
  rcases same with ⟨⟨packets, bytes⟩, ⟨aPackets, aBytes⟩, bPackets, bBytes⟩
  exact
    { packets := by rw [packets, aPackets, bPackets, counted.packets]
      bytes := by rw [bytes, aBytes, bBytes, counted.bytes] }

@[simp] theorem setTcp_traffic (flow : FlowInfo) (direction : FlowDirection)
    (tcp : TcpReassemblyDirection) : (flow.setTcp direction tcp).traffic = flow.traffic := by
  cases direction <;> rfl

@[simp] theorem classifyFlow_traffic (flow : FlowInfo) (app : AppInfo) :
    (classifyFlow flow app).traffic = flow.traffic := rfl

theorem feedStream_traffic (flow : FlowInfo) (direction : FlowDirection) (packet : PacketInfo) :
    (feedStream flow direction packet).1.traffic = flow.traffic := by
  have prepared : (flowPrepareReassemblyDirection flow direction).1.traffic = flow.traffic := by
    unfold flowPrepareReassemblyDirection
    split_ifs
    · rfl
    · rfl
    · split <;> exact setTcp_traffic flow direction _
  unfold feedStream
  split
  next failed equal =>
    rw [equal] at prepared
    exact prepared
  next ready equal =>
    rw [equal] at prepared
    simp only
    split_ifs <;> simpa using prepared

theorem decode_traffic (flow : FlowInfo) (direction : FlowDirection) (packet : PacketInfo) :
    (flowDecodeStreamApp flow direction packet).1.traffic = flow.traffic := by
  unfold flowDecodeStreamApp
  split_ifs
  · rfl
  · exact setTcp_traffic _ _ _
  · exact feedStream_traffic flow direction packet

theorem visit_counted (visit : FlowVisit) (counted : flow.Counted) :
    (visit.apply flow).Counted := by
  cases visit with
  | update packet now direction =>
      have packets := counted.packets
      have bytes := counted.bytes
      cases direction with
      | aToB =>
          exact
            { packets := by
                show flow.packetCount + 1 = flow.aToB.packetCount + 1 + flow.bToA.packetCount
                omega
              bytes := by
                show flow.byteCount + packet.size =
                  flow.aToB.byteCount + packet.size + flow.bToA.byteCount
                omega }
      | bToA =>
          exact
            { packets := by
                show flow.packetCount + 1 = flow.aToB.packetCount + (flow.bToA.packetCount + 1)
                omega
              bytes := by
                show flow.byteCount + packet.size =
                  flow.aToB.byteCount + (flow.bToA.byteCount + packet.size)
                omega }
  | decode direction packet => exact counted.congr (decode_traffic flow direction packet)
  | classify packet =>
      apply counted.congr
      rcases classifyFromPacket_cases flow packet with same | ⟨app, classified⟩
      · rw [FlowVisit.apply, same]
      · rw [FlowVisit.apply, classified, classifyFlow_traffic]
  | print => exact counted.congr rfl

end Counts

/-! ### Lookup -/

/-- The invariants of the map. -/
structure FlowTable.FiniteMap (table : FlowTable) : Prop where
  distinct : DistinctKeys FlowInfo.key table.flows
  ordered : ∀ flow ∈ table.flows, flow.key.Ordered
  bounded : table.flows.length ≤ table.maxFlows
  counted : ∀ flow ∈ table.flows, flow.Counted

/-- The flows that a lookup of a key leaves, out of those that are neither idle nor closed: all of
them, with a fresh flow at the end if the key is absent, in place of a least recently seen one if
there is no other slot. -/
inductive LookupLeaves (maxFlows : Nat) (key : FlowKey) (fresh : FlowInfo)
    (staying : List FlowInfo) : List FlowInfo → Prop where
  | found (flow : FlowInfo) (member : flow ∈ staying) (keyed : flow.key = key) :
      LookupLeaves maxFlows key fresh staying staying
  | created (absent : ∀ flow ∈ staying, flow.key ≠ key) (room : staying.length < maxFlows) :
      LookupLeaves maxFlows key fresh staying (staying ++ [fresh])
  | replaced (absent : ∀ flow ∈ staying, flow.key ≠ key) (full : maxFlows ≤ staying.length)
      (index : Nat) (oldest : FlowInfo) (slot : staying[index]? = some oldest)
      (minimal : ∀ flow ∈ staying, oldest.lastSeenTime ≤ flow.lastSeenTime) :
      LookupLeaves maxFlows key fresh staying (staying.eraseIdx index ++ [fresh])

section Lookup

variable {table : FlowTable} {packet : PacketInfo} {key : FlowKey} {direction : FlowDirection}

theorem FlowTable.Operated.finiteMap (operated : table.Operated) : table.FiniteMap where
  distinct := operated.wellformed.distinct
  ordered := operated.forall_flows (fun _ _ _ _ _ tracked => trackedAs_ordered tracked) (by
    intro visit flow buffered ordered
    rw [(visit.apply_key buffered).1]
    exact ordered)
  bounded := operated.wellformed.bounded
  counted := operated.forall_flows (fun _ _ _ _ _ _ => ⟨rfl, rfl⟩)
    fun visit _ _ counted => visit_counted visit counted

/-- What a tracked packet's lookup leaves in the table. -/
theorem getOrCreate_leaves (wellformed : table.Wellformed)
    (tracked : trackedAs packet = some (key, direction)) (now : Nat) :
    LookupLeaves table.maxFlows key (freshFlow table.streamBufferBytes key now)
      (table.flows.filter (stays table.timeoutSeconds now))
      (flowTableGetOrCreate table packet now).1.flows := by
  have staleFlows := evictStaleFlows_flows table now
  have staleLimits := evictStaleFlows_limits table now
  simp only [FlowTable.limits, Prod.mk.injEq] at staleLimits
  rw [← staleFlows]
  rcases flowTableGetOrCreate_spec now wellformed tracked with
    ⟨_, _, _, _, found, looked⟩ | ⟨absent, _, looked⟩
  · rw [looked]
    cases placed : position FlowInfo.key (evictStaleFlows table now).flows key with
    | some index =>
        rw [afterEvictions_of_placed placed] at found ⊢
        exact .found _ (lookup_mem found) (lookup_key found)
    | none =>
        rw [afterEvictions_of_absent placed] at found
        have missing := lookup_eq_none_iff.mp (position_eq_none_iff.mp placed)
        exact absurd (lookup_key found)
          (missing _ ((makeRoomForFlow_sublist _).subset (lookup_mem found)))
  · rw [looked]
    cases placed : position FlowInfo.key (evictStaleFlows table now).flows key with
    | some index =>
        rw [afterEvictions_of_placed placed] at absent
        obtain ⟨flow, _, located⟩ := lookup_of_position placed
        rw [flowOf, located] at absent
        contradiction
    | none =>
        have missing := lookup_eq_none_iff.mp (position_eq_none_iff.mp placed)
        simp only [createFlow, afterEvictions_streamBufferBytes]
        rw [afterEvictions_of_absent placed]
        unfold makeRoomForFlow
        split
        next full =>
          rw [evictOldestFlow_flows]
          have nonempty : 0 < (evictStaleFlows table now).flows.length := by
            have slots := wellformed.slots
            omega
          have bound := oldestIndex_lt nonempty
          refine .replaced missing (by omega) _ _ (List.getElem?_eq_getElem bound) ?_
          intro flow member
          obtain ⟨candidate, slot, earlier⟩ := oldestIndex_minimal member
          rw [List.getElem?_eq_getElem bound] at slot
          rw [Option.some.inj slot]
          exact earlier
        next free => exact .created missing (by omega)

/-- Flow table lookup is a finite map keyed by normalised endpoints. -/
theorem flowTableGetOrCreate_finiteMap (operated : table.Operated) (isTcp : packet.protocol = .tcp)
    (ported : packet.hasPorts = true) (source : packet.srcIp ≠ .empty)
    (destination : packet.dstIp ≠ .empty) (now : Nat) :
    ∃ looked key direction index flow, flowKeyFromPacket packet = some (key, direction) ∧
      flowTableGetOrCreate table packet now = (looked, some (index, direction)) ∧
      looked.flows[index]? = some flow ∧ flow.key = key ∧
      table.FiniteMap ∧ looked.FiniteMap ∧
      LookupLeaves table.maxFlows key (freshFlow table.streamBufferBytes key now)
        (table.flows.filter (stays table.timeoutSeconds now)) looked.flows := by
  obtain ⟨key, direction, keyed⟩ := flowKeyFromPacket_isSome isTcp ported source destination
  have tracked : trackedAs packet = some (key, direction) := by
    rw [trackedAs, if_neg (not_not.mpr isTcp), keyed]
  obtain ⟨looked, index, -, -, lookup, slot, ownKey, -⟩ := flowCapture_tracked false
    operated.wellformed (show trackedAs (FlowEvent.mk packet now).packet = _ from tracked)
  have leaves := getOrCreate_leaves operated.wellformed tracked now
  have after := (operated.next (.getOrCreate packet now)).finiteMap
  simp only [Machine.next, flowOperations] at after
  rw [lookup] at leaves after
  exact ⟨looked, key, direction, index, _, keyed, lookup, slot, ownKey, operated.finiteMap, after,
    leaves⟩

/-- A table with one slot, which another conversation holds. -/
def fullTable : FlowTable :=
  flowOperations.run { maxFlows := 1, streamBufferBytes := 8, timeoutSeconds := 60 }
    [.getOrCreate { sampleSegment .aToB 100 0 [1] with srcPort := 4001 } 5]

theorem flowTableGetOrCreate_finiteMap_fullTable :
    ∃ looked key direction index flow,
      flowKeyFromPacket (sampleSegment .bToA 700 0 [6]) = some (key, direction) ∧
      flowTableGetOrCreate fullTable (sampleSegment .bToA 700 0 [6]) 7 =
        (looked, some (index, direction)) ∧
      looked.flows[index]? = some flow ∧ flow.key = key ∧
      fullTable.FiniteMap ∧ looked.FiniteMap ∧
      LookupLeaves fullTable.maxFlows key (freshFlow fullTable.streamBufferBytes key 7)
        (fullTable.flows.filter (stays fullTable.timeoutSeconds 7)) looked.flows :=
  flowTableGetOrCreate_finiteMap ⟨1, 8, 60, _, rfl, ⟨_, rfl⟩⟩ rfl rfl (by decide) (by decide) 7

end Lookup

end MiniSniffer
