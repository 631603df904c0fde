import MiniSniffer.Capture.StreamDecode
import MiniSniffer.Flow.Lookup
import MiniSniffer.Tcp.ClosingFlags

/-!
Contract: runs of the flow capture machine.

Owns what one packet does to the table, said once: its own flow is looked up or
created and then visited, every other flow either stays as it is or is evicted by
the lookup. From it come the invariants of every captured table: distinct keys,
room, and a stream behind every direction that overflowed.

Does not own what a visit does to closing flags: see `Capture.FlagTracking`.
-/

namespace MiniSniffer

open Foundation

/-! ### A visit -/

section Visit

variable (flow : FlowInfo) (direction other : FlowDirection) (packet : PacketInfo)

theorem flowPrepareReassemblyDirection_eq (buffered : 0 < flow.streamBufferBytes) :
    flowPrepareReassemblyDirection flow direction =
      (if (flow.tcp direction).stream.data ≠ none then flow
      else flow.setTcp direction
        { stream := { data := some [], capacity := flow.streamBufferBytes },
          pendingByteCap := flow.streamBufferBytes }, true) := by
  unfold flowPrepareReassemblyDirection
  rw [if_neg (Nat.pos_iff_ne_zero.mp buffered)]
  split_ifs
  · rfl
  · rw [tcpReassemblyDirectionInit_eq buffered]

/-- The direction a data-bearing segment is processed in: the one it has, or a fresh one. -/
def preparedTcp (flow : FlowInfo) (direction : FlowDirection) : TcpReassemblyDirection :=
  if (flow.tcp direction).stream.data ≠ none then flow.tcp direction
  else
    { stream := { data := some [], capacity := flow.streamBufferBytes },
      pendingByteCap := flow.streamBufferBytes }

theorem flowPrepare_tcp (buffered : 0 < flow.streamBufferBytes) :
    ∃ prepared, flowPrepareReassemblyDirection flow direction = (prepared, true) ∧
      prepared.tcp direction = preparedTcp flow direction := by
  refine ⟨_, flowPrepareReassemblyDirection_eq flow direction buffered, ?_⟩
  unfold preparedTcp
  split_ifs
  · rfl
  · rw [tcp_setTcp, if_pos rfl]

/-- The direction once the packet's segment was processed. -/
def processedTcp (flow : FlowInfo) (direction : FlowDirection) (packet : PacketInfo) :
    TcpReassemblyDirection :=
  (tcpReassemblyProcessSegment (preparedTcp flow direction) packet.tcpSequence packet.tcpFlags
    packet.payloadBytes).1

/-- What the packet's segment is answered with. -/
def processedResult (flow : FlowInfo) (direction : FlowDirection) (packet : PacketInfo) :
    TcpReassemblyResult :=
  (tcpReassemblyProcessSegment (preparedTcp flow direction) packet.tcpSequence packet.tcpFlags
    packet.payloadBytes).2

/-- What the stream decoder makes of the direction once the segment was processed. -/
def streamDecoded (flow : FlowInfo) (direction : FlowDirection) (packet : PacketInfo) :
    AppDecodeResult × AppInfo :=
  appDecodeStream packet (streamBufferData (processedTcp flow direction packet).stream)

/-- Feeding a segment leaves the other direction alone and stores the processed direction; what the
stream then decodes to may classify the flow. -/
theorem feedStream_spec (buffered : 0 < flow.streamBufferBytes) :
    ∃ fed : FlowInfo, (∀ side, fed.tcp side =
        if side = direction then processedTcp flow direction packet else flow.tcp side) ∧
      fed.key = flow.key ∧ fed.streamBufferBytes = flow.streamBufferBytes ∧
      fed.appClassified = flow.appClassified ∧
      (feedStream flow direction packet).1 =
        if processedResult flow direction packet ≠ .dropped ∧
            Recognised (streamDecoded flow direction packet) then
          classifyFlow fed (streamDecoded flow direction packet).2
        else fed := by
  let prepared := (flowPrepareReassemblyDirection flow direction).1
  have preparedEq : flowPrepareReassemblyDirection flow direction = (prepared, true) := by
    simp only [prepared, flowPrepareReassemblyDirection_eq flow direction buffered]
  have preparedDef : prepared = if (flow.tcp direction).stream.data ≠ none then flow
      else flow.setTcp direction
        { stream := { data := some [], capacity := flow.streamBufferBytes },
          pendingByteCap := flow.streamBufferBytes } := by
    simp only [prepared, flowPrepareReassemblyDirection_eq flow direction buffered]
  have preparedTcpEq : ∀ side, prepared.tcp side =
      if side = direction then preparedTcp flow direction else flow.tcp side := by
    intro side
    rw [preparedDef]
    unfold preparedTcp
    split_ifs with allocated same same
    · rw [same]
    · rfl
    · rw [tcp_setTcp, if_pos same]
    · rw [tcp_setTcp, if_neg same]
  have preparedKey : prepared.key = flow.key := by
    rw [preparedDef]
    split_ifs <;> simp
  have preparedBytes : prepared.streamBufferBytes = flow.streamBufferBytes := by
    rw [preparedDef]
    split_ifs <;> simp
  have preparedClassified : prepared.appClassified = flow.appClassified := by
    rw [preparedDef]
    split_ifs <;> simp
  refine ⟨prepared.setTcp direction (processedTcp flow direction packet), ?_, ?_, ?_, ?_, ?_⟩
  · intro side
    rw [tcp_setTcp, preparedTcpEq]
    split_ifs <;> rfl
  · rw [setTcp_key, preparedKey]
  · rw [setTcp_streamBufferBytes, preparedBytes]
  · rw [setTcp_appClassified, preparedClassified]
  · unfold feedStream
    rw [preparedEq]
    have processed : prepared.tcp direction = preparedTcp flow direction := by
      rw [preparedTcpEq, if_pos rfl]
    simp only [processed]
    change (if processedResult flow direction packet = .dropped then _
      else if (decide ((streamDecoded flow direction packet).1 ≠ .ok) ||
          decide ((streamDecoded flow direction packet).2.protocol = .unknown)) = true then _
      else _ : FlowInfo × Bool × AppDecodeStatus).1 = _
    by_cases dropped : processedResult flow direction packet = .dropped
    · rw [if_pos dropped, if_neg fun both => both.1 dropped]
      rfl
    rw [if_neg dropped]
    by_cases recognised : Recognised (streamDecoded flow direction packet)
    · rw [if_neg, if_pos ⟨dropped, recognised⟩]
      · rfl
      · simp only [Bool.or_eq_true, decide_eq_true_eq, not_or, not_not]
        exact recognised
    · rw [if_pos, if_neg fun both => recognised both.2]
      · rfl
      · by_contra refused
        simp only [Bool.or_eq_true, decide_eq_true_eq, not_or, not_not] at refused
        exact recognised refused

/-- Either the processed direction is stored, or the flow is classified as well. -/
theorem feedStream_cases (buffered : 0 < flow.streamBufferBytes) :
    ∃ fed : FlowInfo, (∀ side, fed.tcp side =
        if side = direction then processedTcp flow direction packet else flow.tcp side) ∧
      fed.key = flow.key ∧ fed.streamBufferBytes = flow.streamBufferBytes ∧
      fed.appClassified = flow.appClassified ∧
      ((feedStream flow direction packet).1 = fed ∨
        ∃ app, (feedStream flow direction packet).1 = classifyFlow fed app) := by
  obtain ⟨fed, tcpEq, key, bytes, classified, outcome⟩ :=
    feedStream_spec flow direction packet buffered
  refine ⟨fed, tcpEq, key, bytes, classified, ?_⟩
  rw [outcome]
  split_ifs
  · exact Or.inr ⟨_, rfl⟩
  · exact Or.inl rfl

@[simp] theorem classifyFlow_key (app : AppInfo) : (classifyFlow flow app).key = flow.key := rfl

@[simp] theorem classifyFlow_streamBufferBytes (app : AppInfo) :
    (classifyFlow flow app).streamBufferBytes = flow.streamBufferBytes := rfl

@[simp] theorem classifyFlow_appClassified (app : AppInfo) :
    (classifyFlow flow app).appClassified = true := rfl

@[simp] theorem classifyFlow_tcp (app : AppInfo) :
    (classifyFlow flow app).tcp other =
      tcpReassemblyDirectionReleaseBuffers (flow.tcp other) := by
  cases other <;> rfl

/-- Packet-local classification changes nothing or classifies. -/
theorem classifyFromPacket_cases :
    classifyFromPacket flow packet = flow ∨
      ∃ app, classifyFromPacket flow packet = classifyFlow flow app := by
  simp only [classifyFromPacket]
  split_ifs
  · exact Or.inr ⟨_, rfl⟩
  · exact Or.inl rfl

/-- A direction that overflowed still holds its stream until the flow is classified. -/
def FlowInfo.Sound (flow : FlowInfo) : Prop :=
  flow.appClassified = true ∨
    ∀ direction, (flow.tcp direction).unusable = true → (flow.tcp direction).stream.data ≠ none

theorem freshFlow_sound (streamBufferBytes : Nat) (key : FlowKey) (now : Nat) :
    (freshFlow streamBufferBytes key now).Sound := by
  refine Or.inr fun direction unusable => ?_
  cases direction <;> simp [FlowInfo.tcp, FlowInfo.direction, freshFlow] at unusable

theorem preparedTcp_allocated : (preparedTcp flow direction).stream.data ≠ none := by
  unfold preparedTcp
  split_ifs with allocated
  · exact allocated
  · simp

theorem processedTcp_allocated : (processedTcp flow direction packet).stream.data ≠ none := by
  unfold processedTcp
  rw [Ne, allocated_processSegment]
  exact preparedTcp_allocated flow direction

theorem flowDecodeStreamApp_key (buffered : 0 < flow.streamBufferBytes) :
    (flowDecodeStreamApp flow direction packet).1.key = flow.key ∧
      (flowDecodeStreamApp flow direction packet).1.streamBufferBytes =
        flow.streamBufferBytes := by
  unfold flowDecodeStreamApp
  split_ifs
  · exact ⟨rfl, rfl⟩
  · exact ⟨setTcp_key _ _ _, setTcp_streamBufferBytes _ _ _⟩
  · obtain ⟨fed, -, key, bytes, -, unclassified | ⟨app, classified⟩⟩ :=
      feedStream_cases flow direction packet buffered
    · rw [unclassified]
      exact ⟨key, bytes⟩
    · rw [classified]
      exact ⟨key, bytes⟩

theorem flowDecodeStreamApp_sound (buffered : 0 < flow.streamBufferBytes) (sound : flow.Sound) :
    (flowDecodeStreamApp flow direction packet).1.Sound := by
  unfold flowDecodeStreamApp
  split_ifs with skipped quiet
  · exact sound
  · -- Tracking flags moves neither the stream nor the overflow mark.
    rcases sound with classified | allocated
    · exact Or.inl (by rw [setTcp_appClassified]; exact classified)
    · refine Or.inr fun side => ?_
      rw [tcp_setTcp]
      split_ifs with same
      · obtain rfl := same
        exact allocated side
      · exact allocated side
  · obtain ⟨fed, tcpEq, -, -, classifiedEq, unclassified | ⟨app, classified⟩⟩ :=
      feedStream_cases flow direction packet buffered
    · rw [unclassified]
      rcases sound with classified | allocated
      · exact Or.inl (by rw [classifiedEq]; exact classified)
      · refine Or.inr fun side => ?_
        rw [tcpEq]
        split_ifs with same
        · exact fun _ => processedTcp_allocated flow direction packet
        · exact allocated side
    · rw [classified]
      exact Or.inl rfl

end Visit

section VisitFlow

variable {packetLocal : Bool} {flow : FlowInfo} {direction : FlowDirection} {event : FlowEvent}

/-- A visit decodes the updated flow, and may classify what comes out. -/
theorem visitFlow_cases :
    let decoded := (flowDecodeStreamApp (flowUpdatePacket flow event.packet event.now direction)
      direction event.packet).1
    visitFlow packetLocal flow direction event = decoded ∨
      ∃ app, visitFlow packetLocal flow direction event = classifyFlow decoded app := by
  intro decoded
  cases packetLocal with
  | false => exact Or.inl rfl
  | true => exact classifyFromPacket_cases decoded event.packet

variable (packetLocal direction event) in
theorem visitFlow_key (buffered : 0 < flow.streamBufferBytes) :
    (visitFlow packetLocal flow direction event).key = flow.key ∧
      (visitFlow packetLocal flow direction event).streamBufferBytes = flow.streamBufferBytes := by
  have decoded := flowDecodeStreamApp_key (flowUpdatePacket flow event.packet event.now direction)
    direction event.packet (by rw [flowUpdatePacket_streamBufferBytes]; exact buffered)
  rw [flowUpdatePacket_key, flowUpdatePacket_streamBufferBytes] at decoded
  rcases @visitFlow_cases packetLocal flow direction event with same | ⟨app, classified⟩
  · rw [same]
    exact decoded
  · rw [classified]
    exact decoded

variable (packetLocal direction event) in
theorem visitFlow_sound (buffered : 0 < flow.streamBufferBytes) (sound : flow.Sound) :
    (visitFlow packetLocal flow direction event).Sound := by
  have updated : (flowUpdatePacket flow event.packet event.now direction).Sound := by
    simpa only [FlowInfo.Sound, flowUpdatePacket_appClassified, flowUpdatePacket_tcp] using sound
  have decoded := flowDecodeStreamApp_sound _ direction event.packet
    (by rw [flowUpdatePacket_streamBufferBytes]; exact buffered) updated
  rcases @visitFlow_cases packetLocal flow direction event with same | ⟨app, classified⟩
  · rw [same]
    exact decoded
  · rw [classified]
    exact Or.inl rfl

end VisitFlow

/-! ### One packet -/

/-- The flow a packet is assigned to, as the lookup hands it over. -/
def assignedFlow (table : FlowTable) (key : FlowKey) (now : Nat) : FlowInfo :=
  (flowOf (afterEvictions table key now) key).getD (freshFlow table.streamBufferBytes key now)

section Step

variable {packetLocal : Bool} {table : FlowTable} {key other : FlowKey}
variable {direction : FlowDirection} {event : FlowEvent}

theorem assignedFlow_of_found {flow : FlowInfo} {now : Nat}
    (found : flowOf (afterEvictions table key now) key = some flow) :
    assignedFlow table key now = flow := by
  rw [assignedFlow, found]
  rfl

theorem flowCapture_untracked (untracked : trackedAs event.packet = none) :
    (flowCapture packetLocal).next table event = table := by
  simp only [Machine.next, flowCapture, flowTableGetOrCreate_untracked untracked]

theorem afterEvictions_streamBufferBytes (table : FlowTable) (key : FlowKey) (now : Nat) :
    (afterEvictions table key now).streamBufferBytes = table.streamBufferBytes :=
  (Prod.mk.inj (Prod.mk.inj (afterEvictions_limits table key now)).2).1

variable (packetLocal) in
/-- What one tracked packet does to the table. -/
theorem flowCapture_tracked (wellformed : table.Wellformed)
    (tracked : trackedAs event.packet = some (key, direction)) :
    ∃ looked index, looked.Wellformed ∧ looked.limits = table.limits ∧
      flowTableGetOrCreate table event.packet event.now = (looked, some (index, direction)) ∧
      looked.flows[index]? = some (assignedFlow table key event.now) ∧
      (assignedFlow table key event.now).key = key ∧
      looked.flowsCreated = table.flowsCreated +
        (if flowOf (afterEvictions table key event.now) key = none then 1 else 0) ∧
      (∀ flow ∈ looked.flows, flow ∈ (afterEvictions table key event.now).flows ∨
        flow = freshFlow table.streamBufferBytes key event.now) ∧
      (∀ other, other ≠ key →
        flowOf looked other = flowOf (afterEvictions table key event.now) other) ∧
      (flowCapture packetLocal).next table event =
        { looked with
          flows := looked.flows.set index
            (visitFlow packetLocal (assignedFlow table key event.now) direction event) } := by
  have evicted := wellformed.evicted key event.now
  have limits := afterEvictions_limits table key event.now
  have streamBytes := afterEvictions_streamBufferBytes table key event.now
  rcases flowTableGetOrCreate_spec event.now wellformed tracked with
    ⟨index, flow, slot, keyed, found, looked⟩ | ⟨absent, room, created⟩
  · have assigned := assignedFlow_of_found found
    refine ⟨_, index, evicted, limits, looked, by rw [assigned]; exact slot,
      by rw [assigned]; exact keyed, ?_, fun _ member => Or.inl member, fun _ _ => rfl, ?_⟩
    · rw [afterEvictions_flowsCreated, found]
      simp
    · rw [assigned]
      simp only [Machine.next, flowCapture, looked, slot]
  · have assigned : assignedFlow table key event.now =
        freshFlow table.streamBufferBytes key event.now := by
      rw [assignedFlow, absent]
      rfl
    have maxFlows : (afterEvictions table key event.now).maxFlows = table.maxFlows :=
      (Prod.mk.inj limits).1
    have slot : (createFlow (afterEvictions table key event.now) key event.now).flows[
        (afterEvictions table key event.now).flows.length]? =
          some (freshFlow table.streamBufferBytes key event.now) := by
      simp [createFlow, streamBytes]
    refine ⟨createFlow (afterEvictions table key event.now) key event.now, _, ?_, limits, created,
      by rw [assigned]; exact slot, by rw [assigned]; rfl, ?_, ?_, ?_, ?_⟩
    · exact
        { distinct := evicted.distinct.append absent
          bounded := by
            simp only [createFlow, List.length_append, List.length_singleton]
            omega
          slots := evicted.slots
          buffered := evicted.buffered
          sized := by
            intro flow member
            rcases List.mem_append.mp member with old | new
            · exact evicted.sized flow old
            · rw [List.mem_singleton.mp new]
              rfl }
    · rw [absent]
      simp [createFlow]
    · intro flow member
      rcases List.mem_append.mp member with old | new
      · exact Or.inl old
      · right
        rw [List.mem_singleton.mp new, streamBytes]
    · intro other different
      have unlike : (freshFlow (afterEvictions table key event.now).streamBufferBytes key
          event.now).key ≠ other := Ne.symm different
      rw [flowOf, createFlow, lookup_append, if_neg unlike]
      exact Option.or_none
    · rw [assigned]
      simp only [Machine.next, flowCapture, created, slot]

/-- The invariants of every captured table. -/
structure FlowTable.Consistent (table : FlowTable) : Prop extends table.Wellformed where
  sound : ∀ flow ∈ table.flows, flow.Sound

theorem FlowTable.Consistent.assigned_sound (consistent : table.Consistent) (key : FlowKey)
    (now : Nat) : (assignedFlow table key now).Sound := by
  unfold assignedFlow
  cases found : flowOf (afterEvictions table key now) key with
  | none => exact freshFlow_sound _ _ _
  | some flow =>
      exact consistent.sound flow ((afterEvictions_sublist table key now).subset (lookup_mem found))

theorem FlowTable.Wellformed.assigned_sized (wellformed : table.Wellformed) (key : FlowKey)
    (now : Nat) : (assignedFlow table key now).streamBufferBytes = table.streamBufferBytes := by
  unfold assignedFlow
  cases found : flowOf (afterEvictions table key now) key with
  | none => rfl
  | some flow =>
      exact wellformed.sized flow ((afterEvictions_sublist table key now).subset (lookup_mem found))

theorem FlowTable.Wellformed.assigned_buffered (wellformed : table.Wellformed) (key : FlowKey)
    (now : Nat) : 0 < (assignedFlow table key now).streamBufferBytes := by
  rw [wellformed.assigned_sized key now]
  exact wellformed.buffered

theorem FlowTable.Consistent.next (consistent : table.Consistent) (event : FlowEvent) :
    ((flowCapture packetLocal).next table event).Consistent := by
  cases tracked : trackedAs event.packet with
  | none =>
      rw [flowCapture_untracked tracked]
      exact consistent
  | some keyed =>
      obtain ⟨key, direction⟩ := keyed
      obtain ⟨looked, index, wellformed, limits, -, slot, -, -, members, -, next⟩ :=
        flowCapture_tracked packetLocal consistent.toWellformed tracked
      have buffered := consistent.assigned_buffered key event.now
      have visited := visitFlow_key packetLocal direction event buffered
      rw [next]
      refine ⟨wellformed.set slot visited.1 visited.2, ?_⟩
      intro flow member
      rcases List.mem_or_eq_of_mem_set member with old | rfl
      · rcases members flow old with stayed | rfl
        · exact consistent.sound flow ((afterEvictions_sublist _ _ _).subset stayed)
        · exact freshFlow_sound _ _ _
      · exact visitFlow_sound packetLocal direction event buffered
          (consistent.assigned_sound key event.now)

theorem flowTableInit_consistent {maxFlows streamBufferBytes timeoutSeconds : Nat}
    (initialized : flowTableInit maxFlows streamBufferBytes timeoutSeconds = some table) :
    table.Consistent := by
  unfold flowTableInit at initialized
  split at initialized
  · contradiction
  next valid =>
    obtain rfl := Option.some.inj initialized
    simp only [Bool.or_eq_true, decide_eq_true_eq, not_or] at valid
    exact
      { distinct := List.nodup_nil
        bounded := Nat.zero_le _
        slots := Nat.pos_of_ne_zero valid.1.1.1.1
        buffered := Nat.pos_of_ne_zero valid.1.1.1.2
        sized := fun flow member => absurd member List.not_mem_nil
        sound := fun flow member => absurd member List.not_mem_nil }

theorem FlowTable.Consistent.run (consistent : table.Consistent) (events : List FlowEvent) :
    ((flowCapture packetLocal).run table events).Consistent :=
  Machine.run_preserves (fun _ event consistent => consistent.next event) consistent events

theorem FlowTable.Captured.consistent (captured : table.Captured packetLocal) :
    table.Consistent := by
  obtain ⟨maxFlows, streamBufferBytes, timeoutSeconds, initial, initialized, reached⟩ := captured
  obtain ⟨events, rfl⟩ := reached
  exact (flowTableInit_consistent initialized).run events

/-! ### Lookups after one packet -/

/-- The packet's own flow after the packet. -/
theorem flowOf_next_self (consistent : table.Consistent)
    (tracked : trackedAs event.packet = some (key, direction)) :
    flowOf ((flowCapture packetLocal).next table event) key =
      some (visitFlow packetLocal (assignedFlow table key event.now) direction event) := by
  obtain ⟨looked, index, wellformed, -, -, slot, keyed, -, -, -, next⟩ :=
    flowCapture_tracked packetLocal consistent.toWellformed tracked
  have visited := visitFlow_key packetLocal direction event
    (consistent.assigned_buffered key event.now)
  rw [next, flowOf, lookup_set wellformed.distinct slot visited.1, if_pos keyed]

/-- Any other flow after the packet: it is the one that the packet's lookup left. -/
theorem flowOf_next_other (consistent : table.Consistent)
    (tracked : trackedAs event.packet = some (key, direction)) (different : other ≠ key) :
    flowOf ((flowCapture packetLocal).next table event) other =
      flowOf (afterEvictions table key event.now) other := by
  obtain ⟨looked, index, wellformed, -, -, slot, keyed, -, -, frame, next⟩ :=
    flowCapture_tracked packetLocal consistent.toWellformed tracked
  have visited := visitFlow_key packetLocal direction event
    (consistent.assigned_buffered key event.now)
  rw [next, flowOf, lookup_set wellformed.distinct slot visited.1, keyed,
    if_neg (Ne.symm different)]
  exact frame other different

end Step

/-! ### A sample conversation -/

/-- A segment between `10.0.0.1:4000` and `10.0.0.2:9999`. -/
def sampleSegment (direction : FlowDirection) (sequence : UInt32) (flags : UInt8)
    (payload : List UInt8) : PacketInfo where
  srcIp := .ipv4 (if direction = .aToB then [10, 0, 0, 1] else [10, 0, 0, 2])
  dstIp := .ipv4 (if direction = .aToB then [10, 0, 0, 2] else [10, 0, 0, 1])
  srcPort := if direction = .aToB then 4000 else 9999
  dstPort := if direction = .aToB then 9999 else 4000
  protocol := .tcp
  ipVersion := 4
  hasPorts := true
  hasTcpSequence := true
  tcpSequence := sequence
  tcpFlags := flags
  hasPayload := payload ≠ []
  payload := some { offset := 54, bytes := payload }
  payloadDecodeLength := payload.length

def sampleKey : FlowKey where
  aIp := { family := afInet, bytes := [10, 0, 0, 1] ++ List.replicate 12 0 }
  aPort := 4000
  bIp := { family := afInet, bytes := [10, 0, 0, 2] ++ List.replicate 12 0 }
  bPort := 9999
  transportProtocol := 6

end MiniSniffer
