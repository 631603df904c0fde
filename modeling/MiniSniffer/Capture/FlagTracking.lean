import MiniSniffer.Capture.FlowRuns

/-!
Contract: which FIN and RST facts the capture path records and keeps.

Owns the value of each fact after a packet was decoded (`seenAfter`), and the
exact conditions of the two laws that the facts are meant to obey. A packet's
flags are recorded unless it bears payload for an unclassified direction whose
buffer overflowed. A recorded fact stays as long as its flow does unless the
first payload of the direction arrives after its FIN: preparing the direction
clears what it had seen.

Does not own when closed flows leave the table: see `Capture.GracefulClose`.
-/

namespace MiniSniffer

open Foundation

/-! ### The facts after one packet -/

/-- The packet reaches the TCP part of stream decoding. -/
def carriesSegment (packet : PacketInfo) : Bool := packet.protocol = .tcp && packet.hasTcpSequence

/-- What a direction has seen of a flag once a packet of that direction was decoded. -/
def seenAfter (flag : ClosingFlag) (flow : FlowInfo) (direction : FlowDirection)
    (packet : PacketInfo) : Bool :=
  let tcp := flow.tcp direction
  if !carriesSegment packet then flag.seen tcp
  else if flow.appClassified || !bearsPayload packet then
    flag.seen tcp || flag.carried packet.tcpFlags
  else if tcp.stream.data = none then flag.carried packet.tcpFlags
  else flag.seen tcp || (!tcp.unusable && flag.carried packet.tcpFlags)

section Decode

variable (flag : ClosingFlag) (flow : FlowInfo) (direction side : FlowDirection)
variable (packet : PacketInfo)

theorem seen_classifyFlow (app : AppInfo) :
    flag.seen ((classifyFlow flow app).tcp side) = flag.seen (flow.tcp side) := by
  rw [classifyFlow_tcp, seen_releaseBuffers]

theorem seen_processedTcp :
    flag.seen (processedTcp flow direction packet) =
      if (flow.tcp direction).stream.data = none then flag.carried packet.tcpFlags
      else flag.seen (flow.tcp direction) ||
        (!(flow.tcp direction).unusable && flag.carried packet.tcpFlags) := by
  rw [processedTcp, seen_processSegment]
  unfold preparedTcp
  by_cases missing : (flow.tcp direction).stream.data = none
  · rw [if_neg (not_not_intro missing), if_pos missing]
    cases flag <;> rfl
  · rw [if_pos missing, if_neg missing]

theorem seen_flowDecodeStreamApp (buffered : 0 < flow.streamBufferBytes) :
    flag.seen ((flowDecodeStreamApp flow direction packet).1.tcp side) =
      if side = direction then seenAfter flag flow direction packet
      else flag.seen (flow.tcp side) := by
  have skips : (packet.protocol ≠ .tcp || !packet.hasTcpSequence) = !carriesSegment packet := by
    simp [carriesSegment]
  unfold flowDecodeStreamApp
  rw [skips]
  simp only [seenAfter]
  by_cases skipped : (!carriesSegment packet) = true
  · rw [if_pos skipped, if_pos skipped]
    split_ifs with same
    · rw [same]
    · rfl
  rw [if_neg skipped, if_neg skipped]
  by_cases quiet : (flow.appClassified || !bearsPayload packet) = true
  · rw [if_pos quiet, if_pos quiet, tcp_setTcp]
    split_ifs
    · exact seen_trackFlags _ _ _
    · rfl
  rw [if_neg quiet, if_neg quiet, ← seen_processedTcp]
  obtain ⟨fed, tcpEq, -, -, -, unclassified | ⟨app, classified⟩⟩ :=
    feedStream_cases flow direction packet buffered
  · rw [unclassified, tcpEq]
    split_ifs <;> rfl
  · rw [classified, seen_classifyFlow, tcpEq]
    split_ifs <;> rfl

/-- The counters that precede decoding touch nothing that decides what is seen. -/
theorem seenAfter_flowUpdatePacket (now : Nat) :
    seenAfter flag (flowUpdatePacket flow packet now direction) direction packet =
      seenAfter flag flow direction packet := by
  simp only [seenAfter, flowUpdatePacket_tcp, flowUpdatePacket_appClassified]

theorem seen_visitFlow (packetLocal : Bool) (event : FlowEvent)
    (buffered : 0 < flow.streamBufferBytes) :
    flag.seen ((visitFlow packetLocal flow direction event).tcp side) =
      if side = direction then seenAfter flag flow direction event.packet
      else flag.seen (flow.tcp side) := by
  have decoded := seen_flowDecodeStreamApp flag
    (flowUpdatePacket flow event.packet event.now direction) direction side event.packet
    (by rw [flowUpdatePacket_streamBufferBytes]; exact buffered)
  rw [seenAfter_flowUpdatePacket, flowUpdatePacket_tcp] at decoded
  rw [← decoded]
  rcases @visitFlow_cases packetLocal flow direction event with same | ⟨app, classified⟩
  · rw [same]
  · rw [classified, seen_classifyFlow]

end Decode

/-! ### Recording -/

/-- Every closing flag the segment carries is recorded. -/
def FlagsRecorded (tcp : TcpReassemblyDirection) (flags : UInt8) : Prop :=
  ∀ flag : ClosingFlag, flag.carried flags = true → flag.seen tcp = true

/-- The packet bears payload for an unclassified direction whose buffer overflowed, and carries a
flag not seen before. -/
def LosesFlags (flow : FlowInfo) (direction : FlowDirection) (packet : PacketInfo) : Prop :=
  flow.appClassified = false ∧ bearsPayload packet = true ∧
    (flow.tcp direction).unusable = true ∧ ¬ FlagsRecorded (flow.tcp direction) packet.tcpFlags

theorem flagsRecorded_iff (flow : FlowInfo) (direction : FlowDirection) (packet : PacketInfo)
    (sound : flow.Sound) (segment : carriesSegment packet = true) :
    (∀ flag : ClosingFlag, flag.carried packet.tcpFlags = true →
      seenAfter flag flow direction packet = true) ↔ ¬ LosesFlags flow direction packet := by
  by_cases quiet : (flow.appClassified || !bearsPayload packet) = true
  · have kept : ¬ LosesFlags flow direction packet := by
      intro loses
      simp [loses.1, loses.2.1] at quiet
    refine iff_of_true ?_ kept
    intro flag carried
    simp [seenAfter, segment, quiet, carried]
  · simp only [Bool.or_eq_true, Bool.not_eq_true', not_or, Bool.not_eq_true,
      Bool.not_eq_false] at quiet
    by_cases overflowed : (flow.tcp direction).unusable = true
    · have allocated : (flow.tcp direction).stream.data ≠ none := by
        rcases sound with classified | allocated
        · rw [quiet.1] at classified
          contradiction
        · exact allocated direction overflowed
      simp [LosesFlags, FlagsRecorded, seenAfter, segment, quiet, overflowed, allocated]
    · have kept : ¬ LosesFlags flow direction packet := by
        intro loses
        exact overflowed loses.2.2.1
      refine iff_of_true ?_ kept
      intro flag carried
      by_cases missing : (flow.tcp direction).stream.data = none
      · simp [seenAfter, segment, quiet, missing, carried]
      · simp [seenAfter, segment, quiet, missing, carried, overflowed]

/-- Right after a packet of a captured flow was decoded, its FIN and RST are recorded if and only
if the packet is not one that overflow makes the direction refuse. -/
theorem flowDecodeStreamApp_flagsRecorded_iff {packetLocal : Bool} {table looked : FlowTable}
    {packet : PacketInfo} {now index : Nat} {direction : FlowDirection} {flow : FlowInfo}
    (captured : table.Captured packetLocal) (sequenced : packet.hasTcpSequence = true)
    (assigned : flowTableGetOrCreate table packet now = (looked, some (index, direction)))
    (slot : looked.flows[index]? = some flow) :
    FlagsRecorded ((flowDecodeStreamApp (flowUpdatePacket flow packet now direction) direction
        packet).1.tcp direction) packet.tcpFlags ↔
      ¬ LosesFlags flow direction packet := by
  have consistent := captured.consistent
  cases tracked : trackedAs packet with
  | none =>
      rw [flowTableGetOrCreate_untracked tracked] at assigned
      simp at assigned
  | some keyed =>
      obtain ⟨key, side⟩ := keyed
      have isTcp : packet.protocol = .tcp := by
        by_contra notTcp
        simp [trackedAs, notTcp] at tracked
      obtain ⟨lookedUp, place, -, -, result, found, -⟩ :=
        flowCapture_tracked packetLocal consistent.toWellformed
          (show trackedAs (FlowEvent.mk packet now).packet = some (key, side) from tracked)
      rw [result] at assigned
      simp only [Prod.mk.injEq, Option.some.injEq] at assigned
      obtain ⟨rfl, rfl, rfl⟩ := assigned
      obtain rfl : assignedFlow table key now = flow := Option.some.inj (found.symm.trans slot)
      have buffered := consistent.assigned_buffered key now
      rw [← flagsRecorded_iff _ _ _ (consistent.assigned_sound key now)
        (by simp [carriesSegment, isTcp, sequenced])]
      unfold FlagsRecorded
      simp only [seen_flowDecodeStreamApp _ _ _ _ _
        (show 0 < (flowUpdatePacket (assignedFlow table key now) packet now side).streamBufferBytes
          by rw [flowUpdatePacket_streamBufferBytes]; exact buffered), if_pos,
        seenAfter_flowUpdatePacket]

/-- Six bytes for a buffer of four, after which the direction is unusable. -/
def overflowedTable : FlowTable :=
  (flowCapture false).run { maxFlows := 1, streamBufferBytes := 4, timeoutSeconds := 60 }
    [⟨sampleSegment .aToB 100 0 [1, 2, 3, 4, 5, 6], 1⟩]

theorem overflowedTable_captured : overflowedTable.Captured false :=
  ⟨1, 4, 60, { maxFlows := 1, streamBufferBytes := 4, timeoutSeconds := 60 }, by decide, _, rfl⟩

/-- A data-bearing FIN after an overflow is not recorded. -/
theorem flowDecodeStreamApp_loses_fin :
    ¬ ∀ (table looked : FlowTable) (packet : PacketInfo) (now index : Nat)
        (direction : FlowDirection) (flow : FlowInfo), table.Captured false →
      packet.hasTcpSequence = true →
      flowTableGetOrCreate table packet now = (looked, some (index, direction)) →
      looked.flows[index]? = some flow →
      FlagsRecorded ((flowDecodeStreamApp (flowUpdatePacket flow packet now direction) direction
        packet).1.tcp direction) packet.tcpFlags := by
  intro always
  have recorded := always overflowedTable overflowedTable (sampleSegment .aToB 106 1 [7]) 2 0 .aToB
    (assignedFlow overflowedTable sampleKey 2) overflowedTable_captured rfl (by decide +kernel)
    (by decide +kernel) .fin rfl
  revert recorded
  decide +kernel

/-- A bare FIN of an overflowed direction is recorded. -/
theorem flowDecodeStreamApp_flagsRecorded_iff_bare :
    FlagsRecorded ((flowDecodeStreamApp
        (flowUpdatePacket (assignedFlow overflowedTable sampleKey 2) (sampleSegment .aToB 106 1 [])
          2 .aToB) .aToB (sampleSegment .aToB 106 1 [])).1.tcp .aToB) 1 ↔
      ¬ LosesFlags (assignedFlow overflowedTable sampleKey 2) .aToB
        (sampleSegment .aToB 106 1 []) :=
  @flowDecodeStreamApp_flagsRecorded_iff false overflowedTable overflowedTable
    (sampleSegment .aToB 106 1 []) 2 0 .aToB _ overflowedTable_captured rfl (by decide +kernel)
    (by decide +kernel)

/-! ### Keeping -/

/-- What one side of a connection may not forget. -/
def KeepsFacts (before after : FlowInfo) : Prop :=
  (∀ (flag : ClosingFlag) (side : FlowDirection),
    flag.seen (before.tcp side) = true → flag.seen (after.tcp side) = true) ∧
  (flowIsClosed before = true → flowIsClosed after = true)

/-- The lookup that the packet causes, if any, does not evict the flow of `key`. -/
def StaysThrough (key : FlowKey) (table : FlowTable) (event : FlowEvent) : Prop :=
  match trackedAs event.packet with
  | none => True
  | some (own, _) => flowOf (afterEvictions table own event.now) key = flowOf table key

/-- The packet is the first payload of its direction in an unclassified flow, and the direction's
FIN came earlier. -/
def ResetsFin (flow : FlowInfo) (direction : FlowDirection) (packet : PacketInfo) : Prop :=
  packet.hasTcpSequence = true ∧ flow.appClassified = false ∧ bearsPayload packet = true ∧
    (flow.tcp direction).stream.data = none ∧ (flow.tcp direction).finSeen = true ∧
    ClosingFlag.fin.carried packet.tcpFlags = false

/-- The packet belongs to the flow of `key` and resets a FIN of it. -/
def ResetsFinOf (key : FlowKey) (table : FlowTable) (event : FlowEvent) : Prop :=
  ∃ direction flow, trackedAs event.packet = some (key, direction) ∧
    flowOf table key = some flow ∧ ResetsFin flow direction event.packet

/-- The packet resets a FIN of a flow that is not evicted first. -/
def ForgetsFin (table : FlowTable) (event : FlowEvent) : Prop :=
  ∃ key, StaysThrough key table event ∧ ResetsFinOf key table event

section Keeping

variable {packetLocal : Bool} {table : FlowTable} {event : FlowEvent} {key : FlowKey}
variable {direction : FlowDirection} {flow before after : FlowInfo}

theorem KeepsFacts.refl (flow : FlowInfo) : KeepsFacts flow flow := ⟨fun _ _ => id, id⟩

theorem KeepsFacts.trans {between : FlowInfo} (first : KeepsFacts before between)
    (second : KeepsFacts between after) : KeepsFacts before after :=
  ⟨fun flag side seen => second.1 flag side (first.1 flag side seen),
    fun closed => second.2 (first.2 closed)⟩

/-- Closedness is read off the facts. -/
theorem KeepsFacts.of_seen (seen : ∀ (flag : ClosingFlag) (side : FlowDirection),
    flag.seen (before.tcp side) = true → flag.seen (after.tcp side) = true) :
    KeepsFacts before after := by
  refine ⟨seen, ?_⟩
  unfold flowIsClosed
  simp only [Bool.or_eq_true, Bool.and_eq_true]
  intro closed
  rcases closed with (rst | rst) | ⟨finAToB, finBToA⟩
  · exact Or.inl (Or.inl (seen .rst .aToB rst))
  · exact Or.inl (Or.inr (seen .rst .bToA rst))
  · exact Or.inr ⟨seen .fin .aToB finAToB, seen .fin .bToA finBToA⟩

/-- A flow that outlived a lookup was not closed. -/
theorem open_of_afterEvictions {now : Nat}
    (stayed : flowOf (afterEvictions table key now) key = some flow) :
    flowIsClosed flow = false := by
  have member := lookup_mem stayed
  have stale : flow ∈ (evictStaleFlows table now).flows := by
    simp only [afterEvictions] at member
    split at member
    · exact member
    · exact (makeRoomForFlow_sublist _).subset member
  rw [evictStaleFlows_flows, List.mem_filter] at stale
  have kept := stale.2
  simp only [stays, Bool.and_eq_true, Bool.not_eq_true'] at kept
  exact kept.2

theorem rstSeen_of_open (stillOpen : flowIsClosed flow = false) (side : FlowDirection) :
    (flow.tcp side).rstSeen = false := by
  simp only [flowIsClosed, Bool.or_eq_false_iff] at stillOpen
  cases side
  · exact stillOpen.1.1
  · exact stillOpen.1.2

/-- One packet of its own flow forgets at most the FIN, and that exactly when it resets it. -/
theorem seenAfter_keeps_iff (segment : carriesSegment event.packet = event.packet.hasTcpSequence)
    (stillOpen : flowIsClosed flow = false) :
    (∀ flag : ClosingFlag, flag.seen (flow.tcp direction) = true →
      seenAfter flag flow direction event.packet = true) ↔
      ¬ ResetsFin flow direction event.packet := by
  have notReset := rstSeen_of_open stillOpen direction
  constructor
  · intro keeps resets
    obtain ⟨sequenced, unclassified, bears, missing, seen, bare⟩ := resets
    have kept := keeps .fin seen
    simp [seenAfter, segment, sequenced, unclassified, bears, missing, bare] at kept
  · intro noReset flag seen
    cases flag with
    | rst =>
        rw [ClosingFlag.seen, notReset] at seen
        contradiction
    | fin =>
        by_contra forgotten
        apply noReset
        simp only [seenAfter, segment] at forgotten
        split_ifs at forgotten with skipped quiet missing
        · exact absurd seen forgotten
        · simp [seen] at forgotten
        · simp only [Bool.or_eq_true, Bool.not_eq_true', not_or, Bool.not_eq_true,
            Bool.not_eq_false] at quiet skipped forgotten
          exact ⟨skipped, quiet.1, quiet.2, missing, seen, forgotten⟩
        · simp [seen] at forgotten

theorem carriesSegment_of_tracked (tracked : trackedAs event.packet = some (key, direction)) :
    carriesSegment event.packet = event.packet.hasTcpSequence := by
  unfold trackedAs at tracked
  split at tracked
  · contradiction
  next isTcp => simp [carriesSegment, not_not.mp isTcp]

/-- The facts of a flow that stays, after one packet. -/
theorem keepsFacts_step (consistent : table.Consistent) (found : flowOf table key = some flow)
    (stayed : StaysThrough key table event) (harmless : ¬ ForgetsFin table event) :
    ∃ after, flowOf ((flowCapture packetLocal).next table event) key = some after ∧
      KeepsFacts flow after := by
  cases tracked : trackedAs event.packet with
  | none =>
      rw [flowCapture_untracked tracked]
      exact ⟨flow, found, KeepsFacts.refl flow⟩
  | some keyed =>
      obtain ⟨own, direction⟩ := keyed
      have stayedEq : flowOf (afterEvictions table own event.now) key = flowOf table key := by
        simpa only [StaysThrough, tracked] using stayed
      by_cases same : key = own
      · subst same
        have assigned := assignedFlow_of_found (stayedEq.trans found)
        have buffered := consistent.assigned_buffered key event.now
        rw [flowOf_next_self consistent tracked, assigned]
        rw [assigned] at buffered
        refine ⟨_, rfl, KeepsFacts.of_seen ?_⟩
        have noReset : ¬ ResetsFin flow direction event.packet := by
          intro resets
          exact harmless ⟨key, stayed, direction, flow, tracked, found, resets⟩
        have keeps := (seenAfter_keeps_iff (carriesSegment_of_tracked tracked)
          (open_of_afterEvictions (stayedEq.trans found))).mpr noReset
        intro flag side seen
        rw [seen_visitFlow flag flow direction side packetLocal event buffered]
        split_ifs with own
        · rw [own] at seen
          exact keeps flag seen
        · exact seen
      · rw [flowOf_next_other consistent tracked same, stayedEq]
        exact ⟨flow, found, KeepsFacts.refl flow⟩

/-- A packet that resets a FIN takes a fact away from a flow that stays. -/
theorem forgetsFin_step (consistent : table.Consistent) (forgets : ForgetsFin table event) :
    ∃ key flow after, flowOf table key = some flow ∧ StaysThrough key table event ∧
      flowOf ((flowCapture packetLocal).next table event) key = some after ∧
      ¬ KeepsFacts flow after := by
  obtain ⟨key, stayed, direction, flow, tracked, found, resets⟩ := forgets
  have stayedEq : flowOf (afterEvictions table key event.now) key = flowOf table key := by
    simpa only [StaysThrough, tracked] using stayed
  have assigned := assignedFlow_of_found (stayedEq.trans found)
  have buffered := consistent.assigned_buffered key event.now
  rw [assigned] at buffered
  refine ⟨key, flow, visitFlow packetLocal flow direction event, found, stayed, ?_, ?_⟩
  · rw [flowOf_next_self consistent tracked, assigned]
  · intro keeps
    have keeps' : ∀ flag : ClosingFlag, flag.seen (flow.tcp direction) = true →
        seenAfter flag flow direction event.packet = true := by
      intro flag seen
      have kept := keeps.1 flag direction seen
      rwa [seen_visitFlow flag flow direction direction packetLocal event buffered,
        if_pos rfl] at kept
    exact (seenAfter_keeps_iff (carriesSegment_of_tracked tracked)
      (open_of_afterEvictions (stayedEq.trans found))).mp keeps' resets

/-- In a run, no flow loses a fact between two moments at which it is in the table throughout. -/
def FactsSticky (packetLocal : Bool) (table : FlowTable) (events : List FlowEvent) : Prop :=
  ∀ past middle rest, events = past ++ middle ++ rest → ∀ key flow,
    flowOf ((flowCapture packetLocal).run table past) key = some flow →
    (flowCapture packetLocal).AllSteps (StaysThrough key)
      ((flowCapture packetLocal).run table past) middle →
    ∃ after, flowOf ((flowCapture packetLocal).run table (past ++ middle)) key = some after ∧
      KeepsFacts flow after

theorem keepsFacts_run (consistent : table.Consistent) (found : flowOf table key = some flow)
    {events : List FlowEvent}
    (stayed : (flowCapture packetLocal).AllSteps (StaysThrough key) table events)
    (harmless : (flowCapture packetLocal).AllSteps (fun table event => ¬ ForgetsFin table event)
      table events) :
    ∃ after, flowOf ((flowCapture packetLocal).run table events) key = some after ∧
      KeepsFacts flow after := by
  have kept : ∀ (current : FlowTable) event,
      (current.Consistent ∧ ∃ between, flowOf current key = some between ∧
        KeepsFacts flow between) →
      StaysThrough key current event ∧ ¬ ForgetsFin current event →
      ((flowCapture packetLocal).next current event).Consistent ∧
        ∃ after, flowOf ((flowCapture packetLocal).next current event) key = some after ∧
          KeepsFacts flow after := by
    rintro current event ⟨consistent, between, foundBetween, first⟩ ⟨stays, forgetsNot⟩
    obtain ⟨after, foundAfter, second⟩ :=
      keepsFacts_step consistent foundBetween stays forgetsNot
    exact ⟨consistent.next event, after, foundAfter, first.trans second⟩
  exact (Machine.run_invariant kept ⟨consistent, flow, found, KeepsFacts.refl flow⟩
    (stayed.and harmless)).2

/-- FIN and RST facts, and closedness, are sticky over a run if and only if no packet of the run is
the first payload of a direction whose FIN came before it. -/
theorem factsSticky_iff (captured : table.Captured packetLocal) (events : List FlowEvent) :
    FactsSticky packetLocal table events ↔
      (flowCapture packetLocal).AllSteps (fun table event => ¬ ForgetsFin table event)
        table events := by
  have consistent := captured.consistent
  constructor
  · intro sticky
    rw [Machine.allSteps_iff_forall_split]
    intro past event rest split forgets
    obtain ⟨key, flow, after, found, stayed, foundAfter, loses⟩ :=
      @forgetsFin_step packetLocal _ _ (consistent.run past) forgets
    obtain ⟨kept, foundKept, keeps⟩ :=
      sticky past [event] rest (by rw [split]; simp) key flow found ⟨stayed, trivial⟩
    rw [Machine.run_append] at foundKept
    rw [show after = kept from Option.some.inj (foundAfter.symm.trans foundKept)] at loses
    exact loses keeps
  · intro harmless past middle rest split key flow found stayed
    rw [split, List.append_assoc, Machine.allSteps_append, Machine.allSteps_append] at harmless
    rw [Machine.run_append]
    exact keepsFacts_run (consistent.run past) found stayed harmless.2.1

end Keeping

def smallTable : FlowTable := { maxFlows := 1, streamBufferBytes := 16, timeoutSeconds := 60 }

theorem smallTable_captured : smallTable.Captured false :=
  ⟨1, 16, 60, smallTable, by decide, [], rfl⟩

/-- A bare FIN that overtook its data. -/
def earlyFin : FlowEvent := ⟨sampleSegment .aToB 103 1 [], 1⟩

def lateData : FlowEvent := ⟨sampleSegment .aToB 100 0 [1, 2, 3], 2⟩

/-- The FIN is forgotten when the data arrives. -/
theorem facts_not_sticky :
    ¬ ∀ (table : FlowTable) (events : List FlowEvent), table.Captured false →
      FactsSticky false table events := by
  intro always
  obtain ⟨after, found, keeps⟩ := always smallTable [earlyFin, lateData] smallTable_captured
    [earlyFin] [lateData] [] rfl sampleKey
    (visitFlow false (freshFlow 16 sampleKey 1) .aToB earlyFin) (by decide +kernel)
    ⟨show flowOf _ sampleKey = flowOf _ sampleKey by decide +kernel, trivial⟩
  have lost : (flowOf ((flowCapture false).run smallTable [earlyFin, lateData]) sampleKey).map
      (fun flow => (flow.tcp .aToB).finSeen) = some false := by
    decide +kernel
  have kept := keeps.1 .fin .aToB (by decide +kernel)
  rw [show (flowCapture false).run smallTable ([earlyFin] ++ [lateData]) =
    (flowCapture false).run smallTable [earlyFin, lateData] from rfl] at found
  rw [found, Option.map_some, Option.some.injEq] at lost
  exact absurd (kept.symm.trans lost) (by decide)

theorem factsSticky_iff_earlyFin :
    FactsSticky false smallTable [earlyFin, lateData] ↔
      (flowCapture false).AllSteps (fun table event => ¬ ForgetsFin table event) smallTable
        [earlyFin, lateData] :=
  factsSticky_iff smallTable_captured [earlyFin, lateData]

end MiniSniffer
