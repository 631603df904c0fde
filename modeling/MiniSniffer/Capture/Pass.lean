import MiniSniffer.Capture.FlowPart
import MiniSniffer.Capture.Loop

/-!
Contract: what one pass of the capture loop depends on.

Owns the pass seen from its parts: the packet that it goes on with, which is the parsed one or the
datagram that it completes, and what that packet displays, which depends on the flow table only
through the packet's own flow and changes that flow only.

Does not own runs of the loop.
-/

namespace MiniSniffer

open Foundation

/-! ### The parts of a pass -/

def parsedPacket (config : AppConfig) (captured : CapturedPacket) : PacketInfo :=
  parserParsePacketWithDatalink (payloadDecodeLimit config.payloadDecodeBytes) captured.bytes
    .en10mb

/-- The fragment table and the packet that a pass goes on with. -/
def effectiveCapture (config : AppConfig) (state : CaptureState) (captured : CapturedPacket) :
    FragmentState × PacketInfo :=
  effectivePacket config
    (state.fragmentTable, { state.stats with rawPacketsSeen := state.stats.rawPacketsSeen + 1 })
    (parsedPacket config captured) captured.seconds

/-- The flow table after a packet, and what is displayed of it. -/
def displayPacket (idna : IdnaLookup) (config : AppConfig) (flowTable : Option FlowTable)
    (packet : PacketInfo) (now : Nat) : Option FlowTable × Option DisplayedPacket :=
  let decoded := decodeCapture config flowTable packet now
  if !filtersMatch idna config decoded.2.filterContext then
    (storeFlow decoded.1 decoded.2.slot, none)
  else (storeFlow decoded.1 (decoded.2.announcedSlot config), some (decoded.2.display config))

/-- A packet with what stream and packet-local decoding make of its flow. -/
def captureWithFlow (config : AppConfig) (flow : FlowInfo) (direction : FlowDirection)
    (packet : PacketInfo) (now index : Nat) : DecodedCapture :=
  let locals := feedFlow config flow direction packet now
  let app := if config.decodeApp then packetApp packet else none
  { info := decodedInfo config packet locals.decodeStatus
    packetApp := app
    slot := some (index, classifyLocals app locals) }

/-- The packet's flow afterwards, and what is displayed; the slot does not matter. -/
def displayWithFlow (idna : IdnaLookup) (config : AppConfig) (flow : FlowInfo)
    (direction : FlowDirection) (packet : PacketInfo) (now : Nat) :
    FlowInfo × Option DisplayedPacket :=
  let capture := captureWithFlow config flow direction packet now 0
  let decoded :=
    (classifyLocals capture.packetApp (feedFlow config flow direction packet now)).flow
  if !filtersMatch idna config capture.filterContext then (decoded, none)
  else
    (if capture.announcesFlow config then { decoded with appEventPrinted := true } else decoded,
      some (capture.display config))

section Pass

variable {idna : IdnaLookup} {config : AppConfig} {state : CaptureState} {captured : CapturedPacket}
variable {table : FlowTable} {packet : PacketInfo} {key : FlowKey} {direction : FlowDirection}
variable {flow : FlowInfo} {now : Nat}

/-! ### The packet's flow -/

theorem feedFlow_key (config : AppConfig) (direction : FlowDirection) (packet : PacketInfo)
    (now : Nat) (buffered : 0 < flow.streamBufferBytes) :
    (feedFlow config flow direction packet now).flow.key = flow.key ∧
      (feedFlow config flow direction packet now).flow.streamBufferBytes =
        flow.streamBufferBytes := by
  have updated := flowUpdatePacket_key flow direction packet now
  have sized := flowUpdatePacket_streamBufferBytes flow direction packet now
  have decoded := flowDecodeStreamApp_key (flowUpdatePacket flow packet now direction) direction
    packet (by rw [sized]; exact buffered)
  rw [updated, sized] at decoded
  unfold feedFlow
  simp only
  split_ifs
  · exact decoded
  · exact ⟨updated, sized⟩
  · split
    next fed _ stream =>
      rw [stream] at decoded
      exact decoded
    next fed _ stream =>
      rw [stream] at decoded
      exact decoded
  · exact ⟨updated, sized⟩

theorem classifyLocals_key (app : Option AppInfo) (locals : FlowLocals) :
    (classifyLocals app locals).flow.key = locals.flow.key ∧
      (classifyLocals app locals).flow.streamBufferBytes = locals.flow.streamBufferBytes := by
  unfold classifyLocals
  split
  · exact ⟨rfl, rfl⟩
  · split_ifs <;> exact ⟨rfl, rfl⟩

/-- The flow keeps its key and its size. -/
theorem displayWithFlow_key (idna : IdnaLookup) (config : AppConfig) (direction : FlowDirection)
    (packet : PacketInfo) (now : Nat) (buffered : 0 < flow.streamBufferBytes) :
    (displayWithFlow idna config flow direction packet now).1.key = flow.key ∧
      (displayWithFlow idna config flow direction packet now).1.streamBufferBytes =
        flow.streamBufferBytes := by
  have fed := feedFlow_key config direction packet now buffered
  have decoded := classifyLocals_key (captureWithFlow config flow direction packet now 0).packetApp
    (feedFlow config flow direction packet now)
  rw [fed.1, fed.2] at decoded
  unfold displayWithFlow
  simp only
  split_ifs <;> exact decoded

theorem announcedSlot_withFlow (config : AppConfig) (flow : FlowInfo) (direction : FlowDirection)
    (packet : PacketInfo) (now index : Nat) :
    storeFlow (some table)
        ((captureWithFlow config flow direction packet now index).announcedSlot config) =
      some { table with
        flows := table.flows.set index
          (if (captureWithFlow config flow direction packet now index).announcesFlow config then
            { (classifyLocals (captureWithFlow config flow direction packet now index).packetApp
                (feedFlow config flow direction packet now)).flow with appEventPrinted := true }
          else
            (classifyLocals (captureWithFlow config flow direction packet now index).packetApp
              (feedFlow config flow direction packet now)).flow) } := by
  unfold DecodedCapture.announcedSlot
  split_ifs <;> rfl

/-- Nothing that is displayed depends on the slot. -/
theorem display_slot (config : AppConfig) (info : PacketInfo) (app : Option AppInfo)
    (locals : FlowLocals) (index other : Nat) :
    DecodedCapture.display config ⟨info, app, some (index, locals)⟩ =
      DecodedCapture.display config ⟨info, app, some (other, locals)⟩ := by
  cases app <;> rfl

/-- A packet of a connection displays what its flow makes of it, and only its flow changes. -/
theorem displayPacket_tracked (idna : IdnaLookup) (config : AppConfig) (now : Nat)
    (wellformed : table.Wellformed) (tracked : trackedAs packet = some (key, direction)) :
    let shown := displayWithFlow idna config (assignedFlow table key now) direction packet now
    shown.1.key = key ∧ ∃ next, Placed now shown.1 table next ∧
      displayPacket idna config (some table) packet now = (some next, shown.2) := by
  intro shown
  obtain ⟨looked, index, lookedWellformed, limits, lookup, slot, keyed, placed⟩ :=
    flowTableGetOrCreate_place now wellformed tracked
  have kept := displayWithFlow_key idna config direction packet now
    (wellformed.assigned_buffered key now)
  have decoded : decodeCapture config (some table) packet now = (some looked,
      captureWithFlow config (assignedFlow table key now) direction packet now index) := by
    simp only [decodeCapture, trackFlow, lookup, slot]
    rfl
  have context : (captureWithFlow config (assignedFlow table key now) direction packet now
      index).filterContext = (captureWithFlow config (assignedFlow table key now) direction packet
        now 0).filterContext := rfl
  have announced : (captureWithFlow config (assignedFlow table key now) direction packet now
      index).announcesFlow config = (captureWithFlow config (assignedFlow table key now) direction
        packet now 0).announcesFlow config := rfl
  have display : (captureWithFlow config (assignedFlow table key now) direction packet now
      index).display config = (captureWithFlow config (assignedFlow table key now) direction
        packet now 0).display config := display_slot config _ _ _ index 0
  have shownKeyed : shown.1.key = key := kept.1.trans keyed
  refine ⟨shownKeyed, { looked with flows := looked.flows.set index shown.1 },
    ⟨lookedWellformed.set slot kept.1 kept.2, limits, placed _ shownKeyed⟩, ?_⟩
  simp only [shown, displayPacket, displayWithFlow, decoded, context, display]
  by_cases passes : filtersMatch idna config (captureWithFlow config (assignedFlow table key now)
      direction packet now 0).filterContext = true
  · simp only [passes, Bool.not_true, Bool.false_eq_true, if_false]
    rw [announcedSlot_withFlow, announced]
    rfl
  · simp only [passes, Bool.not_false, if_true]
    rfl

/-- A packet outside flow tracking leaves the table alone and displays the same without one. -/
theorem displayPacket_untracked (idna : IdnaLookup) (config : AppConfig)
    (flowTable : Option FlowTable) (untracked : trackedAs packet = none) (now : Nat) :
    displayPacket idna config flowTable packet now =
      (flowTable, (displayPacket idna config none packet now).2) := by
  have decoded : decodeCapture config flowTable packet now =
      (flowTable, (decodeCapture config none packet now).2) := by
    simp only [decodeCapture, trackFlow_untracked config flowTable now untracked]
    rfl
  have stored : ∀ flowTable slot,
      slot = (decodeCapture config none packet now).2.slot →
        storeFlow flowTable slot = flowTable := by
    rintro (_ | table) slot rfl <;> rfl
  have announced : (decodeCapture config none packet now).2.announcedSlot config =
      (decodeCapture config none packet now).2.slot := rfl
  unfold displayPacket
  rw [decoded]
  simp only [announced, stored _ _ rfl]
  split_ifs <;> rfl

/-- Without a flow table there is none afterwards. -/
theorem displayPacket_none (idna : IdnaLookup) (config : AppConfig) (packet : PacketInfo)
    (now : Nat) : (displayPacket idna config none packet now).1 = none := by
  unfold displayPacket
  simp only
  split_ifs <;> rfl

/-- What is displayed has passed the packet filters. -/
theorem packetFiltersMatch_of_displayed {shown : DisplayedPacket}
    {flowTable : Option FlowTable}
    (displayed : (displayPacket idna config flowTable packet now).2 = some shown) :
    packetFiltersMatch config packet = true := by
  have passes : filtersMatch idna config
      (decodeCapture config flowTable packet now).2.filterContext = true := by
    cases passes : filtersMatch idna config
        (decodeCapture config flowTable packet now).2.filterContext with
    | true => rfl
    | false =>
        simp only [displayPacket, passes, Bool.not_false, if_true] at displayed
        contradiction
  rw [filtersMatch, Bool.and_eq_true] at passes
  have info : ∀ streamStatus, packetFiltersMatch config (decodedInfo config packet streamStatus) =
      packetFiltersMatch config packet := by
    intro streamStatus
    unfold decodedInfo
    split_ifs <;> rfl
  rw [← info (streamStatus (trackFlow config flowTable packet now).2)]
  exact passes.1

/-! ### The pass -/

/-- A pass that is not past the end of the loop, by its parts. -/
theorem capturePass_parts (running : captureIsDone config state = false) :
    let effective := effectiveCapture config state captured
    let shown := displayPacket idna config state.flowTable effective.2 captured.seconds
    (capturePass idna config .en10mb state captured).2 = shown.2 ∧
      (capturePass idna config .en10mb state captured).1.fragmentTable = effective.1.1 ∧
      (capturePass idna config .en10mb state captured).1.flowTable = shown.1 ∧
      (capturePass idna config .en10mb state captured).1.capturedPackets =
        state.capturedPackets + if shown.2.isSome then 1 else 0 := by
  intro effective shown
  have effectiveEq : effectivePacket config
      (state.fragmentTable, { state.stats with rawPacketsSeen := state.stats.rawPacketsSeen + 1 })
      (parserParsePacketWithDatalink (payloadDecodeLimit config.payloadDecodeBytes) captured.bytes
        .en10mb) captured.seconds = effective := rfl
  unfold capturePass
  simp only [running, Bool.false_eq_true, if_false, effectiveEq]
  clear_value effective
  simp only [shown, displayPacket]
  by_cases passes : filtersMatch idna config
      (decodeCapture config state.flowTable effective.2 captured.seconds).2.filterContext = true
  · simp only [passes, Bool.not_true, Bool.false_eq_true, if_false]
    exact ⟨trivial, trivial, trivial, rfl⟩
  · simp only [passes, Bool.not_false, if_true]
    exact ⟨trivial, trivial, trivial, (UInt32.add_zero _).symm⟩

end Pass

end MiniSniffer
