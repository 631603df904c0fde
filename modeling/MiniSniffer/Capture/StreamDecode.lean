import MiniSniffer.App.Decoder
import MiniSniffer.Flow.Table
import MiniSniffer.Foundation.Machine

/-!
Contract: what the capture path does with a packet's flow (`src/capture.c`).

Owns `flow_decode_stream_app`, the classification of a flow by packet-local
decoding that follows it in `capture_start`, and the machine that feeds packets
to a flow table: lookup, counters, stream decoding.

Does not own parsing, fragments or filters, which come before and after.
-/

namespace MiniSniffer

open Foundation

/-- The flow has application metadata; its buffered bytes are no longer needed. -/
def classifyFlow (flow : FlowInfo) (app : AppInfo) : FlowInfo :=
  flowReleaseReassemblyBuffers
    { flow with app := app, appDecodeStatus := .decoded, appClassified := true }

/-- A segment that stream decoding has to read. -/
def bearsPayload (packet : PacketInfo) : Bool :=
  packet.hasPayload && packet.payloadCaptureLength ≠ 0

/-- Feeds one data-bearing segment of an unclassified flow and decodes what the stream now holds.
The flow, whether this segment classified it, and the status are returned. -/
def feedStream (flow : FlowInfo) (direction : FlowDirection) (packet : PacketInfo) :
    FlowInfo × Bool × AppDecodeStatus :=
  match flowPrepareReassemblyDirection flow direction with
  | (prepared, false) => (prepared, false, .malformed)
  | (prepared, true) =>
      let processed :=
        tcpReassemblyProcessSegment (prepared.tcp direction) packet.tcpSequence packet.tcpFlags
          packet.payloadBytes
      let fed := prepared.setTcp direction processed.1
      if processed.2 = .dropped then (fed, false, .truncated)
      else
        let decoded := appDecodeStream packet (streamBufferData processed.1.stream)
        let status := appDecodeStatusFromResult decoded.1 packet decoded.2
        if decoded.1 ≠ .ok || decoded.2.protocol = .unknown then (fed, false, status)
        else (classifyFlow fed decoded.2, true, status)

def flowDecodeStreamApp (flow : FlowInfo) (direction : FlowDirection) (packet : PacketInfo) :
    FlowInfo × Bool × AppDecodeStatus :=
  if packet.protocol ≠ .tcp || !packet.hasTcpSequence then (flow, false, .noMatch)
  else if flow.appClassified || !bearsPayload packet then
    (flow.setTcp direction (tcpReassemblyTrackFlags (flow.tcp direction) packet.tcpFlags), false,
      .noMatch)
  else feedStream flow direction packet

/-- `capture_start` lets packet-local metadata classify a flow that has none. -/
def classifyFromPacket (flow : FlowInfo) (packet : PacketInfo) : FlowInfo :=
  let decoded := appDecodePacket packet
  if decoded.1 = .ok && decoded.2.protocol ≠ .unknown && !flow.appClassified then
    classifyFlow flow decoded.2
  else flow

/-! ### The machine -/

structure FlowEvent where
  packet : PacketInfo
  now : Nat
deriving DecidableEq, Repr

/-- What a packet's flow becomes. `packetLocal` adds the packet-local classification that follows
stream decoding in `capture_start`. -/
def visitFlow (packetLocal : Bool) (flow : FlowInfo) (direction : FlowDirection)
    (event : FlowEvent) : FlowInfo :=
  let decoded :=
    (flowDecodeStreamApp (flowUpdatePacket flow event.packet event.now direction) direction
      event.packet).1
  if packetLocal then classifyFromPacket decoded event.packet else decoded

/-- The output is the slot and direction of the packet's flow. -/
def flowCapture (packetLocal : Bool) : Machine FlowTable FlowEvent (Option (Nat × FlowDirection))
    where
  step table event :=
    match flowTableGetOrCreate table event.packet event.now with
    | (looked, none) => (looked, none)
    | (looked, some (index, direction)) =>
        match looked.flows[index]? with
        | none => (looked, none)
        | some flow =>
            ({ looked with
                flows := looked.flows.set index (visitFlow packetLocal flow direction event) },
              some (index, direction))

/-- The tables of a capture that has processed any packets. -/
def FlowTable.Captured (packetLocal : Bool) (table : FlowTable) : Prop :=
  ∃ maxFlows streamBufferBytes timeoutSeconds initial,
    flowTableInit maxFlows streamBufferBytes timeoutSeconds = some initial ∧
      (flowCapture packetLocal).Reachable initial table

/-! ### What decoding leaves alone -/

section Frame

variable {Field : Type} {flow : FlowInfo} {direction : FlowDirection} {packet : PacketInfo}

/-- A field that storing a direction and classifying leave alone, stream decoding leaves alone. -/
theorem flowDecodeStreamApp_frame (field : FlowInfo → Field)
    (stored : ∀ flow direction tcp, field (flow.setTcp direction tcp) = field flow)
    (classified : ∀ flow app, field (classifyFlow flow app) = field flow) :
    field (flowDecodeStreamApp flow direction packet).1 = field flow := by
  have prepared : field (flowPrepareReassemblyDirection flow direction).1 = field flow := by
    unfold flowPrepareReassemblyDirection
    split
    · rfl
    · split
      · rfl
      · split <;> exact stored flow direction _
  have fed : field (feedStream flow direction packet).1 = field flow := by
    unfold feedStream
    generalize flowPrepareReassemblyDirection flow direction = outcome at prepared ⊢
    rcases outcome with ⟨kept, _ | _⟩
    · exact prepared
    · dsimp only
      split_ifs
      · exact (stored _ _ _).trans prepared
      · exact (stored _ _ _).trans prepared
      · exact (classified _ _).trans ((stored _ _ _).trans prepared)
  unfold flowDecodeStreamApp
  split
  · rfl
  · split
    · exact stored flow direction _
    · exact fed

end Frame

end MiniSniffer
