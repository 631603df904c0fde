import MiniSniffer.Common
import MiniSniffer.Config
import MiniSniffer.Foundation.KeyedTable
import MiniSniffer.Tcp.Reassembly

/-!
Contract: the flow table (`src/flow.c`).

Owns flow identity, the table with its lifetime counters, the three ways a flow
leaves it, lookup, creation, and the per-flow operations of the capture path.

A pointer to a table slot is its index. Times and counters of 64 bits are natural
numbers. Allocation succeeds, so an initialised table always has its slots.

Does not own what the capture path does with a flow: see `Capture.StreamDecode`.
-/

namespace MiniSniffer

open Foundation

/-! ### Identity -/

def afInet : Nat := 2

def afInet6 : Nat := 10

structure IPAddress where
  family : Nat
  bytes : List UInt8
deriving DecidableEq, Repr

structure FlowKey where
  aIp : IPAddress
  aPort : UInt16
  bIp : IPAddress
  bPort : UInt16
  transportProtocol : UInt8
deriving DecidableEq, Repr

inductive FlowDirection where
  | aToB
  | bToA
deriving DecidableEq, Repr

def packetProtocolToFlowProtocol (protocol : Protocol) : Option UInt8 :=
  match protocol with
  | .tcp => some 6
  | .udp => some 17
  | _ => none

/-- Sixteen bytes, zero-filled past an IPv4 address. -/
def parseIpAddress (text : IpText) : Option IPAddress :=
  match text with
  | .empty => none
  | .ipv4 bytes => some { family := afInet, bytes := (bytes ++ List.replicate 16 0).take 16 }
  | .ipv6 bytes => some { family := afInet6, bytes := (bytes ++ List.replicate 16 0).take 16 }

/-- `memcmp` of two arrays of one length. -/
def memcmp : List UInt8 → List UInt8 → Ordering
  | left :: lefts, right :: rights =>
      if left < right then .lt else if right < left then .gt else memcmp lefts rights
  | _, _ => .eq

def compareEndpoint (leftIp : IPAddress) (leftPort : UInt16) (rightIp : IPAddress)
    (rightPort : UInt16) : Ordering :=
  if leftIp.family < rightIp.family then .lt
  else if leftIp.family > rightIp.family then .gt
  else
    match memcmp leftIp.bytes rightIp.bytes with
    | .lt => .lt
    | .gt => .gt
    | .eq =>
        if leftPort < rightPort then .lt else if leftPort > rightPort then .gt else .eq

/-- TCP endpoints are normalised; UDP keeps the packet's order. -/
def flowKeyFromPacket (packet : PacketInfo) : Option (FlowKey × FlowDirection) :=
  if !packet.hasPorts then none
  else
    match packetProtocolToFlowProtocol packet.protocol, parseIpAddress packet.srcIp,
        parseIpAddress packet.dstIp with
    | some transportProtocol, some srcIp, some dstIp =>
        if packet.protocol = .tcp &&
            compareEndpoint srcIp packet.srcPort dstIp packet.dstPort = .gt then
          some ({ aIp := dstIp, aPort := packet.dstPort, bIp := srcIp, bPort := packet.srcPort,
                  transportProtocol := transportProtocol }, .bToA)
        else
          some ({ aIp := srcIp, aPort := packet.srcPort, bIp := dstIp, bPort := packet.dstPort,
                  transportProtocol := transportProtocol }, .aToB)
    | _, _, _ => none

/-! ### Flows -/

structure FlowDirectionState where
  packetCount : Nat := 0
  byteCount : Nat := 0
  tcp : TcpReassemblyDirection := {}
deriving DecidableEq, Repr

structure FlowInfo where
  key : FlowKey
  createdTime : Nat := 0
  lastSeenTime : Nat := 0
  packetCount : Nat := 0
  byteCount : Nat := 0
  app : AppInfo := {}
  appDecodeStatus : AppDecodeStatus := .notRun
  appClassified : Bool := false
  appEventPrinted : Bool := false
  streamBufferBytes : Nat := 0
  aToB : FlowDirectionState := {}
  bToA : FlowDirectionState := {}
deriving DecidableEq, Repr

namespace FlowInfo

/-- `directions[direction]`. -/
def direction (flow : FlowInfo) : FlowDirection → FlowDirectionState
  | .aToB => flow.aToB
  | .bToA => flow.bToA

def setDirection (flow : FlowInfo) (direction : FlowDirection) (state : FlowDirectionState) :
    FlowInfo :=
  match direction with
  | .aToB => { flow with aToB := state }
  | .bToA => { flow with bToA := state }

/-- `directions[direction].tcp`. -/
def tcp (flow : FlowInfo) (direction : FlowDirection) : TcpReassemblyDirection :=
  (flow.direction direction).tcp

def setTcp (flow : FlowInfo) (direction : FlowDirection) (tcp : TcpReassemblyDirection) :
    FlowInfo :=
  flow.setDirection direction { flow.direction direction with tcp := tcp }

end FlowInfo

def flowIsClosed (flow : FlowInfo) : Bool :=
  flow.aToB.tcp.rstSeen || flow.bToA.tcp.rstSeen ||
    (flow.aToB.tcp.finSeen && flow.bToA.tcp.finSeen)

/-- Either direction has seen RST. -/
def flowIsReset (flow : FlowInfo) : Bool := flow.aToB.tcp.rstSeen || flow.bToA.tcp.rstSeen

def flowReleaseReassemblyBuffers (flow : FlowInfo) : FlowInfo :=
  let released := flow.setTcp .aToB (tcpReassemblyDirectionReleaseBuffers (flow.tcp .aToB))
  released.setTcp .bToA (tcpReassemblyDirectionReleaseBuffers (released.tcp .bToA))

def flowPrepareReassemblyDirection (flow : FlowInfo) (direction : FlowDirection) :
    FlowInfo × Bool :=
  if flow.streamBufferBytes = 0 then (flow, false)
  else if (flow.tcp direction).stream.data ≠ none then (flow, true)
  else
    match tcpReassemblyDirectionInit flow.streamBufferBytes with
    | none => (flow.setTcp direction {}, false)
    | some fresh => (flow.setTcp direction fresh, true)

def flowUpdatePacket (flow : FlowInfo) (packet : PacketInfo) (nowSeconds : Nat)
    (direction : FlowDirection) : FlowInfo :=
  let counted :=
    { flow with
      lastSeenTime := nowSeconds
      packetCount := flow.packetCount + 1
      byteCount := flow.byteCount + packet.size }
  let state := counted.direction direction
  counted.setDirection direction
    { state with packetCount := state.packetCount + 1, byteCount := state.byteCount + packet.size }

/-! ### The table -/

/-- `flows` holds `count` flows. -/
structure FlowTable where
  flows : List FlowInfo := []
  maxFlows : Nat := 0
  streamBufferBytes : Nat := 0
  timeoutSeconds : Nat := 0
  flowsCreated : Nat := 0
  flowsClosedFin : Nat := 0
  flowsClosedRst : Nat := 0
  flowsEvictedIdle : Nat := 0
  flowsEvictedCapacity : Nat := 0
  retransmissionsTotal : Nat := 0
  outOfOrderSegmentsTotal : Nat := 0
  overlappingSegmentsTotal : Nat := 0
  gapsTotal : Nat := 0
deriving DecidableEq, Repr

def flowTableInit (maxFlows streamBufferBytes timeoutSeconds : Nat) : Option FlowTable :=
  if maxFlows = 0 || streamBufferBytes = 0 || maxFlows > minisnifferMaxFlows ||
      streamBufferBytes > minisnifferMaxStreamBufferBytes ||
      maxFlows > minisnifferMaxTotalReassemblyBytes / 4 / streamBufferBytes then
    none
  else
    some {
      maxFlows := maxFlows
      streamBufferBytes := streamBufferBytes
      timeoutSeconds := timeoutSeconds }

/-! ### Leaving the table -/

def accumulateDirectionTotals (table : FlowTable) (tcp : TcpReassemblyDirection) : FlowTable :=
  { table with
    retransmissionsTotal := table.retransmissionsTotal + tcp.retransmissions
    outOfOrderSegmentsTotal := table.outOfOrderSegmentsTotal + tcp.outOfOrderSegments
    overlappingSegmentsTotal := table.overlappingSegmentsTotal + tcp.overlappingSegments
    gapsTotal := table.gapsTotal + tcp.gaps }

def removeFlowAt (table : FlowTable) (index : Nat) : FlowTable :=
  match table.flows[index]? with
  | none => table
  | some flow =>
      let totalled :=
        accumulateDirectionTotals (accumulateDirectionTotals table flow.aToB.tcp) flow.bToA.tcp
      { totalled with flows := table.flows.eraseIdx index }

/-- Idle for at least the timeout; a clock that ran backwards counts as no idle time. -/
def flowIsIdle (timeoutSeconds nowSeconds : Nat) (flow : FlowInfo) : Bool :=
  (if nowSeconds ≥ flow.lastSeenTime then nowSeconds - flow.lastSeenTime else 0) ≥ timeoutSeconds

def evictIdleAt (table : FlowTable) (index : Nat) : FlowTable :=
  removeFlowAt { table with flowsEvictedIdle := table.flowsEvictedIdle + 1 } index

def flowTableEvictIdle (table : FlowTable) (nowSeconds : Nat) : FlowTable :=
  if table.timeoutSeconds = 0 then table
  else sweep FlowTable.flows (flowIsIdle table.timeoutSeconds nowSeconds) evictIdleAt table

def evictClosedAt (table : FlowTable) (index : Nat) : FlowTable :=
  match table.flows[index]? with
  | none => table
  | some flow =>
      removeFlowAt
        (if flowIsReset flow then { table with flowsClosedRst := table.flowsClosedRst + 1 }
        else { table with flowsClosedFin := table.flowsClosedFin + 1 })
        index

def flowTableEvictClosed (table : FlowTable) : FlowTable :=
  sweep FlowTable.flows flowIsClosed evictClosedAt table

/-- The first of the flows least recently seen. -/
def oldestIndex (flows : List FlowInfo) : Nat :=
  (List.range flows.length).foldl
    (fun oldest index =>
      match flows[index]?, flows[oldest]? with
      | some flow, some candidate =>
          if flow.lastSeenTime < candidate.lastSeenTime then index else oldest
      | _, _ => oldest)
    0

def evictOldestFlow (table : FlowTable) : FlowTable :=
  if table.flows.length = 0 then table
  else
    removeFlowAt { table with flowsEvictedCapacity := table.flowsEvictedCapacity + 1 }
      (oldestIndex table.flows)

/-! ### Lookup and creation -/

/-- The two passes every lookup starts with. -/
def evictStaleFlows (table : FlowTable) (nowSeconds : Nat) : FlowTable :=
  flowTableEvictClosed (flowTableEvictIdle table nowSeconds)

def makeRoomForFlow (table : FlowTable) : FlowTable :=
  if table.flows.length ≥ table.maxFlows then evictOldestFlow table else table

/-- A slot cleared for a new conversation. -/
def freshFlow (streamBufferBytes : Nat) (key : FlowKey) (nowSeconds : Nat) : FlowInfo where
  key := key
  createdTime := nowSeconds
  lastSeenTime := nowSeconds
  streamBufferBytes := streamBufferBytes

def createFlow (table : FlowTable) (key : FlowKey) (nowSeconds : Nat) : FlowTable :=
  { table with
    flows := table.flows ++ [freshFlow table.streamBufferBytes key nowSeconds]
    flowsCreated := table.flowsCreated + 1 }

/-- The table after the lookup, and the slot and direction of the packet's flow. -/
def flowTableGetOrCreate (table : FlowTable) (packet : PacketInfo) (nowSeconds : Nat) :
    FlowTable × Option (Nat × FlowDirection) :=
  if packet.protocol ≠ .tcp then (table, none)
  else
    match flowKeyFromPacket packet with
    | none => (table, none)
    | some (key, direction) =>
        let evicted := evictStaleFlows table nowSeconds
        match position FlowInfo.key evicted.flows key with
        | some index => (evicted, some (index, direction))
        | none =>
            let roomy := makeRoomForFlow evicted
            if roomy.flows.length ≥ roomy.maxFlows then (roomy, none)
            else (createFlow roomy key nowSeconds, some (roomy.flows.length, direction))

/-! ### Snapshots -/

structure FlowTableStats where
  flowsCreated : Nat := 0
  flowsActive : Nat := 0
  flowsClosedFin : Nat := 0
  flowsClosedRst : Nat := 0
  flowsEvictedIdle : Nat := 0
  flowsEvictedCapacity : Nat := 0
  retransmissions : Nat := 0
  outOfOrderSegments : Nat := 0
  overlappingSegments : Nat := 0
  gaps : Nat := 0
  streamBytesInUse : Nat := 0
  streamBytesConfiguredMax : Nat := 0
deriving DecidableEq, Repr

/-- `stream.data != NULL`, counted. -/
def activeDirection (tcp : TcpReassemblyDirection) : Nat := if tcp.stream.data = none then 0 else 1

/-- One pass of the snapshot loop: the flow's counters, and its directions that hold a buffer. -/
def snapshotFlow (scanned : FlowTableStats × Nat) (flow : FlowInfo) : FlowTableStats × Nat :=
  let snapshot := scanned.1
  ({ snapshot with
      retransmissions :=
        snapshot.retransmissions + (flow.aToB.tcp.retransmissions + flow.bToA.tcp.retransmissions)
      outOfOrderSegments := snapshot.outOfOrderSegments +
        (flow.aToB.tcp.outOfOrderSegments + flow.bToA.tcp.outOfOrderSegments)
      overlappingSegments := snapshot.overlappingSegments +
        (flow.aToB.tcp.overlappingSegments + flow.bToA.tcp.overlappingSegments)
      gaps := snapshot.gaps + (flow.aToB.tcp.gaps + flow.bToA.tcp.gaps) },
    scanned.2 + activeDirection flow.aToB.tcp + activeDirection flow.bToA.tcp)

def flowTableSnapshotStats (table : FlowTable) : FlowTableStats :=
  let evicted : FlowTableStats :=
    { flowsCreated := table.flowsCreated
      flowsActive := table.flows.length
      flowsClosedFin := table.flowsClosedFin
      flowsClosedRst := table.flowsClosedRst
      flowsEvictedIdle := table.flowsEvictedIdle
      flowsEvictedCapacity := table.flowsEvictedCapacity
      retransmissions := table.retransmissionsTotal
      outOfOrderSegments := table.outOfOrderSegmentsTotal
      overlappingSegments := table.overlappingSegmentsTotal
      gaps := table.gapsTotal }
  let scanned := table.flows.foldl snapshotFlow (evicted, 0)
  { scanned.1 with
    streamBytesInUse := scanned.2 * table.streamBufferBytes
    streamBytesConfiguredMax := table.maxFlows * table.streamBufferBytes * 2 }

end MiniSniffer
