import MiniSniffer.Flow.Table
import MiniSniffer.Foundation.OrderedPair

/-!
Contract: what a flow key identifies.

Owns the order on endpoints and the identity of TCP flows: keys are equal exactly for the same two
endpoints in either order, and among packets of one key the direction tells which endpoint sent.

Does not own the table that flows are kept in.
-/

namespace MiniSniffer

open Foundation

def FlowDirection.opposite : FlowDirection → FlowDirection
  | .aToB => .bToA
  | .bToA => .aToB

/-- Field by field, as the table compares keys. -/
def flowKeyEquals (left right : FlowKey) : Bool :=
  left.aIp.family = right.aIp.family && memcmp left.aIp.bytes right.aIp.bytes = .eq &&
    left.aPort = right.aPort && left.bIp.family = right.bIp.family &&
    memcmp left.bIp.bytes right.bIp.bytes = .eq && left.bPort = right.bPort &&
    left.transportProtocol = right.transportProtocol

/-! ### Endpoint order -/

section Order

theorem memcmp_swap (left right : List UInt8) : memcmp right left = (memcmp left right).swap := by
  induction left generalizing right with
  | nil => cases right <;> rfl
  | cons leftByte lefts inductionHypothesis =>
      cases right with
      | nil => rfl
      | cons rightByte rights =>
          rw [memcmp, memcmp]
          by_cases less : leftByte < rightByte
          · have notGreater : ¬ rightByte < leftByte := UInt8.lt_asymm less
            rw [if_pos less, if_neg notGreater, if_pos less]
            rfl
          · by_cases greater : rightByte < leftByte
            · rw [if_pos greater, if_neg less, if_pos greater]
              rfl
            · rw [if_neg greater, if_neg less, if_neg less, if_neg greater]
              exact inductionHypothesis rights

theorem compareEndpoint_swap (leftIp rightIp : IPAddress) (leftPort rightPort : UInt16) :
    compareEndpoint rightIp rightPort leftIp leftPort =
      (compareEndpoint leftIp leftPort rightIp rightPort).swap := by
  unfold compareEndpoint
  rcases Nat.lt_trichotomy leftIp.family rightIp.family with less | same | greater
  · have notLess : ¬ rightIp.family < leftIp.family := Nat.lt_asymm less
    rw [if_neg notLess, if_pos less, if_pos less]
    rfl
  · rw [same, if_neg (Nat.lt_irrefl _), if_neg (Nat.lt_irrefl _), if_neg (Nat.lt_irrefl _),
      if_neg (Nat.lt_irrefl _), memcmp_swap leftIp.bytes rightIp.bytes]
    cases memcmp leftIp.bytes rightIp.bytes with
    | lt => rfl
    | gt => rfl
    | eq =>
        by_cases less : leftPort < rightPort
        · simp [Ordering.swap, less, UInt16.lt_asymm less]
        · by_cases greater : rightPort < leftPort
          · simp [Ordering.swap, less, greater]
          · simp [Ordering.swap, less, greater]
  · have notLess : ¬ leftIp.family < rightIp.family := Nat.lt_asymm greater
    rw [if_pos greater, if_neg notLess, if_pos greater]
    rfl

/-- Arrays of one length compare equal only if they are. -/
theorem memcmp_eq_iff {left right : List UInt8} (sameLength : left.length = right.length) :
    memcmp left right = .eq ↔ left = right := by
  induction left generalizing right with
  | nil =>
      rw [List.length_eq_zero_iff.mp sameLength.symm]
      exact iff_of_true rfl rfl
  | cons leftByte lefts inductionHypothesis =>
      cases right with
      | nil => contradiction
      | cons rightByte rights =>
          have rest := inductionHypothesis (Nat.succ.inj sameLength)
          rw [memcmp, List.cons.injEq]
          split_ifs with less greater
          · exact iff_of_false (by decide) fun same => UInt8.ne_of_lt less same.1
          · exact iff_of_false (by decide) fun same => UInt8.ne_of_lt greater same.1.symm
          · rw [rest, and_iff_right]
            exact UInt8.le_antisymm (UInt8.not_lt.mp greater) (UInt8.not_lt.mp less)

/-- A parsed endpoint: the address fills its array. -/
structure FlowEndpoint where
  ip : IPAddress
  port : UInt16
  sized : ip.bytes.length = 16
deriving DecidableEq

namespace FlowEndpoint

def compare (left right : FlowEndpoint) : Ordering :=
  compareEndpoint left.ip left.port right.ip right.port

instance : Std.OrientedCmp compare where
  eq_swap := compareEndpoint_swap _ _ _ _

theorem eq_of_compareEndpoint {left right : FlowEndpoint}
    (same : compareEndpoint left.ip left.port right.ip right.port = .eq) : left = right := by
  unfold compareEndpoint at same
  have sameBytes : memcmp left.ip.bytes right.ip.bytes = .eq := by
    cases order : memcmp left.ip.bytes right.ip.bytes with
    | eq => rfl
    | lt =>
        rw [order] at same
        split_ifs at same
    | gt =>
        rw [order] at same
        split_ifs at same
  rw [sameBytes] at same
  split_ifs at same with lessFamily greaterFamily lessPort greaterPort
  obtain ⟨⟨leftFamily, leftBytes⟩, leftPort, leftSized⟩ := left
  obtain ⟨⟨rightFamily, rightBytes⟩, rightPort, rightSized⟩ := right
  obtain rfl : leftFamily = rightFamily :=
    Nat.le_antisymm (Nat.le_of_not_lt greaterFamily) (Nat.le_of_not_lt lessFamily)
  obtain rfl : leftBytes = rightBytes :=
    (memcmp_eq_iff (leftSized.trans rightSized.symm)).mp sameBytes
  obtain rfl : leftPort = rightPort :=
    UInt16.le_antisymm (UInt16.not_lt.mp greaterPort) (UInt16.not_lt.mp lessPort)
  rfl

instance : Std.LawfulEqCmp compare where
  eq_of_compare := eq_of_compareEndpoint

end FlowEndpoint

end Order

/-! ### Packets -/

/-- A text of an address, with as many bytes as its family has. -/
def IpText.Parses : IpText → Prop
  | .empty => False
  | .ipv4 bytes => bytes.length = 4
  | .ipv6 bytes => bytes.length = 16

theorem take_padded {bytes : List UInt8} {count : Nat} (sized : bytes.length = count)
    (short : count ≤ 16) : ((bytes ++ List.replicate 16 0).take 16).take count = bytes := by
  rw [List.take_take, Nat.min_eq_left short, ← sized, List.take_left]

theorem parseIpAddress_inj {left right : IpText} (leftParses : left.Parses)
    (rightParses : right.Parses) : parseIpAddress left = parseIpAddress right ↔ left = right := by
  have families : afInet ≠ afInet6 := by decide
  have padding : ∀ {leftBytes rightBytes : List UInt8} {count : Nat}, leftBytes.length = count →
      rightBytes.length = count → count ≤ 16 →
      (leftBytes ++ List.replicate 16 0).take 16 = (rightBytes ++ List.replicate 16 0).take 16 →
      leftBytes = rightBytes := by
    intro leftBytes rightBytes count leftSized rightSized short padded
    rw [← take_padded leftSized short, padded, take_padded rightSized short]
  refine ⟨fun same => ?_, fun same => by rw [same]⟩
  cases left with
  | empty => exact leftParses.elim
  | ipv4 leftBytes =>
      cases right with
      | empty => exact rightParses.elim
      | ipv4 rightBytes =>
          have padded := congrArg IPAddress.bytes (Option.some.inj same)
          rw [padding leftParses rightParses (by decide) padded]
      | ipv6 rightBytes =>
          exact absurd (congrArg IPAddress.family (Option.some.inj same)) families
  | ipv6 leftBytes =>
      cases right with
      | empty => exact rightParses.elim
      | ipv4 rightBytes =>
          exact absurd (congrArg IPAddress.family (Option.some.inj same)) families.symm
      | ipv6 rightBytes =>
          have padded := congrArg IPAddress.bytes (Option.some.inj same)
          rw [padding leftParses rightParses (by decide) padded]

/-- Family, address and port. -/
@[ext] structure Endpoint where
  address : IpText
  port : UInt16
  parses : address.Parses

namespace Endpoint

/-- The endpoint as flow keys hold it. -/
def numeric : Endpoint → FlowEndpoint
  | ⟨.ipv4 bytes, port, _⟩ =>
      ⟨⟨afInet, (bytes ++ List.replicate 16 0).take 16⟩, port, by simp⟩
  | ⟨.ipv6 bytes, port, _⟩ =>
      ⟨⟨afInet6, (bytes ++ List.replicate 16 0).take 16⟩, port, by simp⟩

theorem parseIpAddress_address (endpoint : Endpoint) :
    parseIpAddress endpoint.address = some endpoint.numeric.ip := by
  obtain ⟨address, port, parses⟩ := endpoint
  cases address with
  | empty => exact parses.elim
  | ipv4 bytes => rfl
  | ipv6 bytes => rfl

@[simp] theorem numeric_port (endpoint : Endpoint) : endpoint.numeric.port = endpoint.port := by
  obtain ⟨address, port, parses⟩ := endpoint
  cases address with
  | empty => exact parses.elim
  | ipv4 bytes => rfl
  | ipv6 bytes => rfl

/-- The numeric address keeps its family apart, whatever its bytes are. -/
theorem numeric_ip_inj {left right : Endpoint} :
    left.numeric.ip = right.numeric.ip ↔ left.address = right.address := by
  rw [← Option.some_inj, ← parseIpAddress_address, ← parseIpAddress_address]
  exact parseIpAddress_inj left.parses right.parses

theorem numeric_injective : Function.Injective numeric := by
  intro left right same
  have port := congrArg FlowEndpoint.port same
  rw [numeric_port, numeric_port] at port
  exact Endpoint.ext (numeric_ip_inj.mp (congrArg FlowEndpoint.ip same)) port

end Endpoint

/-- A TCP packet with ports whose two addresses parse. -/
structure TcpPacket where
  packet : PacketInfo
  isTcp : packet.protocol = .tcp
  ported : packet.hasPorts = true
  sourceParses : packet.srcIp.Parses
  destinationParses : packet.dstIp.Parses

namespace TcpPacket

def source (tcp : TcpPacket) : Endpoint := ⟨tcp.packet.srcIp, tcp.packet.srcPort, tcp.sourceParses⟩

def destination (tcp : TcpPacket) : Endpoint :=
  ⟨tcp.packet.dstIp, tcp.packet.dstPort, tcp.destinationParses⟩

/-- The packet that goes the other way. -/
def swapped (tcp : TcpPacket) : TcpPacket where
  packet :=
    { tcp.packet with
      srcIp := tcp.packet.dstIp
      srcPort := tcp.packet.dstPort
      dstIp := tcp.packet.srcIp
      dstPort := tcp.packet.srcPort }
  isTcp := tcp.isTcp
  ported := tcp.ported
  sourceParses := tcp.destinationParses
  destinationParses := tcp.sourceParses

/-- The endpoints at the two positions of a key, for a packet that goes in a direction. -/
def placed (tcp : TcpPacket) : FlowDirection → Endpoint × Endpoint
  | .aToB => (tcp.source, tcp.destination)
  | .bToA => (tcp.destination, tcp.source)

def direction (tcp : TcpPacket) : FlowDirection :=
  if FlowEndpoint.compare tcp.source.numeric tcp.destination.numeric = .gt then .bToA else .aToB

/-- The key's positions are the endpoints in order. -/
theorem placed_direction (tcp : TcpPacket) :
    ((tcp.placed tcp.direction).1.numeric, (tcp.placed tcp.direction).2.numeric) =
      orderedPair FlowEndpoint.compare tcp.source.numeric tcp.destination.numeric := by
  unfold direction orderedPair
  split_ifs <;> rfl

def key (tcp : TcpPacket) : FlowKey where
  aIp := (tcp.placed tcp.direction).1.numeric.ip
  aPort := (tcp.placed tcp.direction).1.port
  bIp := (tcp.placed tcp.direction).2.numeric.ip
  bPort := (tcp.placed tcp.direction).2.port
  transportProtocol := 6

theorem flowKeyFromPacket_eq (tcp : TcpPacket) :
    flowKeyFromPacket tcp.packet = some (tcp.key, tcp.direction) := by
  have source : parseIpAddress tcp.packet.srcIp = some tcp.source.numeric.ip :=
    tcp.source.parseIpAddress_address
  have destination : parseIpAddress tcp.packet.dstIp = some tcp.destination.numeric.ip :=
    tcp.destination.parseIpAddress_address
  have compared : FlowEndpoint.compare tcp.source.numeric tcp.destination.numeric =
      compareEndpoint tcp.source.numeric.ip tcp.packet.srcPort tcp.destination.numeric.ip
        tcp.packet.dstPort := by
    rw [FlowEndpoint.compare, Endpoint.numeric_port, Endpoint.numeric_port]
    rfl
  simp only [flowKeyFromPacket, tcp.ported, tcp.isTcp, packetProtocolToFlowProtocol, source,
    destination, ← compared, key, direction]
  by_cases greater : FlowEndpoint.compare tcp.source.numeric tcp.destination.numeric = .gt
  · simp only [greater, placed]
    rfl
  · simp only [greater, placed]
    rfl

/-! ### Identity -/

theorem flowKeyEquals_iff (tcp other : TcpPacket) :
    flowKeyEquals tcp.key other.key = true ↔ tcp.key = other.key := by
  have aBytes := @memcmp_eq_iff tcp.key.aIp.bytes other.key.aIp.bytes
    ((tcp.placed tcp.direction).1.numeric.sized.trans
      (other.placed other.direction).1.numeric.sized.symm)
  have bBytes := @memcmp_eq_iff tcp.key.bIp.bytes other.key.bIp.bytes
    ((tcp.placed tcp.direction).2.numeric.sized.trans
      (other.placed other.direction).2.numeric.sized.symm)
  generalize tcp.key = left at aBytes bBytes ⊢
  generalize other.key = right at aBytes bBytes ⊢
  obtain ⟨⟨aFamily, aIp⟩, aPort, ⟨bFamily, bIp⟩, bPort, transport⟩ := left
  obtain ⟨⟨otherAFamily, otherAIp⟩, otherAPort, ⟨otherBFamily, otherBIp⟩, otherBPort,
    otherTransport⟩ := right
  simp only [flowKeyEquals, Bool.and_eq_true, decide_eq_true_eq, aBytes, bBytes, FlowKey.mk.injEq,
    IPAddress.mk.injEq]
  tauto

theorem key_eq_iff_placed (tcp other : TcpPacket) :
    tcp.key = other.key ↔ tcp.placed tcp.direction = other.placed other.direction := by
  constructor
  · intro same
    simp only [key, FlowKey.mk.injEq, Endpoint.numeric_ip_inj] at same
    obtain ⟨aAddress, aPort, bAddress, bPort, -⟩ := same
    exact Prod.ext (Endpoint.ext aAddress aPort) (Endpoint.ext bAddress bPort)
  · intro same
    rw [key, key, same]

/-- Keys are equal exactly for the same unordered pair of endpoints. -/
theorem key_eq_iff (tcp other : TcpPacket) :
    tcp.key = other.key ↔ s(tcp.source, tcp.destination) = s(other.source, other.destination) := by
  rw [key_eq_iff_placed, ← (Sym2.map.injective Endpoint.numeric_injective).eq_iff, Sym2.map_mk,
    Sym2.map_mk]
  show _ ↔ s(tcp.source.numeric, tcp.destination.numeric) =
    s(other.source.numeric, other.destination.numeric)
  rw [← orderedPair_eq_iff FlowEndpoint.compare, ← placed_direction, ← placed_direction,
    Prod.ext_iff, Prod.mk.injEq, Endpoint.numeric_injective.eq_iff,
    Endpoint.numeric_injective.eq_iff]

theorem direction_congr {tcp other : TcpPacket} (source : tcp.source = other.source)
    (destination : tcp.destination = other.destination) : tcp.direction = other.direction := by
  rw [direction, direction, source, destination]

/-- Among packets of one key, the direction tells the source. -/
theorem direction_eq_iff {tcp other : TcpPacket} (sameKey : tcp.key = other.key) :
    tcp.direction = other.direction ↔ tcp.source = other.source := by
  constructor
  · intro same
    rw [key_eq_iff_placed, same] at sameKey
    cases way : other.direction with
    | aToB =>
        rw [way] at sameKey
        exact congrArg Prod.fst sameKey
    | bToA =>
        rw [way] at sameKey
        exact congrArg Prod.snd sameKey
  · intro source
    rw [key_eq_iff, source, Sym2.congr_right] at sameKey
    exact direction_congr source sameKey

/-- Between different endpoints the other way is the opposite direction. -/
theorem swapped_direction {tcp : TcpPacket} (different : tcp.source ≠ tcp.destination) :
    tcp.swapped.direction = tcp.direction.opposite := by
  have unequal : FlowEndpoint.compare tcp.source.numeric tcp.destination.numeric ≠ .eq := by
    intro same
    exact different (Endpoint.numeric_injective (Std.LawfulEqCmp.eq_of_compare same))
  have swap : FlowEndpoint.compare tcp.swapped.source.numeric tcp.swapped.destination.numeric =
      (FlowEndpoint.compare tcp.source.numeric tcp.destination.numeric).swap :=
    Std.OrientedCmp.eq_swap
  rw [direction, direction, swap]
  cases order : FlowEndpoint.compare tcp.source.numeric tcp.destination.numeric with
  | lt => rfl
  | gt => rfl
  | eq => exact absurd order unequal

end TcpPacket

/-- What the keys of two packets say about their endpoints. -/
structure FlowIdentity (tcp other : TcpPacket) (key otherKey : FlowKey)
    (direction otherDirection : FlowDirection) : Prop where
  equal_iff : flowKeyEquals key otherKey = true ↔
    s(tcp.source, tcp.destination) = s(other.source, other.destination)
  sameDirection_iff : flowKeyEquals key otherKey = true →
    (direction = otherDirection ↔ tcp.source = other.source)
  swapped : ∃ back, flowKeyFromPacket tcp.swapped.packet = some (key, back) ∧
    (tcp.source ≠ tcp.destination → back = direction.opposite)
  aHolds : parseIpAddress (tcp.placed direction).1.address = some key.aIp ∧
    key.aPort = (tcp.placed direction).1.port
  bHolds : parseIpAddress (tcp.placed direction).2.address = some key.bIp ∧
    key.bPort = (tcp.placed direction).2.port
  aShared_iff : key.aIp = otherKey.aIp ↔
    (tcp.placed direction).1.address = (other.placed otherDirection).1.address
  bShared_iff : key.bIp = otherKey.bIp ↔
    (tcp.placed direction).2.address = (other.placed otherDirection).2.address

/-- TCP flow identity is symmetric and injective. -/
theorem flow_identity (tcp other : TcpPacket) :
    ∃ key direction otherKey otherDirection,
      flowKeyFromPacket tcp.packet = some (key, direction) ∧
      flowKeyFromPacket other.packet = some (otherKey, otherDirection) ∧
      FlowIdentity tcp other key otherKey direction otherDirection := by
  refine ⟨_, _, _, _, tcp.flowKeyFromPacket_eq, other.flowKeyFromPacket_eq, ?_⟩
  exact
    { equal_iff := (tcp.flowKeyEquals_iff other).trans (tcp.key_eq_iff other)
      sameDirection_iff := fun equal =>
        TcpPacket.direction_eq_iff ((tcp.flowKeyEquals_iff other).mp equal)
      swapped := by
        have sameKey : tcp.swapped.key = tcp.key :=
          (tcp.swapped.key_eq_iff tcp).mpr Sym2.eq_swap
        exact ⟨_, sameKey ▸ tcp.swapped.flowKeyFromPacket_eq, TcpPacket.swapped_direction⟩
      aHolds := ⟨Endpoint.parseIpAddress_address _, rfl⟩
      bHolds := ⟨Endpoint.parseIpAddress_address _, rfl⟩
      aShared_iff := Endpoint.numeric_ip_inj
      bShared_iff := Endpoint.numeric_ip_inj }

end MiniSniffer
