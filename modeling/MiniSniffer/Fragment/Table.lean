import MiniSniffer.Common
import MiniSniffer.Config
import MiniSniffer.Foundation.Intervals
import MiniSniffer.Foundation.KeyedTable
import MiniSniffer.Foundation.Machine

/-!
Contract: the IPv4 fragment table (`src/ipv4_frag.c`).

Owns the table of incomplete datagrams and `ipv4_fragment_table_process` with its
parts: expiry, the malformed checks, adoption of the first fragment's header,
range bookkeeping, the byte cap and the rebuilt packet. A datagram's header holds
`header_length` bytes and its data `data_capacity` bytes.

Does not own parsing of the fragments or of the rebuilt packet.
-/

namespace MiniSniffer

open Foundation

def ipv4MaxTotalLength : Nat := 65535

def minisnifferIpv4FragmentMaxRanges : Nat := 64

def minisnifferMaxIpv4HeaderBytes : Nat := 60

/-! ### Datagrams -/

structure IPv4FragmentKey where
  srcIp : IpText
  dstIp : IpText
  protocol : UInt8
  identification : UInt16
deriving DecidableEq, Repr

/-- `start` and `end` of a stored fragment's payload. -/
abbrev IPv4FragmentRange := Foundation.Interval

structure IPv4FragmentDatagram where
  key : IPv4FragmentKey
  lastSeenTime : Nat := 0
  header : List UInt8 := []
  data : List UInt8 := []
  hasLastFragment : Bool := false
  totalPayloadLength : Nat := 0
  ranges : List IPv4FragmentRange := []
deriving DecidableEq, Repr

namespace IPv4FragmentDatagram

def dataCapacity (datagram : IPv4FragmentDatagram) : Nat := datagram.data.length

def headerLength (datagram : IPv4FragmentDatagram) : Nat := datagram.header.length

end IPv4FragmentDatagram

def rangeOverlaps (datagram : IPv4FragmentDatagram) (start stop : Nat) : Bool :=
  overlapsAny datagram.ranges { start := start, stop := stop }

def addRange (datagram : IPv4FragmentDatagram) (start stop : Nat) : Option IPv4FragmentDatagram :=
  if datagram.ranges.length ≥ minisnifferIpv4FragmentMaxRanges then none
  else
    some { datagram with
      ranges := insertByStart datagram.ranges { start := start, stop := stop } }

def coverageIsComplete (datagram : IPv4FragmentDatagram) : Bool :=
  if !datagram.hasLastFragment || datagram.totalPayloadLength = 0 then false
  else scanCoverage datagram.totalPayloadLength 0 datagram.ranges

/-- The rebuilt packet: header, payload, total length, flags without MF and offset, no checksum. -/
def buildPacket (datagram : IPv4FragmentDatagram) : Option (List UInt8) :=
  let totalLength := datagram.headerLength + datagram.totalPayloadLength
  if totalLength > ipv4MaxTotalLength then none
  else
    let packet := datagram.header ++ datagram.data.take datagram.totalPayloadLength
    let packet := writeU16 packet 2 (UInt16.ofNat totalLength)
    let flagsFragment := (readU16 packet 6 &&& 0xe000) &&& ~~~0x2000
    let packet := writeU16 packet 6 flagsFragment
    some (writeU16 packet 10 0)

/-! ### The table -/

structure IPv4FragmentTable where
  datagrams : List IPv4FragmentDatagram := []
  maxDatagrams : Nat
  maxBytes : Nat
  usedBytes : Nat := 0
  timeoutSeconds : Nat
deriving DecidableEq, Repr

def ipv4FragmentTableInit (maxDatagrams maxBytes timeoutSeconds : Nat) :
    Option IPv4FragmentTable :=
  if maxDatagrams = 0 || maxDatagrams > minisnifferMaxIpv4FragmentDatagrams || maxBytes = 0 ||
      maxBytes > minisnifferMaxIpv4FragmentBytes then none
  else
    some { maxDatagrams := maxDatagrams, maxBytes := maxBytes, timeoutSeconds := timeoutSeconds }

/-- Subtraction on `Nat` stops at zero, as the guard on `used_bytes` does. -/
def removeDatagramAt (table : IPv4FragmentTable) (index : Nat) : IPv4FragmentTable :=
  match table.datagrams[index]? with
  | none => table
  | some datagram =>
      { table with
        datagrams := table.datagrams.eraseIdx index
        usedBytes := table.usedBytes - datagram.dataCapacity }

/-- Idle for at least the timeout; a clock that ran backwards counts as no idle time. -/
def datagramIsIdle (timeoutSeconds nowSeconds : Nat) (datagram : IPv4FragmentDatagram) : Bool :=
  (if nowSeconds ≥ datagram.lastSeenTime then nowSeconds - datagram.lastSeenTime else 0) ≥
    timeoutSeconds

/-- The table and the counters that its operations advance. -/
abbrev FragmentState := IPv4FragmentTable × PacketStats

def expireAt (state : FragmentState) (index : Nat) : FragmentState :=
  (removeDatagramAt state.1 index,
    { state.2 with ipv4FragmentsExpired := state.2.ipv4FragmentsExpired + 1 })

def ipv4FragmentTableExpire (state : FragmentState) (nowSeconds : Nat) : FragmentState :=
  if state.1.timeoutSeconds = 0 then state
  else
    sweep (fun current : FragmentState => current.1.datagrams)
      (datagramIsIdle state.1.timeoutSeconds nowSeconds) expireAt state

/-! ### Processing -/

def makeKey (fragment : PacketInfo) : IPv4FragmentKey where
  srcIp := fragment.srcIp
  dstIp := fragment.dstIp
  protocol := fragment.ipv4ProtocolNumber
  identification := fragment.ipv4Identification

def fragmentIsMalformed (fragment : PacketInfo) : Bool :=
  if !fragment.isIpv4Fragment || fragment.ipVersion ≠ 4 || fragment.ipv4HeaderLength < 20 ||
      fragment.ipv4HeaderLength > minisnifferMaxIpv4HeaderBytes ||
      fragment.ipv4FragmentPayload.isNone then true
  else if fragment.ipv4MoreFragments && fragment.ipv4FragmentPayloadLength % 8 ≠ 0 then true
  else if fragment.ipv4FragmentPayloadLength = 0 then true
  else if fragment.ipv4FragmentOffset > ipv4MaxTotalLength then true
  else
    fragment.ipv4FragmentOffset + fragment.ipv4FragmentPayloadLength + fragment.ipv4HeaderLength >
      ipv4MaxTotalLength

/-- Only the missing bytes count against the cap, and they read as zero. -/
def ensureCapacity (table : IPv4FragmentTable) (datagram : IPv4FragmentDatagram)
    (capacity : Nat) : Option (IPv4FragmentTable × IPv4FragmentDatagram) :=
  if capacity ≤ datagram.dataCapacity then some (table, datagram)
  else
    let additional := capacity - datagram.dataCapacity
    if additional > table.maxBytes || table.usedBytes > table.maxBytes - additional then none
    else
      some ({ table with usedBytes := table.usedBytes + additional },
        { datagram with data := growTo 0 datagram.data capacity })

def freshDatagram (fragment : PacketInfo) (key : IPv4FragmentKey) (nowSeconds : Nat) :
    IPv4FragmentDatagram where
  key := key
  lastSeenTime := nowSeconds
  header := fragment.ipv4Header

def createDatagram (table : IPv4FragmentTable) (fragment : PacketInfo) (key : IPv4FragmentKey)
    (nowSeconds : Nat) : Option IPv4FragmentTable :=
  if table.datagrams.length ≥ table.maxDatagrams then none
  else some { table with datagrams := table.datagrams ++ [freshDatagram fragment key nowSeconds] }

/-- The slot of the fragment's datagram, which is created when there is none. -/
def findOrCreateDatagram (table : IPv4FragmentTable) (fragment : PacketInfo)
    (key : IPv4FragmentKey) (nowSeconds : Nat) : Option (IPv4FragmentTable × Nat) :=
  match position IPv4FragmentDatagram.key table.datagrams key with
  | some index => some (table, index)
  | none =>
      (createDatagram table fragment key nowSeconds).map fun created =>
        (created, table.datagrams.length)

inductive IPv4FragmentProcessResult where
  | ignored
  | queued
  | reassembled (packet : List UInt8)
  | malformed
  | dropped
deriving DecidableEq, Repr

/-- The payload bytes that a fragment view shows. -/
def fragmentBytes (fragment : PacketInfo) : List UInt8 :=
  match fragment.ipv4FragmentPayload with
  | none => []
  | some view => view.bytes

/-- The part of the datagram's payload that a fragment carries. -/
def fragmentRange (fragment : PacketInfo) : IPv4FragmentRange where
  start := fragment.ipv4FragmentOffset
  stop := fragment.ipv4FragmentOffset + fragment.ipv4FragmentPayloadLength

/-- The first fragment's header is the authoritative one, whenever it arrives. -/
def adoptFragment (datagram : IPv4FragmentDatagram) (fragment : PacketInfo) (nowSeconds : Nat) :
    IPv4FragmentDatagram :=
  if fragment.ipv4FragmentOffset = 0 then
    { datagram with header := fragment.ipv4Header, lastSeenTime := nowSeconds }
  else { datagram with lastSeenTime := nowSeconds }

/-- `range_overlaps(...) || !add_range(...)`, which invalidates the datagram. -/
def admitRange (datagram : IPv4FragmentDatagram) (start stop : Nat) :
    Option IPv4FragmentDatagram :=
  if rangeOverlaps datagram start stop then none else addRange datagram start stop

/-- Copies the payload; a fragment with no more to come declares the end. -/
def storeFragment (datagram : IPv4FragmentDatagram) (fragment : PacketInfo) :
    IPv4FragmentDatagram :=
  let copied :=
    { datagram with
      data := patch datagram.data fragment.ipv4FragmentOffset (fragmentBytes fragment) }
  if fragment.ipv4MoreFragments then copied
  else
    { copied with
      hasLastFragment := true
      totalPayloadLength := (fragmentRange fragment).stop }

/-- What `ipv4_fragment_table_process` does once the datagram is found. -/
def acceptFragment (table : IPv4FragmentTable) (stats : PacketStats) (index : Nat)
    (datagram : IPv4FragmentDatagram) (fragment : PacketInfo) (nowSeconds : Nat) :
    FragmentState × IPv4FragmentProcessResult :=
  let range := fragmentRange fragment
  match admitRange (adoptFragment datagram fragment nowSeconds) range.start range.stop with
  | none =>
      ((removeDatagramAt table index,
        { stats with ipv4FragmentsMalformed := stats.ipv4FragmentsMalformed + 1 }), .malformed)
  | some ranged =>
      match ensureCapacity table ranged range.stop with
      | none =>
          ((removeDatagramAt table index,
            { stats with ipv4FragmentsDropped := stats.ipv4FragmentsDropped + 1 }), .dropped)
      | some (grownTable, grown) =>
          let stored := storeFragment grown fragment
          let written := { grownTable with datagrams := grownTable.datagrams.set index stored }
          if coverageIsComplete stored then
            match buildPacket stored with
            | none =>
                ((removeDatagramAt written index,
                  { stats with ipv4FragmentsDropped := stats.ipv4FragmentsDropped + 1 }), .dropped)
            | some packet =>
                ((removeDatagramAt written index,
                  { stats with
                    ipv4FragmentsReassembled := stats.ipv4FragmentsReassembled + 1 }),
                  .reassembled packet)
          else ((written, stats), .queued)

def ipv4FragmentTableProcess (state : FragmentState) (fragment : PacketInfo) (nowSeconds : Nat) :
    FragmentState × IPv4FragmentProcessResult :=
  if !fragment.isIpv4Fragment then (state, .ignored)
  else
    let seen :=
      { state.2 with ipv4FragmentsSeen := state.2.ipv4FragmentsSeen + 1 }
    let (table, stats) := ipv4FragmentTableExpire (state.1, seen) nowSeconds
    if fragmentIsMalformed fragment then
      ((table, { stats with ipv4FragmentsMalformed := stats.ipv4FragmentsMalformed + 1 }),
        .malformed)
    else
      let key := makeKey fragment
      match findOrCreateDatagram table fragment key nowSeconds with
      | none =>
          ((table, { stats with ipv4FragmentsDropped := stats.ipv4FragmentsDropped + 1 }),
            .dropped)
      | some (opened, index) =>
          match opened.datagrams[index]? with
          | none => ((opened, stats), .dropped)
          | some datagram => acceptFragment opened stats index datagram fragment nowSeconds

/-! ### The machine -/

structure FragmentEvent where
  fragment : PacketInfo
  now : Nat
deriving DecidableEq, Repr

def fragmentReassembly : Machine FragmentState FragmentEvent IPv4FragmentProcessResult where
  step state event := ipv4FragmentTableProcess state event.fragment event.now

/-- The states a capture reaches from an initialised table. -/
def FragmentCaptured (state : FragmentState) : Prop :=
  ∃ maxDatagrams maxBytes timeoutSeconds initial stats,
    ipv4FragmentTableInit maxDatagrams maxBytes timeoutSeconds = some initial ∧
      fragmentReassembly.Reachable (initial, stats) state

end MiniSniffer
