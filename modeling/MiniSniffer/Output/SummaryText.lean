import MiniSniffer.Capture.Tallies
import MiniSniffer.Foundation.TextLines

/-!
Contract: the summary that `--stats` prints (`stats_print` and `stats_apply_pcap_drops` in
`src/stats.c`).

Owns the counters with those of the capture driver, the lines that they are printed in, and that
every counter is read back from its line.

Does not own what the counters count: see `Capture.Summary` and `Capture.Tallies`.
-/

namespace MiniSniffer

open Foundation

/-! ### Counters -/

/-- The counters of a capture, with those of the driver. -/
structure ReportedStats extends CaptureSummary where
  pcapStatsAvailable : Bool := false
  pcapPacketsReceived : UInt32 := 0
  pcapPacketsDropped : UInt32 := 0
  pcapPacketsIfDropped : UInt32 := 0
deriving DecidableEq, Repr

def statsApplyPcapDrops (stats : ReportedStats) (available : Bool)
    (received dropped ifDropped : UInt32) : ReportedStats :=
  if !available then
    { stats with
      pcapStatsAvailable := available
      pcapPacketsReceived := 0
      pcapPacketsDropped := 0
      pcapPacketsIfDropped := 0 }
  else
    { stats with
      pcapStatsAvailable := available
      pcapPacketsReceived := received
      pcapPacketsDropped := dropped
      pcapPacketsIfDropped := ifDropped }

/-! ### Lines -/

/-- A counter and what it is printed as. -/
abbrev StatCounter := List UInt8 × Nat

def averagePacketSize (stats : PacketStats) : Nat :=
  if stats.totalPackets ≠ 0 then stats.totalBytes / stats.totalPackets.toNat else 0

def packetCounters (stats : CaptureSummary) : List StatCounter :=
  [(ascii "Displayed packets", stats.totalPackets.toNat),
    (ascii "Raw packets seen", stats.rawPacketsSeen.toNat),
    (ascii "Packets filtered out", stats.packetsFilteredOut.toNat),
    (ascii "Parse failures", stats.parseFailures.toNat),
    (ascii "TCP", stats.tcpPackets.toNat),
    (ascii "UDP", stats.udpPackets.toNat),
    (ascii "ICMP", stats.icmpPackets.toNat),
    (ascii "ARP", stats.arpPackets.toNat),
    (ascii "Other", stats.otherPackets.toNat),
    (ascii "Total bytes", stats.totalBytes),
    (ascii "Average packet size", averagePacketSize stats.toPacketStats),
    (ascii "IPv4 fragments seen", stats.ipv4FragmentsSeen.toNat),
    (ascii "IPv4 fragments reassembled", stats.ipv4FragmentsReassembled.toNat),
    (ascii "IPv4 fragments expired", stats.ipv4FragmentsExpired.toNat),
    (ascii "IPv4 fragments malformed", stats.ipv4FragmentsMalformed.toNat),
    (ascii "IPv4 fragments dropped", stats.ipv4FragmentsDropped.toNat),
    (ascii "IPv4 fragment bytes in use", stats.ipv4FragmentBytesInUse),
    (ascii "IPv4 fragment bytes configured max", stats.ipv4FragmentBytesConfiguredMax)]

def pcapCounters (stats : ReportedStats) : List StatCounter :=
  [(ascii "Pcap packets received", stats.pcapPacketsReceived.toNat),
    (ascii "Pcap packets dropped", stats.pcapPacketsDropped.toNat),
    (ascii "Pcap interface drops", stats.pcapPacketsIfDropped.toNat)]

def flowCounters (stats : CaptureSummary) : List StatCounter :=
  [(ascii "App decode no_match", stats.appDecodeNoMatch.toNat),
    (ascii "App decode need_more", stats.appDecodeNeedMore.toNat),
    (ascii "App decode malformed", stats.appDecodeMalformed.toNat),
    (ascii "App decode truncated", stats.appDecodeTruncated.toNat),
    (ascii "App decode decoded", stats.appDecodeDecoded.toNat),
    (ascii "Flows created", stats.flowCountCreated),
    (ascii "Flows active at exit", stats.flowCountActiveAtExit),
    (ascii "Flows closed (FIN)", stats.flowClosedFin),
    (ascii "Flows closed (RST)", stats.flowClosedRst),
    (ascii "Flows evicted (idle)", stats.flowEvictedIdle),
    (ascii "Flows evicted (capacity)", stats.flowEvictedCapacity),
    (ascii "Flow retransmissions", stats.flowRetransmissions),
    (ascii "Flow out-of-order segments", stats.flowOutOfOrderSegments),
    (ascii "Flow overlapping segments", stats.flowOverlappingSegments),
    (ascii "Flow gaps", stats.flowGaps),
    (ascii "Flow stream bytes in use", stats.flowStreamBytesInUse),
    (ascii "Flow stream bytes configured max", stats.flowStreamBytesConfiguredMax)]

def statLine (counter : StatCounter) : List UInt8 :=
  counter.1 ++ ascii ": " ++ decimalText counter.2

/-- The lines of the summary, with a remark where the driver counted nothing. -/
def statsLines (stats : ReportedStats) : List (List UInt8) :=
  (packetCounters stats.toCaptureSummary).map statLine ++
    (if stats.pcapStatsAvailable then (pcapCounters stats).map statLine
    else [ascii "Pcap driver stats: unavailable"]) ++
    (flowCounters stats.toCaptureSummary).map statLine

def statsPrint (stats : ReportedStats) : List UInt8 := linesText (statsLines stats)

/-! ### Reading -/

def readNumber (digits : List UInt8) : Option Nat :=
  if digits ≠ [] ∧ digits.all decimalDigit = true then some (decimalValue digits) else none

/-- The label of a line and the number behind it, if there is one. -/
def readStat (line : List UInt8) : List UInt8 × Option Nat :=
  let label := line.takeWhile fun byte => byte ≠ 58
  (label, readNumber (line.drop (label.length + 2)))

def readStats (text : List UInt8) : List (List UInt8 × Option Nat) :=
  (readLines text).map readStat

/-- What a summary says of a counter. -/
def printedCounter (text label : List UInt8) : Option Nat :=
  ((readStats text).lookup label).join

/-- A counter as it is read. -/
def StatCounter.reading (counter : StatCounter) : List UInt8 × Option Nat :=
  (counter.1, some counter.2)

/-- The counters that are reported, in order. -/
def reportedCounters (stats : ReportedStats) : List (List UInt8 × Option Nat) :=
  (packetCounters stats.toCaptureSummary).map StatCounter.reading ++
    (if stats.pcapStatsAvailable then (pcapCounters stats).map StatCounter.reading
    else [(ascii "Pcap driver stats", none)]) ++
    (flowCounters stats.toCaptureSummary).map StatCounter.reading

/-- A label that ends at its colon. -/
def PlainLabel (label : List UInt8) : Prop := Printable label ∧ 58 ∉ label

instance (label : List UInt8) : Decidable (PlainLabel label) := instDecidableAnd

section Reading

variable {counter : StatCounter}

theorem readNumber_decimalText (value : Nat) : readNumber (decimalText value) = some value := by
  have digits : (decimalText value).all decimalDigit = true := by
    rw [List.all_eq_true]
    exact fun byte member => decimalDigit_of_mem_decimalText member
  rw [readNumber, if_pos ⟨decimalText_ne_nil value, digits⟩, decimalValue_decimalText]

theorem readStat_statLine (plain : PlainLabel counter.1) :
    readStat (statLine counter) = counter.reading := by
  have label : (statLine counter).takeWhile (fun byte => byte ≠ 58) = counter.1 := by
    rw [statLine, List.append_assoc, List.takeWhile_append_of_pos]
    · exact List.append_nil _
    · intro byte member
      have noColon : byte ≠ 58 := ne_of_mem_of_not_mem member plain.2
      simpa using noColon
  have rest : (statLine counter).drop (counter.1.length + 2) = decimalText counter.2 := by
    have colon : (counter.1 ++ ascii ": ").length = counter.1.length + 2 := List.length_append
    rw [← colon, statLine, List.drop_left]
  rw [readStat, label, rest, readNumber_decimalText]
  rfl

theorem statLine_printable (plain : PlainLabel counter.1) : Printable (statLine counter) := by
  have digits : Printable (decimalText counter.2) := fun byte member =>
    isPrint_of_decimalDigit byte (decimalDigit_of_mem_decimalText member)
  have colon : Printable (ascii ": ") := by decide
  exact printable_append.mpr ⟨printable_append.mpr ⟨plain.1, colon⟩, digits⟩

theorem counters_plain (stats : ReportedStats) :
    (∀ counter ∈ packetCounters stats.toCaptureSummary, PlainLabel counter.1) ∧
      (∀ counter ∈ pcapCounters stats, PlainLabel counter.1) ∧
      ∀ counter ∈ flowCounters stats.toCaptureSummary, PlainLabel counter.1 := by
  have plain : ∀ {counters others : List StatCounter},
      counters.map Prod.fst = others.map Prod.fst →
      (∀ label ∈ others.map Prod.fst, PlainLabel label) →
      ∀ counter ∈ counters, PlainLabel counter.1 := by
    intro counters others same labels counter member
    exact labels counter.1 (same ▸ List.mem_map_of_mem member)
  refine ⟨?_, ?_, ?_⟩
  · exact @plain _ (packetCounters {}) rfl (by decide +kernel)
  · exact @plain _ (pcapCounters {}) rfl (by decide +kernel)
  · exact @plain _ (flowCounters {}) rfl (by decide +kernel)

/-- The summary is read back: every counter with its number, in order. -/
theorem readStats_statsPrint (stats : ReportedStats) :
    readStats (statsPrint stats) = reportedCounters stats := by
  obtain ⟨packets, driver, flows⟩ := counters_plain stats
  have readAll : ∀ {counters : List StatCounter}, (∀ counter ∈ counters, PlainLabel counter.1) →
      (counters.map statLine).map readStat = counters.map StatCounter.reading := by
    intro counters plain
    rw [List.map_map]
    exact List.map_congr_left fun counter member => readStat_statLine (plain counter member)
  have oneLine : ∀ {counters : List StatCounter}, (∀ counter ∈ counters, PlainLabel counter.1) →
      ∀ line ∈ counters.map statLine, 10 ∉ line := by
    intro counters plain line member
    obtain ⟨counter, listed, rfl⟩ := List.mem_map.mp member
    exact (statLine_printable (plain counter listed)).oneLine
  have remark : ∀ line ∈ [ascii "Pcap driver stats: unavailable"], 10 ∉ line := by
    decide +kernel
  rw [readStats, statsPrint, readLines_linesText]
  · rw [statsLines, List.map_append, List.map_append, readAll packets, readAll flows,
      reportedCounters]
    cases stats.pcapStatsAvailable with
    | true =>
        rw [if_pos rfl, if_pos rfl, readAll driver]
    | false => rfl
  · intro line member
    rw [statsLines, List.mem_append, List.mem_append] at member
    rcases member with (front | middle) | back
    · exact oneLine packets line front
    · split at middle
      · exact oneLine driver line middle
      · exact remark line middle
    · exact oneLine flows line back

/-- What the counter of a protocol is called. -/
def protocolCounterLabel : Protocol → List UInt8
  | .tcp => ascii "TCP"
  | .udp => ascii "UDP"
  | .icmp => ascii "ICMP"
  | .arp => ascii "ARP"
  | .other => ascii "Other"

theorem printedCounter_displayed (stats : ReportedStats) :
    printedCounter (statsPrint stats) (ascii "Displayed packets") =
      some stats.totalPackets.toNat := by
  rw [printedCounter, readStats_statsPrint]
  rfl

theorem printedCounter_protocol (stats : ReportedStats) (protocol : Protocol) :
    printedCounter (statsPrint stats) (protocolCounterLabel protocol) =
      some (stats.ofProtocol protocol).toNat := by
  rw [printedCounter, readStats_statsPrint]
  cases protocol <;> rfl

end Reading

end MiniSniffer
