import MiniSniffer.App.PrefixStability
import MiniSniffer.Capture.FlowRuns
import MiniSniffer.Tcp.StreamOrder

/-!
Contract: classifying a flow from the segments of one byte string.

A byte string is cut into data segments, which are fed to a fresh flow in one
direction. Owns the invariant of such a run: as long as the flow is unclassified,
its direction has rebuilt what was received and no decoder recognises it; once it
is classified, its metadata is what some rebuilt prefix decodes to. With prefix
stability, the flow ends with what the whole byte string decodes to, however it
was cut and in whatever order it came.

Does not own where the stream starts: see `Capture.Baseline`.
-/

namespace MiniSniffer

open Foundation Foundation.SerialNumber

/-- Stream decoding of one flow in one direction. -/
def streamDecoding (direction : FlowDirection) :
    Machine FlowInfo PacketInfo (Bool × AppDecodeStatus) where
  step flow packet := flowDecodeStreamApp flow direction packet

/-- The part of a byte string that a segment carries when the first byte has sequence number
`base`. -/
def segmentSpan (base : UInt32) (packet : PacketInfo) : Span where
  start := (packet.tcpSequence - base).toNat
  length := packet.payloadCaptureLength

def segmentPiece (base : UInt32) (packet : PacketInfo) : SegmentSlice where
  span := segmentSpan base packet
  flags := packet.tcpFlags

/-- A data segment of `source`: no SYN, and a FIN only with the last byte. -/
structure StreamSegment (source : List UInt8) (base : UInt32) (packet : PacketInfo) : Prop where
  tcp : packet.protocol = .tcp
  sequenced : packet.hasTcpSequence = true
  bears : bearsPayload packet = true
  inside : (segmentSpan base packet).stop ≤ source.length
  bytes : packet.payloadBytes =
    slice source (segmentSpan base packet).start (segmentSpan base packet).stop
  syn : hasFlag packet.tcpFlags tcpFlagSyn = false
  fin : hasFlag packet.tcpFlags tcpFlagFin = true →
    (segmentSpan base packet).stop = source.length

/-- The packets give the decoder the same hints. -/
def SamePorts (first packet : PacketInfo) : Prop :=
  packet.hasPorts = first.hasPorts ∧ packet.srcPort = first.srcPort ∧
    packet.dstPort = first.dstPort

/-- The caps of the pending store, or the buffer, do not refuse the segment. -/
def NotDropped (direction : FlowDirection) (flow : FlowInfo) (packet : PacketInfo) : Prop :=
  flow.appClassified = false → processedResult flow direction packet ≠ .dropped

instance (first packet : PacketInfo) : Decidable (SamePorts first packet) :=
  inferInstanceAs (Decidable (_ ∧ _))

instance (direction : FlowDirection) (flow : FlowInfo) (packet : PacketInfo) :
    Decidable (NotDropped direction flow packet) :=
  inferInstanceAs (Decidable (_ → _))

section Segments

variable {source : List UInt8} {base : UInt32} {packet first : PacketInfo}

theorem advance_sub (base sequence : UInt32) : advance base (sequence - base).toNat = sequence := by
  rw [advance, UInt32.ofNat_toNat, UInt32.add_comm, UInt32.sub_add_cancel]

theorem StreamSegment.segment_eq (segment : StreamSegment source base packet) :
    (segmentPiece base packet).segment source base =
      { sequence := packet.tcpSequence
        flags := packet.tcpFlags
        payload := packet.payloadBytes } := by
  have noSyn : ¬ hasFlag (segmentPiece base packet).flags tcpFlagSyn = true := by
    show ¬ hasFlag packet.tcpFlags tcpFlagSyn = true
    rw [segment.syn]
    decide
  rw [SegmentSlice.segment, if_neg noSyn, segment.bytes]
  show TcpSegment.mk (advance base (packet.tcpSequence - base).toNat) _ _ = _
  rw [advance_sub]
  rfl

theorem StreamSegment.admissible (segment : StreamSegment source base packet) :
    (segmentPiece base packet).Admissible source where
  inside := segment.inside
  syn := by
    intro syn
    rw [show (segmentPiece base packet).flags = packet.tcpFlags from rfl, segment.syn] at syn
    contradiction
  fin := segment.fin

theorem StreamSegment.positive (segment : StreamSegment source base packet) :
    0 < (segmentSpan base packet).length := by
  have bears := segment.bears
  rw [bearsPayload, Bool.and_eq_true, decide_eq_true_eq] at bears
  exact Nat.pos_of_ne_zero bears.2

theorem spans_inside {packets : List PacketInfo}
    (segments : ∀ packet ∈ packets, StreamSegment source base packet) :
    ∀ span ∈ packets.map (segmentSpan base), span.stop ≤ source.length := by
  rw [List.forall_mem_map]
  exact fun packet member => (segments packet member).inside

/-- The stream decoder reads nothing of a TCP packet but its ports. -/
theorem appDecodeStream_congr (tcp : packet.protocol = .tcp) (firstTcp : first.protocol = .tcp)
    (same : SamePorts first packet) (data : Option (List UInt8)) :
    appDecodeStream packet data = appDecodeStream first data := by
  have hint : ∀ port, portMatches packet port = portMatches first port := by
    intro port
    rw [portMatches, portMatches, same.1, same.2.1, same.2.2]
  unfold appDecodeStream hintsHttp hintsTls hintsDnsTcp
  simp only [tcp, firstTcp, hint]

end Segments

/-! ### The invariant -/

/-- The direction has rebuilt what was received, and no decoder recognises it yet. -/
structure Undecided (source : List UInt8) (base : UInt32) (first : PacketInfo) (start : Nat)
    (received : List Span) (capacity : Nat) (direction : FlowDirection) (flow : FlowInfo) :
    Prop where
  unclassified : flow.appClassified = false
  sized : flow.streamBufferBytes = capacity
  allocated : (flow.tcp direction).stream.data ≠ none
  rebuilds : Rebuilds source base start received capacity (flow.tcp direction)
  unrecognised :
    ¬ Recognised (appDecodeStream first (streamBufferData (flow.tcp direction).stream))

/-- The flow has the metadata of some prefix of the stream. -/
structure Decided (source : List UInt8) (first : PacketInfo) (start : Nat) (flow : FlowInfo) :
    Prop where
  classified : flow.appClassified = true
  fromPrefix : ∃ stop, Recognised (appDecodeStream first (some (slice source start stop))) ∧
    flow.app = (appDecodeStream first (some (slice source start stop))).2

/-- A flow whose direction has been fed nothing. -/
structure Unfed (capacity : Nat) (direction : FlowDirection) (flow : FlowInfo) : Prop where
  unclassified : flow.appClassified = false
  sized : flow.streamBufferBytes = capacity
  unallocated : (flow.tcp direction).stream.data = none

section Invariant

variable {source : List UInt8} {base : UInt32} {first packet : PacketInfo} {start capacity : Nat}
variable {received : List Span} {direction : FlowDirection} {flow : FlowInfo}

theorem next_eq_feedStream (segment : StreamSegment source base packet)
    (unclassified : flow.appClassified = false) :
    (streamDecoding direction).next flow packet = (feedStream flow direction packet).1 := by
  show (flowDecodeStreamApp flow direction packet).1 = _
  rw [flowDecodeStreamApp, if_neg (by simp [segment.tcp, segment.sequenced]),
    if_neg (by simp [unclassified, segment.bears])]

theorem processed_eq_next (segment : StreamSegment source base packet) :
    processedTcp flow direction packet =
        tcpReassembly.next (preparedTcp flow direction)
          ((segmentPiece base packet).segment source base) ∧
      processedResult flow direction packet =
        tcpReassembly.output (preparedTcp flow direction)
          ((segmentPiece base packet).segment source base) := by
  rw [segment.segment_eq]
  exact ⟨rfl, rfl⟩

/-- Feeding a segment keeps the invariant when reassembly does. -/
theorem fed_step (segment : StreamSegment source base packet) (firstTcp : first.protocol = .tcp)
    (same : SamePorts first packet) (unclassified : flow.appClassified = false)
    (sized : flow.streamBufferBytes = capacity) (positive : 0 < capacity)
    (kept : processedResult flow direction packet ≠ .dropped)
    (rebuilds : Rebuilds source base start received capacity
      (processedTcp flow direction packet)) :
    Undecided source base first start received capacity direction
        ((streamDecoding direction).next flow packet) ∨
      Decided source first start ((streamDecoding direction).next flow packet) := by
  rw [next_eq_feedStream segment unclassified]
  rcases feedStream_spec flow direction packet (by rw [sized]; exact positive) with
    ⟨fed, tcpEq, -, bytes, stillUnclassified, outcome⟩
  have fedTcp : fed.tcp direction = processedTcp flow direction packet := by
    rw [tcpEq, if_pos rfl]
  have decodedEq : streamDecoded flow direction packet =
      appDecodeStream first (streamBufferData (processedTcp flow direction packet).stream) :=
    appDecodeStream_congr segment.tcp firstTcp same _
  rw [outcome, decodedEq]
  by_cases recognised : Recognised
      (appDecodeStream first (streamBufferData (processedTcp flow direction packet).stream))
  · right
    rw [if_pos ⟨kept, recognised⟩]
    refine ⟨rfl, ?_⟩
    rcases rebuilds.tracked with ⟨position, reach, tracks, -⟩
    refine ⟨position, ?_⟩
    rw [StreamBuffer.streamBufferData_eq, tracks.readable_eq] at recognised ⊢
    split_ifs at recognised ⊢ with nothing
    · have refused : (appDecodeStream first none).1 = .noMatch := rfl
      rw [recognised.1] at refused
      contradiction
    · exact ⟨recognised, rfl⟩
  · left
    rw [if_neg fun both => recognised both.2]
    exact
      { unclassified := stillUnclassified.trans unclassified
        sized := bytes.trans sized
        allocated := by
          rw [fedTcp]
          exact processedTcp_allocated flow direction packet
        rebuilds := by
          rw [fedTcp]
          exact rebuilds
        unrecognised := by
          rw [fedTcp]
          exact recognised }

/-- The first segment that an unfed direction gets fixes where the stream starts. -/
theorem Unfed.next (unfed : Unfed capacity direction flow) (small : source.length + 1 < window)
    (room : source.length ≤ capacity) (segment : StreamSegment source base packet)
    (positive : 0 < capacity) (kept : NotDropped direction flow packet) :
    Undecided source base packet (segmentSpan base packet).start [segmentSpan base packet] capacity
        direction ((streamDecoding direction).next flow packet) ∨
      Decided source packet (segmentSpan base packet).start
        ((streamDecoding direction).next flow packet) := by
  have accepted := kept unfed.unclassified
  have fresh : Fresh capacity (preparedTcp flow direction) := by
    have nothing : ¬ (flow.tcp direction).stream.data ≠ none := not_not.mpr unfed.unallocated
    rw [preparedTcp, if_neg nothing, unfed.sized]
    apply tcpReassemblyDirectionInit_fresh
    exact tcpReassemblyDirectionInit_eq positive
  have feeds := @processed_eq_next source base packet direction flow segment
  apply fed_step segment segment.tcp ⟨rfl, rfl, rfl⟩ unfed.unclassified unfed.sized positive
    accepted
  rw [feeds.2] at accepted
  rw [feeds.1]
  exact tcpReassembly_first small fresh room segment.admissible accepted

/-- A later segment. -/
theorem Undecided.next
    (undecided : Undecided source base first start received capacity direction flow)
    (small : source.length + 1 < window) (room : source.length ≤ capacity)
    (segment : StreamSegment source base packet) (firstTcp : first.protocol = .tcp)
    (same : SamePorts first packet) (positive : 0 < capacity)
    (kept : NotDropped direction flow packet) :
    Undecided source base first start (received ++ [segmentSpan base packet]) capacity direction
        ((streamDecoding direction).next flow packet) ∨
      Decided source first start ((streamDecoding direction).next flow packet) := by
  have accepted := kept undecided.unclassified
  have feeds := @processed_eq_next source base packet direction flow segment
  apply fed_step segment firstTcp same undecided.unclassified undecided.sized positive accepted
  rw [feeds.2] at accepted
  rw [feeds.1]
  rw [preparedTcp, if_pos undecided.allocated] at accepted ⊢
  exact tcpReassembly_next small undecided.rebuilds room segment.admissible accepted

/-- A classified flow keeps its metadata. -/
theorem Decided.next (decided : Decided source first start flow) (packet : PacketInfo) :
    Decided source first start ((streamDecoding direction).next flow packet) := by
  have unchanged :
      ((streamDecoding direction).next flow packet).appClassified = flow.appClassified ∧
        ((streamDecoding direction).next flow packet).app = flow.app := by
    show (flowDecodeStreamApp flow direction packet).1.appClassified = _ ∧
      (flowDecodeStreamApp flow direction packet).1.app = _
    unfold flowDecodeStreamApp
    rw [decided.classified, Bool.true_or, if_pos rfl]
    split_ifs
    · exact ⟨decided.classified, rfl⟩
    · refine ⟨by rw [setTcp_appClassified]; exact decided.classified, ?_⟩
      cases direction <;> rfl
  constructor
  · rw [unchanged.1]
    exact decided.classified
  · rw [unchanged.2]
    exact decided.fromPrefix

/-- The invariant along a run. -/
theorem segments_run (small : source.length + 1 < window) (room : source.length ≤ capacity)
    (positive : 0 < capacity) (firstTcp : first.protocol = .tcp) {packets : List PacketInfo}
    (segments : ∀ packet ∈ packets, StreamSegment source base packet)
    (same : ∀ packet ∈ packets, SamePorts first packet)
    (kept : (streamDecoding direction).AllSteps (NotDropped direction) flow packets)
    (follows : Undecided source base first start received capacity direction flow ∨
      Decided source first start flow) :
    Undecided source base first start (received ++ packets.map (segmentSpan base)) capacity
        direction ((streamDecoding direction).run flow packets) ∨
      Decided source first start ((streamDecoding direction).run flow packets) := by
  induction packets generalizing flow received with
  | nil =>
      rw [List.map_nil, List.append_nil]
      exact follows
  | cons packet packets inductionHypothesis =>
      rw [List.map_cons, List.append_cons]
      apply inductionHypothesis
      · intro other member
        exact segments other (List.mem_cons_of_mem _ member)
      · intro other member
        exact same other (List.mem_cons_of_mem _ member)
      · exact kept.2
      · rcases follows with undecided | decided
        · exact undecided.next small room (segments packet List.mem_cons_self) firstTcp
            (same packet List.mem_cons_self) positive kept.1
        · exact Or.inr (decided.next packet)

/-- The whole run from an unfed direction. -/
theorem stream_run (unfed : Unfed capacity direction flow) (small : source.length + 1 < window)
    (room : source.length ≤ capacity) (positive : 0 < capacity) {later : List PacketInfo}
    (segments : ∀ packet ∈ first :: later, StreamSegment source base packet)
    (same : ∀ packet ∈ later, SamePorts first packet)
    (kept : (streamDecoding direction).AllSteps (NotDropped direction) flow (first :: later)) :
    Undecided source base first (segmentSpan base first).start
        ((first :: later).map (segmentSpan base)) capacity direction
        ((streamDecoding direction).run flow (first :: later)) ∨
      Decided source first (segmentSpan base first).start
        ((streamDecoding direction).run flow (first :: later)) := by
  have head := unfed.next small room (segments first List.mem_cons_self) positive kept.1
  have tail : ∀ packet ∈ later, StreamSegment source base packet := by
    intro packet member
    exact segments packet (List.mem_cons_of_mem _ member)
  exact segments_run small room positive (segments first List.mem_cons_self).tcp tail same kept.2
    head

/-- The contiguous stream of an unclassified run, when the segments cover the byte string from its
first segment on. -/
theorem Undecided.readable_eq
    (undecided : Undecided source base first start received capacity direction flow)
    (begins : start ≤ source.length) (covers : CoversRange received start source.length)
    (inside : ∀ span ∈ received, span.stop ≤ source.length) :
    (flow.tcp direction).stream.readable = slice source start source.length := by
  rcases undecided.rebuilds.tracked with ⟨position, reach, tracks, settled⟩
  have stop : position = source.length :=
    (tracks.coverageEnd settled).eq_of_covers begins covers inside
  rw [tracks.readable_eq, stop]

end Invariant

section Classification

variable {source : List UInt8} {base : UInt32} {first : PacketInfo} {later : List PacketInfo}
variable {capacity : Nat} {direction : FlowDirection} {key : FlowKey} {now : Nat}

theorem freshFlow_unfed (capacity : Nat) (key : FlowKey) (now : Nat) (direction : FlowDirection) :
    Unfed capacity direction (freshFlow capacity key now) := by
  refine ⟨rfl, rfl, ?_⟩
  cases direction <;> rfl

/-- What the whole byte string decodes to decides what the flow is classified as, however the
string is cut into segments and in whatever order those behind its first byte arrive. -/
theorem segmentation_decides_classification
    (capacityCap : capacity ≤ minisnifferMaxStreamBufferBytes) (room : source.length ≤ capacity)
    (segments : ∀ packet ∈ first :: later, StreamSegment source base packet)
    (same : ∀ packet ∈ later, SamePorts first packet)
    (starts : (segmentSpan base first).start = 0)
    (covers : CoversRange ((first :: later).map (segmentSpan base)) 0 source.length)
    (kept : (streamDecoding direction).AllSteps (NotDropped direction) (freshFlow capacity key now)
      (first :: later)) :
    (((streamDecoding direction).run (freshFlow capacity key now)
        (first :: later)).appClassified = true ↔
      Recognised (appDecodeStream first (some source))) ∧
    (((streamDecoding direction).run (freshFlow capacity key now)
        (first :: later)).appClassified = true →
      ((streamDecoding direction).run (freshFlow capacity key now) (first :: later)).app =
        (appDecodeStream first (some source)).2) := by
  rw [minisnifferMaxStreamBufferBytes] at capacityCap
  have small : source.length + 1 < window := by
    unfold window
    omega
  have inside := spans_inside segments
  have firstSegment := segments first List.mem_cons_self
  have someBytes : 0 < source.length := by
    have positive := firstSegment.positive
    have firstInside := firstSegment.inside
    rw [Span.stop] at firstInside
    omega
  have run := stream_run (freshFlow_unfed capacity key now direction) small room (by omega) segments
    same kept
  rw [starts] at run
  generalize (streamDecoding direction).run (freshFlow capacity key now) (first :: later) = final
    at run ⊢
  rcases run with undecided | decided
  · -- the whole stream was there after the last segment, and was not recognised
    have readable := undecided.readable_eq (Nat.zero_le _) covers inside
    have unrecognised := undecided.unrecognised
    rw [StreamBuffer.streamBufferData_eq, readable, slice_zero_length,
      if_neg (List.length_pos_iff.mp someBytes)] at unrecognised
    rw [undecided.unclassified]
    refine ⟨iff_of_false (by decide) unrecognised, ?_⟩
    intro impossible
    contradiction
  · rcases decided.fromPrefix with ⟨stop, recognised, app⟩
    have whole : slice source 0 stop ++ source.drop stop = source := by
      rw [slice, List.drop_zero, Nat.sub_zero, List.take_append_drop]
    have stable := appDecodeStream_append first (source.drop stop) recognised.1
    rw [whole] at stable
    rw [stable]
    refine ⟨iff_of_true decided.classified recognised, ?_⟩
    intro _
    exact app

end Classification

/-! ### A request in three segments -/

/-- A data segment to port 80. -/
def httpSegment (sequence : UInt32) (bytes : List UInt8) : PacketInfo where
  srcIp := .ipv4 [10, 0, 0, 1]
  dstIp := .ipv4 [10, 0, 0, 2]
  srcPort := 40000
  dstPort := 80
  protocol := .tcp
  ipVersion := 4
  hasPorts := true
  hasTcpSequence := true
  tcpSequence := sequence
  hasPayload := true
  payload := some { offset := 54, bytes := bytes }
  payloadDecodeLength := bytes.length

def httpRequest : List UInt8 := ascii "GET /a HTTP/1.1\r\n\r\n"

/-- The request's bytes `start ≤ position < stop`, numbered from shortly before `2^32` on. -/
def requestSegment (start stop : Nat) : PacketInfo :=
  httpSegment (advance 0xfffffffc start) (slice httpRequest start stop)

def requestFlow : FlowInfo :=
  freshFlow 64 ⟨⟨2, [10, 0, 0, 1]⟩, 40000, ⟨2, [10, 0, 0, 2]⟩, 80, 6⟩ 0

theorem requestSegments :
    ∀ packet ∈ [requestSegment 0 4, requestSegment 10 19, requestSegment 4 10],
      StreamSegment httpRequest 0xfffffffc packet := by
  intro packet member
  simp only [List.mem_cons, List.not_mem_nil, or_false] at member
  rcases member with rfl | rfl | rfl <;> constructor <;> decide +kernel

/-- The end of the request comes before its middle. -/
theorem segmentation_decides_classification_reordered :
    (((streamDecoding .aToB).run requestFlow
        [requestSegment 0 4, requestSegment 10 19, requestSegment 4 10]).appClassified = true ↔
      Recognised (appDecodeStream (requestSegment 0 4) (some httpRequest))) ∧
    (((streamDecoding .aToB).run requestFlow
        [requestSegment 0 4, requestSegment 10 19, requestSegment 4 10]).appClassified = true →
      ((streamDecoding .aToB).run requestFlow
        [requestSegment 0 4, requestSegment 10 19, requestSegment 4 10]).app =
        (appDecodeStream (requestSegment 0 4) (some httpRequest)).2) := by
  have spans : [requestSegment 0 4, requestSegment 10 19, requestSegment 4 10].map
      (segmentSpan 0xfffffffc) = [⟨0, 4⟩, ⟨10, 9⟩, ⟨4, 6⟩] := by decide +kernel
  have length : httpRequest.length = 19 := by decide +kernel
  apply segmentation_decides_classification (by decide) (by decide +kernel) requestSegments
    (by decide +kernel) (by decide +kernel)
  · rw [spans, length]
    intro position _ below
    simp only [covered_cons, not_covered_nil, or_false, Span.stop]
    omega
  · decide +kernel

end MiniSniffer
