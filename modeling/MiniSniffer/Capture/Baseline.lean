import MiniSniffer.Capture.Segmentation

/-!
Contract: where the stream of a captured connection starts.

A direction's SYN is captured, and then its data segments in some order. Owns the
exact condition under which the rebuilt stream is the whole byte string: the first
data segment to arrive carries its first byte. The SYN bears no payload, so the
capture path only tracks its flags; the baseline is learnt from the first data
segment, and what precedes it counts as already received.

Does not own directions whose SYN carries data.
-/

namespace MiniSniffer

open Foundation Foundation.SerialNumber

/-- A SYN without payload; the stream's first byte comes one sequence number later. -/
structure BareSyn (base : UInt32) (packet : PacketInfo) : Prop where
  tcp : packet.protocol = .tcp
  sequenced : packet.hasTcpSequence = true
  syn : hasFlag packet.tcpFlags tcpFlagSyn = true
  sequence : packet.tcpSequence + 1 = base
  silent : bearsPayload packet = false

section Baseline

variable {source : List UInt8} {base : UInt32} {syn first : PacketInfo} {later : List PacketInfo}
variable {capacity : Nat} {direction : FlowDirection} {flow : FlowInfo} {key : FlowKey} {now : Nat}

/-- A segment without payload leaves the direction unfed, whatever its sequence number. -/
theorem Unfed.next_silent (unfed : Unfed capacity direction flow) (bare : BareSyn base syn) :
    Unfed capacity direction ((streamDecoding direction).next flow syn) := by
  have tracked : (streamDecoding direction).next flow syn =
      flow.setTcp direction (tcpReassemblyTrackFlags (flow.tcp direction) syn.tcpFlags) := by
    show (flowDecodeStreamApp flow direction syn).1 = _
    rw [flowDecodeStreamApp, if_neg (by simp [bare.tcp, bare.sequenced]),
      if_pos (by simp [bare.silent])]
  rw [tracked]
  refine ⟨?_, ?_, ?_⟩
  · rw [setTcp_appClassified]
    exact unfed.unclassified
  · rw [setTcp_streamBufferBytes]
    exact unfed.sized
  · rw [tcp_setTcp, if_pos rfl]
    exact unfed.unallocated

/-- The stream behind a captured SYN is the whole byte string if and only if the first data segment
to arrive carries its first byte. -/
theorem readable_eq_source_iff (capacityCap : capacity ≤ minisnifferMaxStreamBufferBytes)
    (room : source.length ≤ capacity) (bare : BareSyn base syn)
    (segments : ∀ packet ∈ first :: later, StreamSegment source base packet)
    (same : ∀ packet ∈ later, SamePorts first packet)
    (covers : CoversRange ((first :: later).map (segmentSpan base)) 0 source.length)
    (kept : (streamDecoding direction).AllSteps (NotDropped direction)
      ((streamDecoding direction).next (freshFlow capacity key now) syn) (first :: later))
    (unclassified : ((streamDecoding direction).run (freshFlow capacity key now)
      (syn :: first :: later)).appClassified = false) :
    (((streamDecoding direction).run (freshFlow capacity key now)
        (syn :: first :: later)).tcp direction).stream.readable = source ↔
      (segmentSpan base first).start = 0 := by
  rw [minisnifferMaxStreamBufferBytes] at capacityCap
  have small : source.length + 1 < window := by
    unfold window
    omega
  have firstSegment := segments first List.mem_cons_self
  have positive := firstSegment.positive
  have begins := firstSegment.inside
  rw [Span.stop] at begins
  have inside := spans_inside segments
  have unfed := (freshFlow_unfed capacity key now direction).next_silent bare
  rw [Machine.run_cons] at unclassified ⊢
  rcases stream_run unfed small room (by omega) segments same kept with undecided | decided
  · have fromFirst : CoversRange ((first :: later).map (segmentSpan base))
        (segmentSpan base first).start source.length := by
      intro position _ below
      exact covers position (Nat.zero_le _) below
    rw [undecided.readable_eq (by omega) fromFirst inside,
      slice_eq_self_iff (Nat.le_refl _) (List.length_pos_iff.mp (by omega))]
    exact and_iff_left rfl
  · rw [decided.classified] at unclassified
    contradiction

end Baseline

/-! ### A request behind its SYN -/

/-- The SYN in front of the request's segments. -/
def requestSyn : PacketInfo :=
  { httpSegment 0xfffffffb [] with tcpFlags := tcpFlagSyn, hasPayload := false, payload := none }

theorem requestSyn_bare : BareSyn 0xfffffffc requestSyn := by
  constructor <;> decide

/-- The front of a request that is not recognised yet. -/
def requestFront : List UInt8 := httpRequest.take 9

/-- Only the segments behind the first byte come out of order. -/
theorem readable_eq_source_iff_inOrder :
    (((streamDecoding .aToB).run requestFlow [requestSyn, requestSegment 0 3, requestSegment 6 9,
        requestSegment 3 6]).tcp .aToB).stream.readable = requestFront ↔
      (segmentSpan 0xfffffffc (requestSegment 0 3)).start = 0 := by
  have segments : ∀ packet ∈ [requestSegment 0 3, requestSegment 6 9, requestSegment 3 6],
      StreamSegment requestFront 0xfffffffc packet := by
    intro packet member
    simp only [List.mem_cons, List.not_mem_nil, or_false] at member
    rcases member with rfl | rfl | rfl <;> constructor <;> decide +kernel
  have spans : [requestSegment 0 3, requestSegment 6 9, requestSegment 3 6].map
      (segmentSpan 0xfffffffc) = [⟨0, 3⟩, ⟨6, 3⟩, ⟨3, 3⟩] := by decide +kernel
  have length : requestFront.length = 9 := by decide +kernel
  apply readable_eq_source_iff (by decide) (by decide +kernel) requestSyn_bare segments
    (by decide +kernel)
  · rw [spans, length]
    intro position _ below
    simp only [covered_cons, not_covered_nil, or_false, Span.stop]
    omega
  · decide +kernel
  · decide +kernel

/-- The second data segment arrives first: the first one counts as a retransmission. -/
theorem reordered_start_is_lost :
    ¬ ∀ (source : List UInt8) (base : UInt32) (syn first : PacketInfo) (later : List PacketInfo)
      (capacity : Nat) (direction : FlowDirection) (key : FlowKey) (now : Nat),
      capacity ≤ minisnifferMaxStreamBufferBytes → source.length ≤ capacity → BareSyn base syn →
      (∀ packet ∈ first :: later, StreamSegment source base packet) →
      (∀ packet ∈ later, SamePorts first packet) →
      CoversRange ((first :: later).map (segmentSpan base)) 0 source.length →
      (streamDecoding direction).AllSteps (NotDropped direction)
        ((streamDecoding direction).next (freshFlow capacity key now) syn) (first :: later) →
      ((streamDecoding direction).run (freshFlow capacity key now)
        (syn :: first :: later)).appClassified = false →
      (((streamDecoding direction).run (freshFlow capacity key now)
        (syn :: first :: later)).tcp direction).stream.readable = source := by
  intro always
  have segments : ∀ packet ∈ [requestSegment 3 9, requestSegment 0 3],
      StreamSegment requestFront 0xfffffffc packet := by
    intro packet member
    simp only [List.mem_cons, List.not_mem_nil, or_false] at member
    rcases member with rfl | rfl <;> constructor <;> decide +kernel
  have spans : [requestSegment 3 9, requestSegment 0 3].map (segmentSpan 0xfffffffc) =
      [⟨3, 6⟩, ⟨0, 3⟩] := by decide +kernel
  have length : requestFront.length = 9 := by decide +kernel
  have covers : CoversRange ([requestSegment 3 9, requestSegment 0 3].map
      (segmentSpan 0xfffffffc)) 0 requestFront.length := by
    rw [spans, length]
    intro position _ below
    simp only [covered_cons, not_covered_nil, or_false, Span.stop]
    omega
  have whole := always requestFront 0xfffffffc requestSyn (requestSegment 3 9) [requestSegment 0 3]
    64 .aToB requestFlow.key 0 (by decide) (by decide +kernel) requestSyn_bare segments
    (by decide +kernel) covers (by decide +kernel) (by decide +kernel)
  exact absurd whole (by decide +kernel)

end MiniSniffer
