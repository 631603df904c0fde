import MiniSniffer.Fragment.Consistency
import MiniSniffer.Parser.CapturedFrame

/-!
Contract: datagrams reassembled from truncated captures.

The frames of a fragmented datagram are captured up to any byte each, parsed, and
fed to the fragment table in any order, with anything of other keys in between.
Owns the exact condition under which a reassembled packet carries the datagram's
payload: the frame of the final fragment was captured to the end of its IPv4
packet. A frame cut short elsewhere leaves a gap, or is refused as malformed, but
the final one declares the end of the datagram where its capture ends.

Does not own what the parser makes of a captured prefix: see
`Parser.CapturedFrame`.
-/

namespace MiniSniffer

open Foundation

/-- The frames cut the payload from a position on, in order, each but the last announcing more. -/
def CutsFrames (payload : List UInt8) : Nat → List CapturedFrame → Prop
  | start, [] => start = payload.length
  | start, frame :: rest =>
      frame.fragmentOffset = start ∧
        frame.piece = slice payload start (start + frame.piece.length) ∧
        frame.moreFragments = (rest ≠ [] : Bool) ∧
        CutsFrames payload (start + frame.piece.length) rest

/-- The payload of an IPv4 packet: what follows the header, by the header's own length. -/
def ipv4Payload (packet : List UInt8) : List UInt8 :=
  packet.drop ((byteAt packet 0 &&& 0x0f).toNat * 4)

/-- Each fragment of the key that arrives is what was captured of one of the frames. -/
def ArriveFrom (key : IPv4FragmentKey) (payloadDecodeLimit : Nat) (datalinkType : Datalink)
    (frames : List CapturedFrame) (events : List FragmentEvent) : Prop :=
  ∀ event ∈ events, OwnFragment key event →
    ∃ frame ∈ frames, event.fragment = frame.parsed payloadDecodeLimit datalinkType

section Frames

variable {payload : List UInt8} {front frames : List CapturedFrame} {final frame : CapturedFrame}
variable {start : Nat}

theorem CutsFrames.each (cuts : CutsFrames payload start frames) :
    start ≤ payload.length ∧
      ∀ frame ∈ frames,
        frame.fragmentOffset + frame.piece.length ≤ payload.length ∧
          frame.piece =
            slice payload frame.fragmentOffset (frame.fragmentOffset + frame.piece.length) := by
  induction frames generalizing start with
  | nil => exact ⟨Nat.le_of_eq cuts, by simp⟩
  | cons first rest inductionHypothesis =>
      obtain ⟨offset, piece, -, restCuts⟩ := cuts
      obtain ⟨inside, later⟩ := inductionHypothesis restCuts
      refine ⟨by omega, ?_⟩
      intro frame member
      rcases List.mem_cons.mp member with same | inRest
      · rw [same, offset]
        exact ⟨inside, piece⟩
      · exact later frame inRest

/-- Only the final frame announces no more, and it ends the payload. -/
theorem CutsFrames.final_of_end (cuts : CutsFrames payload start (front ++ [final])) :
    final.fragmentOffset + final.piece.length = payload.length ∧
      ∀ frame ∈ front ++ [final], frame.moreFragments = false → frame = final := by
  induction front generalizing start with
  | nil =>
      obtain ⟨offset, -, -, ends⟩ := cuts
      refine ⟨by rw [offset]; exact ends, ?_⟩
      intro frame member _
      exact List.mem_singleton.mp member
  | cons first rest inductionHypothesis =>
      obtain ⟨-, -, more, restCuts⟩ := cuts
      obtain ⟨ends, only⟩ := inductionHypothesis restCuts
      refine ⟨ends, ?_⟩
      intro frame member announced
      rcases List.mem_cons.mp member with same | inRest
      · rw [same, more] at announced
        simp at announced
      · exact only frame inRest announced

end Frames

section Capture

variable {payload packet : List UInt8} {front frames : List CapturedFrame} {final : CapturedFrame}
variable {state : FragmentState} {key : IPv4FragmentKey} {log : List PacketInfo}
variable {past : List FragmentEvent} {event : FragmentEvent} {payloadDecodeLimit : Nat}
variable {datalinkType : Datalink} {datagram : IPv4FragmentDatagram}

/-- What an event's result is about was in the log, or is the event's own fragment. -/
theorem mem_collecting_output {tracked : FragmentState × List PacketInfo} {fragment : PacketInfo}
    (member : fragment ∈ ((collecting key).output tracked event).2) :
    fragment ∈ tracked.2 ∨ OwnFragment key event ∧ event.fragment = fragment := by
  have kept : ∀ fragment ∈ logAfterExpiry key tracked.1 tracked.2 event,
      fragment ∈ tracked.2 := by
    intro fragment member
    unfold logAfterExpiry at member
    split_ifs at member
    · exact member
    · simp at member
  change fragment ∈ if OwnFragment key event then _ else _ at member
  split_ifs at member with own
  · rcases List.mem_append.mp member with old | new
    · exact Or.inl (kept fragment old)
    · exact Or.inr ⟨own, (List.mem_singleton.mp new).symm⟩
  · exact Or.inl (kept fragment member)

/-- The log holds fragments of the key that arrived. -/
theorem mem_collecting_run {tracked : FragmentState × List PacketInfo} {fragment : PacketInfo}
    (member : fragment ∈ ((collecting key).run tracked past).2) :
    fragment ∈ tracked.2 ∨ ∃ event ∈ past, OwnFragment key event ∧ event.fragment = fragment := by
  induction past generalizing tracked with
  | nil => exact Or.inl member
  | cons event past inductionHypothesis =>
      rcases inductionHypothesis member with stepped | ⟨later, laterMember, own, same⟩
      · have inOutput : fragment ∈ ((collecting key).output tracked event).2 := by
          change fragment ∈ if _ then ((collecting key).output tracked event).2 else [] at stepped
          split_ifs at stepped
          · exact stepped
          · simp at stepped
        rcases mem_collecting_output inOutput with old | new
        · exact Or.inl old
        · exact Or.inr ⟨event, List.mem_cons_self, new⟩
      · exact Or.inr ⟨later, List.mem_cons_of_mem _ laterMember, own, same⟩

/-- The part of the payload that a captured fragment stores. -/
theorem CapturedFrame.parsed_range {frame : CapturedFrame}
    (carries : frame.CarriesIpv4 datalinkType)
    (isFragment : (frame.parsed payloadDecodeLimit datalinkType).isIpv4Fragment = true) :
    fragmentRange (frame.parsed payloadDecodeLimit datalinkType) =
      { start := frame.fragmentOffset
        stop := frame.fragmentOffset +
          min (frame.captured - frame.link.length - frame.header.length) frame.piece.length } := by
  obtain ⟨-, -, offset, -, -, bytes⟩ := frame.parsed_fragment carries isFragment
  rw [fragmentRange, offset, ← length_fragmentBytes, bytes, List.length_take]

/-- The captured fragments of a complete datagram hold the payload up to where the capture of the
final one ends. -/
theorem Collects.captured_payload (collects : Collects log datagram)
    (complete : coverageIsComplete datagram = true)
    (carries : ∀ frame ∈ front ++ [final], frame.CarriesIpv4 datalinkType)
    (cuts : CutsFrames payload 0 (front ++ [final]))
    (arrived : ∀ fragment ∈ log, ∃ frame ∈ front ++ [final],
      fragment = frame.parsed payloadDecodeLimit datalinkType) :
    final.link.length + final.header.length ≤ final.captured ∧
      datagram.totalPayloadLength = final.fragmentOffset +
        min (final.captured - final.link.length - final.header.length) final.piece.length ∧
      datagram.data.take datagram.totalPayloadLength =
        payload.take datagram.totalPayloadLength := by
  obtain ⟨ends, -, covers, last, lastMember, reaches⟩ := collects.complete_iff.mp complete
  obtain ⟨finalEnds, only⟩ := cuts.final_of_end
  have each := cuts.each.2
  -- the end is declared by what was captured of the final frame
  have someEnd : log.filter endsDatagram ≠ [] := by
    obtain ⟨declares, member, isEnd⟩ := List.any_eq_true.mp ends
    exact List.ne_nil_of_mem (List.mem_filter.mpr ⟨member, isEnd⟩)
  have declared := collects.total _ (List.getLast?_eq_some_getLast someEnd)
  obtain ⟨endMember, isEnd⟩ := List.mem_filter.mp (List.getLast_mem someEnd)
  generalize (log.filter endsDatagram).getLast someEnd = ending at declared endMember isEnd
  have endFragment := (collects.acceptable ending endMember).1
  obtain ⟨frame, frameMember, rfl⟩ := arrived ending endMember
  have frameCarries := carries frame frameMember
  obtain ⟨long, -, -, more, -, -⟩ := frame.parsed_fragment frameCarries endFragment
  have isFinal : frame = final := by
    apply only frame frameMember
    rw [endsDatagram, more] at isEnd
    simpa using isEnd
  subst isFinal
  rw [CapturedFrame.parsed_range frameCarries endFragment] at declared
  refine ⟨long, declared, ?_⟩
  have within : datagram.totalPayloadLength ≤ payload.length := by
    rw [declared, ← finalEnds]
    exact Nat.add_le_add_left (Nat.min_le_right _ _) _
  have stored : (datagram.data.take datagram.totalPayloadLength).length =
      datagram.totalPayloadLength := by
    have inside := collects.inside last lastMember
    rw [List.length_take]
    omega
  refine @eq_of_slices UInt8 _ _ ?_ (log.map fragmentRange) ?_ ?_
  · rw [stored, List.length_take]
    omega
  · intro position below
    rw [stored] at below
    obtain ⟨fragment, member, held⟩ := covers position below
    exact ⟨fragmentRange fragment, List.mem_map_of_mem member, held⟩
  · intro range rangeMember
    obtain ⟨fragment, member, rfl⟩ := List.mem_map.mp rangeMember
    have bytes := collects.stored fragment member
    have isFragment := (collects.acceptable fragment member).1
    obtain ⟨other, otherMember, rfl⟩ := arrived fragment member
    have otherCarries := carries other otherMember
    rw [slice_of_take, slice_of_take, bytes,
      (other.parsed_fragment otherCarries isFragment).2.2.2.2.2,
      CapturedFrame.parsed_range otherCarries isFragment]
    congr 1
    show _ = slice payload other.fragmentOffset (other.fragmentOffset + _)
    rw [(each other otherMember).2, slice, slice, List.take_take, List.length_take,
      List.length_drop, Nat.add_sub_cancel_left, Nat.add_sub_cancel_left,
      List.take_eq_take_iff, List.length_drop]
    have inside := (each other otherMember).1
    omega

/-- The rebuilt header gives the length of the first fragment's header, which all frames carry. -/
theorem Collects.ipv4Payload_eq (collects : Collects log datagram)
    (complete : coverageIsComplete datagram = true) (built : buildPacket datagram = some packet)
    (carries : ∀ frame ∈ frames, frame.CarriesIpv4 datalinkType)
    (arrived : ∀ fragment ∈ log, ∃ frame ∈ frames,
      fragment = frame.parsed payloadDecodeLimit datalinkType) :
    ipv4Payload packet = datagram.data.take datagram.totalPayloadLength := by
  obtain ⟨first, member, starts, -, packetEq, -⟩ := collects.rebuilt complete built
  have sized := (collects.acceptable first member).header_bounds.1
  rw [PacketInfo.ipv4HeaderLength] at sized
  have isFragment := (collects.acceptable first member).1
  obtain ⟨frame, frameMember, rfl⟩ := arrived first member
  have frameCarries := carries frame frameMember
  obtain ⟨-, header, -⟩ := frame.parsed_fragment frameCarries isFragment
  rw [header] at packetEq sized
  have firstByte : byteAt packet 0 = byteAt frame.header 0 := by
    rw [packetEq, byteAt_append_left _ (by rw [length_rebuiltHeader]; omega),
      byteAt_rebuiltHeader (by decide)]
  rw [ipv4Payload, firstByte, frameCarries.headerLength, packetEq, List.drop_left']
  exact length_rebuiltHeader _ _

/-- A datagram reassembled from captured frames has the payload that was sent if and only if the
final fragment's frame was captured to the end of its IPv4 packet. -/
theorem reassembled_payload_iff_whole (captured : FragmentCaptured state)
    (absent : datagramOf state.1 key = none)
    (carries : ∀ frame ∈ front ++ [final], frame.CarriesIpv4 datalinkType)
    (cuts : CutsFrames payload 0 (front ++ [final]))
    (arrive : ArriveFrom key payloadDecodeLimit datalinkType (front ++ [final]) (past ++ [event]))
    (own : OwnFragment key event)
    (reassembled : fragmentReassembly.output (fragmentReassembly.run state past) event =
      .reassembled packet) :
    ipv4Payload packet = payload ↔ final.Whole := by
  have nothing : LogMatches (datagramOf state.1 key) [] := by
    rw [absent]
    rfl
  obtain ⟨datagram, collects, complete, built⟩ :=
    collects_of_reassembled captured.wellformed nothing own reassembled
  have arrived : ∀ fragment ∈ ((collecting key).output ((collecting key).run (state, []) past)
      event).2, ∃ frame ∈ front ++ [final],
        fragment = frame.parsed payloadDecodeLimit datalinkType := by
    intro fragment member
    rcases mem_collecting_output member with inRun | ⟨_, same⟩
    · rcases mem_collecting_run inRun with before | ⟨earlier, earlierMember, earlierOwn, same⟩
      · simp at before
      · rw [← same]
        exact arrive earlier (List.mem_append_left _ earlierMember) earlierOwn
    · rw [← same]
      exact arrive event (by simp) own
  obtain ⟨long, total, data⟩ := collects.captured_payload complete carries cuts arrived
  have ends := cuts.final_of_end.1
  rw [collects.ipv4Payload_eq complete built carries arrived, data, CapturedFrame.Whole]
  constructor
  · intro same
    have lengths := congrArg List.length same
    rw [List.length_take] at lengths
    omega
  · intro whole
    apply List.take_of_length_le
    omega

end Capture

/-! ### A capture with a small snap length -/

/-- An Ethernet frame with a fragment of a datagram from `10.0.0.1` to `10.0.0.2`. -/
def sampleFrame (offset : UInt8) (flags : UInt8) (piece : List UInt8) (snapLength : Nat) :
    CapturedFrame where
  link := List.replicate 12 0 ++ [8, 0]
  header := [0x45, 0, 0, UInt8.ofNat (20 + piece.length), 0, 7, flags, offset, 64, 17, 0, 0, 10, 0,
    0, 1, 10, 0, 0, 2]
  piece := piece
  padding := []
  captured := snapLength

/-- 24 bytes in two frames. -/
def sampleFrames (snapLength : Nat) : List CapturedFrame :=
  [sampleFrame 0 0x20 (List.replicate 8 1) snapLength] ++
    [sampleFrame 1 0 (List.replicate 16 2) snapLength]

/-- The snap length changes neither the frames nor how they cut the payload. -/
theorem sampleFrames_carry (snapLength : Nat) :
    ∀ frame ∈ sampleFrames snapLength, frame.CarriesIpv4 .en10mb := by
  have first : (sampleFrame 0 0x20 (List.replicate 8 1) 0).CarriesIpv4 .en10mb := by
    constructor <;> decide
  have final : (sampleFrame 1 0 (List.replicate 16 2) 0).CarriesIpv4 .en10mb := by
    constructor <;> decide
  intro frame member
  rcases List.mem_cons.mp member with same | inRest
  · rw [same]
    exact ⟨first.announced, first.version, first.headerLength, first.headerLeast,
      first.totalLength⟩
  · rw [List.mem_singleton.mp inRest]
    exact ⟨final.announced, final.version, final.headerLength, final.headerLeast,
      final.totalLength⟩

theorem sampleFrames_cut (snapLength : Nat) :
    CutsFrames (List.replicate 8 1 ++ List.replicate 16 2) 0 (sampleFrames snapLength) := by
  have starts : (sampleFrame 0 0x20 (List.replicate 8 1) 0).fragmentOffset = 0 := by decide
  have more : (sampleFrame 0 0x20 (List.replicate 8 1) 0).moreFragments = true := by decide
  have offset : (sampleFrame 1 0 (List.replicate 16 2) 0).fragmentOffset = 8 := by decide
  have noMore : (sampleFrame 1 0 (List.replicate 16 2) 0).moreFragments = false := by decide
  exact ⟨starts, rfl, more, offset, rfl, noMore, rfl⟩

/-- The rebuilt packet around a payload. -/
def sampleRebuilt (payload : List UInt8) : List UInt8 :=
  [0x45, 0, 0, UInt8.ofNat (20 + payload.length), 0, 7, 0, 0, 64, 17, 0, 0, 10, 0, 0, 1, 10, 0, 0,
    2] ++ payload

/-- The final frame first, both captured whole. -/
theorem reassembled_payload_iff_whole_reordered :
    ipv4Payload (sampleRebuilt (List.replicate 8 1 ++ List.replicate 16 2)) =
        List.replicate 8 1 ++ List.replicate 16 2 ↔
      (sampleFrame 1 0 (List.replicate 16 2) 96).Whole := by
  let arrived : CapturedFrame → FragmentEvent := fun frame => ⟨frame.parsed 65536 .en10mb, 1⟩
  let table : IPv4FragmentTable := { maxDatagrams := 2, maxBytes := 64, timeoutSeconds := 30 }
  exact @reassembled_payload_iff_whole _ _ _ _ (table, {})
    (sampleFrame 1 0 (List.replicate 16 2) 96).key
    [arrived (sampleFrame 1 0 (List.replicate 16 2) 96)]
    (arrived (sampleFrame 0 0x20 (List.replicate 8 1) 96)) 65536 .en10mb
    ⟨2, 64, 30, table, {}, by decide, Machine.Reachable.refl _⟩ (by decide)
    (sampleFrames_carry 96) (sampleFrames_cut 96) (by unfold ArriveFrom; decide +kernel)
    (by decide +kernel) (by decide +kernel)

/-- With a snap length of 46 bytes the first frame is whole, and the final one loses its last four
bytes: what is rebuilt ends there. -/
theorem snapLength_shortens_datagram :
    ¬ ∀ (payload : List UInt8) (front : List CapturedFrame) (final : CapturedFrame)
      (state : FragmentState) (key : IPv4FragmentKey) (past : List FragmentEvent)
      (event : FragmentEvent) (packet : List UInt8),
      FragmentCaptured state → datagramOf state.1 key = none →
      (∀ frame ∈ front ++ [final], frame.CarriesIpv4 .en10mb) →
      CutsFrames payload 0 (front ++ [final]) →
      ArriveFrom key 65536 .en10mb (front ++ [final]) (past ++ [event]) →
      OwnFragment key event →
      fragmentReassembly.output (fragmentReassembly.run state past) event = .reassembled packet →
      ipv4Payload packet = payload := by
  intro always
  let arrived : CapturedFrame → FragmentEvent := fun frame => ⟨frame.parsed 65536 .en10mb, 1⟩
  let table : IPv4FragmentTable := { maxDatagrams := 2, maxBytes := 64, timeoutSeconds := 30 }
  have same := always (List.replicate 8 1 ++ List.replicate 16 2)
    [sampleFrame 0 0x20 (List.replicate 8 1) 46] (sampleFrame 1 0 (List.replicate 16 2) 46)
    (table, {}) (sampleFrame 0 0x20 (List.replicate 8 1) 46).key
    [arrived (sampleFrame 0 0x20 (List.replicate 8 1) 46)]
    (arrived (sampleFrame 1 0 (List.replicate 16 2) 46))
    (sampleRebuilt (List.replicate 8 1 ++ List.replicate 12 2))
    ⟨2, 64, 30, table, {}, by decide, Machine.Reachable.refl _⟩ (by decide)
    (sampleFrames_carry 46) (sampleFrames_cut 46) (by unfold ArriveFrom; decide +kernel)
    (by decide +kernel) (by decide +kernel)
  exact absurd same (by decide +kernel)

end MiniSniffer
