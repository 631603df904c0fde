import MiniSniffer.Fragment.Contents

/-!
Contract: fragment reassembly undoes fragmentation.

A datagram's fragments arrive in any order, interleaved with anything of other
keys. Owns the proof that every fragment but the last to arrive is queued and
that the last one returns the datagram: the first fragment's header, with total
length set, MF and offset cleared and no checksum, followed by the payload.

Does not own fragments that disagree with each other: see `Fragment.Consistency`.
-/

namespace MiniSniffer

open Foundation

/-! ### Fragmentation -/

/-- The fragments cut the payload from a position on: consecutive non-empty pieces, all but the last
of a length divisible by eight and announcing more. -/
def CutsFrom (payload : List UInt8) : Nat → List PacketInfo → Prop
  | start, [] => start = payload.length
  | start, fragment :: rest =>
      fragment.ipv4FragmentOffset = start ∧
        0 < fragment.ipv4FragmentPayloadLength ∧
        fragmentBytes fragment = slice payload start (fragmentRange fragment).stop ∧
        fragment.ipv4MoreFragments = (rest ≠ [] : Bool) ∧
        (rest ≠ [] → fragment.ipv4FragmentPayloadLength % 8 = 0) ∧
        CutsFrom payload (fragmentRange fragment).stop rest

/-- The parsed fragments of one IPv4 datagram. Later fragments may carry shorter headers. -/
structure Fragmentation (header payload : List UInt8) (key : IPv4FragmentKey)
    (fragments : List PacketInfo) : Prop where
  headerSized : 20 ≤ header.length ∧ header.length ≤ minisnifferMaxIpv4HeaderBytes
  bounded : header.length + payload.length ≤ ipv4MaxTotalLength
  counted : 2 ≤ fragments.length ∧ fragments.length ≤ minisnifferIpv4FragmentMaxRanges
  first : fragments.head?.map PacketInfo.ipv4Header = some header
  fragment : ∀ fragment ∈ fragments, fragment.isIpv4Fragment = true ∧ fragment.ipVersion = 4 ∧
    20 ≤ fragment.ipv4HeaderLength ∧ fragment.ipv4HeaderLength ≤ header.length ∧
    makeKey fragment = key
  cuts : CutsFrom payload 0 fragments

/-- What the fragments of a payload are, in whatever order they come. -/
structure Pieces (payload : List UInt8) (fragments : List PacketInfo) : Prop where
  apart : (fragments.map fragmentRange).Pairwise Foundation.Interval.Apart
  nonempty : ∀ fragment ∈ fragments, (fragmentRange fragment).Nonempty
  inside : ∀ fragment ∈ fragments, (fragmentRange fragment).stop ≤ payload.length
  bytes : ∀ fragment ∈ fragments, fragmentBytes fragment =
    slice payload (fragmentRange fragment).start (fragmentRange fragment).stop
  covers : ∀ position < payload.length, ∃ fragment ∈ fragments,
    (fragmentRange fragment).Holds position
  ends : ∀ fragment ∈ fragments, endsDatagram fragment = true ↔
    (fragmentRange fragment).stop = payload.length

section Cuts

variable {payload header : List UInt8} {fragments others : List PacketInfo} {start : Nat}
variable {key : IPv4FragmentKey} {fragment : PacketInfo}

/-- The pieces after a position start there or later, and a non-empty rest of the payload has
pieces. -/
theorem CutsFrom.after (cuts : CutsFrom payload start fragments) :
    start ≤ payload.length ∧
      ∀ fragment ∈ fragments, start ≤ (fragmentRange fragment).start := by
  induction fragments generalizing start with
  | nil => exact ⟨Nat.le_of_eq cuts, by simp⟩
  | cons first rest inductionHypothesis =>
      obtain ⟨offset, nonempty, -, -, -, restCuts⟩ := cuts
      obtain ⟨inside, later⟩ := inductionHypothesis restCuts
      have stop : (fragmentRange first).stop = start + first.ipv4FragmentPayloadLength := by
        rw [← offset]
        rfl
      refine ⟨by omega, ?_⟩
      intro fragment member
      rcases List.mem_cons.mp member with same | inRest
      · rw [same, ← offset]
        exact Nat.le_refl _
      · have := later fragment inRest
        omega

theorem CutsFrom.pieces (cuts : CutsFrom payload start fragments) :
    (fragments.map fragmentRange).Pairwise Foundation.Interval.Precedes ∧
      (∀ fragment ∈ fragments, (fragmentRange fragment).Nonempty ∧
        (fragmentRange fragment).stop ≤ payload.length ∧
        fragmentBytes fragment =
          slice payload (fragmentRange fragment).start (fragmentRange fragment).stop ∧
        (endsDatagram fragment = true ↔ (fragmentRange fragment).stop = payload.length)) ∧
      ∀ position, start ≤ position → position < payload.length →
        ∃ fragment ∈ fragments, (fragmentRange fragment).Holds position := by
  induction fragments generalizing start with
  | nil =>
      have done : start = payload.length := cuts
      refine ⟨List.Pairwise.nil, by simp, ?_⟩
      intro position above below
      omega
  | cons first rest inductionHypothesis =>
      obtain ⟨offset, nonempty, bytes, more, -, restCuts⟩ := cuts
      obtain ⟨ordered, each, covers⟩ := inductionHypothesis restCuts
      obtain ⟨inside, later⟩ := restCuts.after
      have starts : (fragmentRange first).start = start := offset
      have stop : (fragmentRange first).stop = start + first.ipv4FragmentPayloadLength := by
        rw [← offset]
        rfl
      refine ⟨?_, ?_, ?_⟩
      · rw [List.map_cons, List.pairwise_cons]
        refine ⟨?_, ordered⟩
        intro range member
        obtain ⟨fragment, inRest, rfl⟩ := List.mem_map.mp member
        exact later fragment inRest
      · intro fragment member
        rcases List.mem_cons.mp member with same | inRest
        · rw [same]
          refine ⟨by rw [Foundation.Interval.Nonempty]; omega, inside,
            by rw [starts]; exact bytes, ?_⟩
          rw [endsDatagram, more]
          cases rest with
          | nil =>
              have done : (fragmentRange first).stop = payload.length := restCuts
              simp [done]
          | cons second rest =>
              have secondEach := each second List.mem_cons_self
              have secondLater := later second List.mem_cons_self
              have secondNonempty := secondEach.1
              rw [Foundation.Interval.Nonempty] at secondNonempty
              simp only [ne_eq, reduceCtorEq, not_false_eq_true, decide_true, Bool.not_true,
                Bool.false_eq_true, false_iff]
              omega
        · exact each fragment inRest
      · intro position above below
        by_cases inFirst : position < (fragmentRange first).stop
        · exact ⟨first, List.mem_cons_self, by omega, inFirst⟩
        · obtain ⟨fragment, inRest, held⟩ := covers position (by omega) below
          exact ⟨fragment, List.mem_cons_of_mem _ inRest, held⟩

theorem CutsFrom.toPieces (cuts : CutsFrom payload 0 fragments) : Pieces payload fragments := by
  obtain ⟨ordered, each, covers⟩ := cuts.pieces
  exact
    { apart := ordered.imp fun precedes => Or.inl precedes
      nonempty := fun fragment member => (each fragment member).1
      inside := fun fragment member => (each fragment member).2.1
      bytes := fun fragment member => (each fragment member).2.2.1
      covers := fun position below => covers position (Nat.zero_le _) below
      ends := fun fragment member => (each fragment member).2.2.2 }

theorem Pieces.perm (pieces : Pieces payload fragments) (permuted : others.Perm fragments) :
    Pieces payload others where
  apart :=
    ((permuted.map fragmentRange).pairwise_iff Foundation.Interval.Apart.symm).mpr pieces.apart
  nonempty := fun fragment member => pieces.nonempty fragment (permuted.mem_iff.mp member)
  inside := fun fragment member => pieces.inside fragment (permuted.mem_iff.mp member)
  bytes := fun fragment member => pieces.bytes fragment (permuted.mem_iff.mp member)
  covers := by
    intro position below
    obtain ⟨fragment, member, held⟩ := pieces.covers position below
    exact ⟨fragment, permuted.mem_iff.mpr member, held⟩
  ends := fun fragment member => pieces.ends fragment (permuted.mem_iff.mp member)

/-- Every announced length short of the last is divisible by eight. -/
theorem CutsFrom.divisible (cuts : CutsFrom payload start fragments) :
    ∀ fragment ∈ fragments, fragment.ipv4MoreFragments = true →
      fragment.ipv4FragmentPayloadLength % 8 = 0 := by
  induction fragments generalizing start with
  | nil => simp
  | cons first rest inductionHypothesis =>
      obtain ⟨-, -, -, more, divisible, restCuts⟩ := cuts
      intro fragment member announced
      rcases List.mem_cons.mp member with same | inRest
      · rw [same] at announced ⊢
        rw [more] at announced
        exact divisible (by simpa using announced)
      · exact inductionHypothesis restCuts fragment inRest announced

/-- The fragments of a datagram pass the malformed checks. -/
theorem Fragmentation.acceptable (fragmentation : Fragmentation header payload key fragments)
    (member : fragment ∈ fragments) : AcceptableFragment fragment := by
  obtain ⟨isFragment, version, headerLeast, headerMost, -⟩ := fragmentation.fragment fragment member
  have pieces := fragmentation.cuts.toPieces
  have nonempty := pieces.nonempty fragment member
  have inside := pieces.inside fragment member
  have divisible := fragmentation.cuts.divisible fragment member
  have sized := fragmentation.headerSized
  have bounded := fragmentation.bounded
  have somePayload : fragment.ipv4FragmentPayload.isNone = false := by
    cases view : fragment.ipv4FragmentPayload with
    | none =>
        simp [Foundation.Interval.Nonempty, fragmentRange,
          PacketInfo.ipv4FragmentPayloadLength, view] at nonempty
    | some view => rfl
  simp only [Foundation.Interval.Nonempty, fragmentRange] at nonempty inside
  refine ⟨isFragment, ?_⟩
  unfold fragmentIsMalformed
  rw [if_neg, if_neg, if_neg, if_neg]
  · simp only [decide_eq_false_iff_not]
    omega
  · omega
  · omega
  · simp only [Bool.and_eq_true, decide_eq_true_eq, not_and, not_not, ne_eq]
    exact divisible
  · simp only [isFragment, version, somePayload, Bool.not_true, Bool.false_or, Bool.or_false,
      ne_eq, not_true_eq_false, decide_false, Bool.or_eq_true, decide_eq_true_eq]
    omega

/-- Only the first piece starts at zero, so its header is the one that is adopted. -/
theorem Fragmentation.header_eq (fragmentation : Fragmentation header payload key fragments)
    (member : fragment ∈ fragments) (starts : fragment.ipv4FragmentOffset = 0) :
    fragment.ipv4Header = header := by
  have first := fragmentation.first
  have cuts := fragmentation.cuts
  cases fragments with
  | nil => contradiction
  | cons head rest =>
      obtain ⟨-, nonempty, -, -, -, restCuts⟩ := cuts
      rcases List.mem_cons.mp member with same | inRest
      · rw [same]
        exact Option.some.inj first
      · have later := restCuts.after.2 fragment inRest
        simp only [fragmentRange] at later
        omega

end Cuts

/-! ### A datagram's pieces in its entry -/

section Entry

variable {payload header : List UInt8} {log rest fragments : List PacketInfo}
variable {datagram : IPv4FragmentDatagram} {fragment : PacketInfo} {key : IPv4FragmentKey}
variable {entry : Option IPv4FragmentDatagram} {table : IPv4FragmentTable} {now : Nat}

/-- An entry that collected all pieces is complete and holds the payload. -/
theorem Collects.complete_of_pieces (collects : Collects log datagram) (pieces : Pieces payload log)
    (nonempty : payload ≠ []) :
    coverageIsComplete datagram = true ∧ datagram.totalPayloadLength = payload.length ∧
      datagram.data.take datagram.totalPayloadLength = payload := by
  have positive := List.length_pos_iff.mpr nonempty
  obtain ⟨last, lastMember, held⟩ := pieces.covers (payload.length - 1) (by omega)
  have reaches : (fragmentRange last).stop = payload.length := by
    have inside := pieces.inside last lastMember
    have beyond := held.2
    omega
  have isEnd := (pieces.ends last lastMember).mpr reaches
  have ends : log.any endsDatagram = true := List.any_eq_true.mpr ⟨last, lastMember, isEnd⟩
  have total : datagram.totalPayloadLength = payload.length := by
    have someEnd : log.filter endsDatagram ≠ [] :=
      List.ne_nil_of_mem (List.mem_filter.mpr ⟨lastMember, isEnd⟩)
    have final := List.getLast_mem someEnd
    obtain ⟨finalMember, finalEnd⟩ := List.mem_filter.mp final
    rw [collects.total _ (List.getLast?_eq_some_getLast someEnd)]
    exact (pieces.ends _ finalMember).mp finalEnd
  have dataLength : (datagram.data.take payload.length).length = payload.length := by
    have inside := collects.inside last lastMember
    rw [List.length_take]
    omega
  refine ⟨?_, total, ?_⟩
  · rw [collects.complete_iff, total]
    exact ⟨ends, positive, pieces.covers, last, lastMember, reaches⟩
  · rw [total]
    refine @eq_of_slices UInt8 _ _ dataLength (log.map fragmentRange) ?_ ?_
    · intro position below
      rw [dataLength] at below
      obtain ⟨holder, member, holds⟩ := pieces.covers position below
      exact ⟨fragmentRange holder, List.mem_map_of_mem member, holds⟩
    · intro range rangeMember
      obtain ⟨stored, member, rfl⟩ := List.mem_map.mp rangeMember
      rw [slice_take (pieces.inside stored member), collects.stored stored member]
      exact pieces.bytes stored member

/-- An entry that misses a piece is incomplete. -/
theorem Collects.incomplete_of_missing (collects : Collects log datagram)
    (pieces : Pieces payload (log ++ fragment :: rest)) :
    coverageIsComplete datagram = false := by
  by_contra notIncomplete
  obtain ⟨ends, -, covers, -⟩ := collects.complete_iff.mp (Bool.not_eq_false _ ▸ notIncomplete)
  have inPieces : fragment ∈ log ++ fragment :: rest := by simp
  have total : datagram.totalPayloadLength = payload.length := by
    obtain ⟨last, lastMember, isEnd⟩ := List.any_eq_true.mp ends
    have someEnd : log.filter endsDatagram ≠ [] :=
      List.ne_nil_of_mem (List.mem_filter.mpr ⟨lastMember, isEnd⟩)
    obtain ⟨finalMember, finalEnd⟩ := List.mem_filter.mp (List.getLast_mem someEnd)
    rw [collects.total _ (List.getLast?_eq_some_getLast someEnd)]
    exact (pieces.ends _ (List.mem_append_left _ finalMember)).mp finalEnd
  have fragmentNonempty := pieces.nonempty fragment inPieces
  have inside := pieces.inside fragment inPieces
  rw [Foundation.Interval.Nonempty] at fragmentNonempty
  obtain ⟨holder, holderMember, held⟩ := covers (fragmentRange fragment).start (by omega)
  have apart := pieces.apart
  rw [List.map_append, List.pairwise_append] at apart
  have separate := apart.2.2 _ (List.mem_map_of_mem holderMember) (fragmentRange fragment)
    (by simp)
  exact separate.not_holds held ⟨Nat.le_refl _, fragmentNonempty⟩

/-- The caps leave room for the fragment: a slot if it opens an entry, and the bytes it adds. -/
def RoomFor (table : IPv4FragmentTable) (entry : Option IPv4FragmentDatagram)
    (fragment : PacketInfo) : Prop :=
  (entry = none → table.datagrams.length < table.maxDatagrams) ∧
    (fragmentRange fragment).stop ≤
      (entry.elim 0 IPv4FragmentDatagram.dataCapacity) + (table.maxBytes - table.usedBytes)

/-- With room, processing is acceptance by the entry's datagram or a fresh one. -/
theorem processEntry_of_room (matching : LogMatches entry log) (room : RoomFor table entry fragment)
    (now : Nat) :
    ∃ datagram, Collects log datagram ∧
      FitsRoom (table.maxBytes - table.usedBytes) datagram fragment ∧
      processEntry table entry fragment now =
        acceptDatagram (table.maxBytes - table.usedBytes) datagram fragment now := by
  cases entry with
  | some datagram => exact ⟨datagram, matching, room.2, rfl⟩
  | none =>
      refine ⟨freshDatagram fragment (makeKey fragment) now, ?_, room.2,
        if_neg (Nat.not_le_of_lt (room.1 rfl))⟩
      rw [show log = [] from matching]
      exact collects_fresh fragment _ now

/-- A piece that arrives when others are missing is queued; the last one to arrive returns the
datagram. -/
theorem processEntry_piece (fragmentation : Fragmentation header payload key fragments)
    (permuted : (log ++ fragment :: rest).Perm fragments) (matching : LogMatches entry log)
    (room : RoomFor table entry fragment) (now : Nat) :
    if rest = [] then
      processEntry table entry fragment now =
        (none, .reassembled
          (rebuiltHeader header (header.length + payload.length) ++ payload))
    else
      ∃ stored, processEntry table entry fragment now = (some stored, .queued) ∧
        Collects (log ++ [fragment]) stored ∧ stored.lastSeenTime = now := by
  have pieces := fragmentation.cuts.toPieces.perm permuted
  have member : fragment ∈ fragments := permuted.mem_iff.mp (by simp)
  have acceptable := fragmentation.acceptable member
  obtain ⟨datagram, collects, fits, processed⟩ := processEntry_of_room matching room now
  have admits : Admits datagram fragment := by
    constructor
    · intro other inRanges
      obtain ⟨stored, storedMember, rfl⟩ := (mem_ranges collects).mp inRanges
      have apart := pieces.apart
      rw [List.map_append, List.pairwise_append] at apart
      exact (apart.2.2 _ (List.mem_map_of_mem storedMember) (fragmentRange fragment)
        (by simp)).symm
    · have counted := fragmentation.counted.2
      have length := permuted.length_eq
      rw [collects.ranges.length_eq, List.length_map]
      simp only [List.length_append, List.length_cons] at length
      omega
  have accepted : Collects (log ++ [fragment]) (acceptedDatagram datagram fragment now) :=
    collects.accept acceptable admits
  rw [processed]
  split_ifs with noMore
  · rw [noMore] at pieces permuted
    have payloadNonempty : payload ≠ [] := by
      have inside := pieces.inside fragment (by simp)
      have nonempty := acceptable.nonempty
      rw [Foundation.Interval.Nonempty] at nonempty
      exact List.length_pos_iff.mp (by omega)
    obtain ⟨complete, total, data⟩ := accepted.complete_of_pieces pieces payloadNonempty
    -- the header of the first piece, which has arrived by now
    obtain ⟨first, firstMember, held⟩ :=
      pieces.covers 0 (List.length_pos_iff.mpr payloadNonempty)
    have starts : first.ipv4FragmentOffset = 0 := Nat.le_zero.mp held.1
    have firstHeader :=
      fragmentation.header_eq (permuted.mem_iff.mp firstMember) starts
    have storedHeader := accepted.header first firstMember starts
    rw [firstHeader] at storedHeader
    have fitsPacket : (acceptedDatagram datagram fragment now).headerLength +
        (acceptedDatagram datagram fragment now).totalPayloadLength ≤ ipv4MaxTotalLength := by
      rw [IPv4FragmentDatagram.headerLength, storedHeader, total]
      exact fragmentation.bounded
    obtain ⟨packet, built⟩ := buildPacket_isSome fitsPacket
    obtain ⟨-, packetEq⟩ := buildPacket_eq
      (by rw [storedHeader]; exact fragmentation.headerSized.1) built
    rw [acceptDatagram_admitted admits, if_neg (Nat.not_lt_of_le fits), if_pos complete, built,
      packetEq, data, IPv4FragmentDatagram.headerLength, storedHeader, total]
  · obtain ⟨next, others, rfl⟩ := List.exists_cons_of_ne_nil noMore
    have stillMissing : Pieces payload (log ++ [fragment] ++ next :: others) := by
      simpa using pieces
    have incomplete := accepted.incomplete_of_missing stillMissing
    refine ⟨acceptedDatagram datagram fragment now, ?_, accepted, acceptedDatagram_lastSeenTime⟩
    exact acceptDatagram_eq_some_iff.mpr ⟨admits, fits, incomplete, rfl, rfl⟩

end Entry

/-! ### Runs -/

def ownFragment (key : IPv4FragmentKey) (event : FragmentEvent) : Bool :=
  event.fragment.isIpv4Fragment && makeKey event.fragment = key

/-- The fragments of the key, in their order of arrival. -/
def arrivals (key : IPv4FragmentKey) (events : List FragmentEvent) : List PacketInfo :=
  (events.filter (ownFragment key)).map FragmentEvent.fragment

/-- The times at which the fragments of the key arrive. -/
def arrivalTimes (key : IPv4FragmentKey) (events : List FragmentEvent) : List Nat :=
  (events.filter (ownFragment key)).map FragmentEvent.now

/-- When a fragment of the key arrives, neither cap of the table is in its way. -/
def WithinCaps (key : IPv4FragmentKey) (state : FragmentState) (event : FragmentEvent) : Prop :=
  ownFragment key event = true →
    RoomFor (afterExpiry state event) (datagramOf (afterExpiry state event) key) event.fragment

/-- Two consecutive arrivals of a key come before its entry expires, or nothing ever expires. -/
def ArriveInTime (timeoutSeconds : Nat) (times : List Nat) : Prop :=
  timeoutSeconds = 0 ∨ times.IsChain fun earlier later => later < earlier + timeoutSeconds

/-- The rebuilt packet: the header with total length set, MF and offset cleared, the other flags
kept and no checksum, followed by the payload. -/
structure Rebuilt (header payload packet : List UInt8) : Prop where
  totalLength : (readU16 packet 2).toNat = header.length + payload.length
  flags : readU16 packet 6 = readU16 header 6 &&& 0xc000
  checksum : readU16 packet 10 = 0
  others : ∀ index < header.length, index ∉ [2, 3, 6, 7, 10, 11] →
    byteAt packet index = byteAt header index
  payload : packet.drop header.length = payload

section Runs

variable {payload header : List UInt8} {log fragments : List PacketInfo}
variable {datagram : IPv4FragmentDatagram} {key : IPv4FragmentKey} {state : FragmentState}
variable {event : FragmentEvent} {events : List FragmentEvent} {last : Nat}

theorem rebuilt_rebuiltHeader (sized : 20 ≤ header.length)
    (bounded : header.length + payload.length ≤ ipv4MaxTotalLength) :
    Rebuilt header payload
      (rebuiltHeader header (header.length + payload.length) ++ payload) where
  totalLength := by
    rw [readU16_append_left _ (by simp; omega), rebuiltHeader,
      readU16_writeU16_apart _ (by omega), readU16_writeU16_apart _ (by omega),
      readU16_writeU16 _ (by omega), UInt16.toNat_ofNat_of_lt']
    exact Nat.lt_of_le_of_lt bounded (by decide)
  flags := by
    rw [readU16_append_left _ (by simp; omega), rebuiltHeader,
      readU16_writeU16_apart _ (by omega), readU16_writeU16 _ (by simp; omega), UInt16.and_assoc]
    rfl
  checksum := by
    rw [readU16_append_left _ (by simp; omega), rebuiltHeader, readU16_writeU16 _ (by simp; omega)]
  others := by
    intro index inside untouched
    rw [byteAt_append_left _ (by simpa using inside), byteAt_rebuiltHeader untouched]
  payload := by
    rw [List.drop_left']
    exact length_rebuiltHeader _ _

theorem arrivals_cons_own (own : ownFragment key event = true) :
    arrivals key (event :: events) = event.fragment :: arrivals key events ∧
      arrivalTimes key (event :: events) = event.now :: arrivalTimes key events := by
  rw [arrivals, arrivalTimes, List.filter_cons_of_pos own]
  exact ⟨rfl, rfl⟩

theorem arrivals_cons_other (other : ownFragment key event = false) :
    arrivals key (event :: events) = arrivals key events ∧
      arrivalTimes key (event :: events) = arrivalTimes key events := by
  rw [arrivals, arrivalTimes, List.filter_cons_of_neg (by simp [other])]
  exact ⟨rfl, rfl⟩

/-- Once no fragment of the key is left, it gets no further result. -/
theorem selectedOutputs_of_no_arrivals (none_left : arrivals key events = []) :
    fragmentReassembly.selectedOutputs (ownFragment key) state events = [] := by
  induction events generalizing state with
  | nil => rfl
  | cons event events inductionHypothesis =>
      cases own : ownFragment key event with
      | true =>
          rw [(arrivals_cons_own own).1] at none_left
          contradiction
      | false =>
          rw [(arrivals_cons_other own).1] at none_left
          rw [Machine.selectedOutputs, own]
          exact inductionHypothesis none_left

theorem survives_of_lt {timeoutSeconds now : Nat} (ordered : datagram.lastSeenTime ≤ now)
    (soon : timeoutSeconds = 0 ∨ now < datagram.lastSeenTime + timeoutSeconds) :
    survives timeoutSeconds now datagram = true := by
  simp only [survives, datagramIsIdle, Bool.or_eq_true, decide_eq_true_eq, Bool.not_eq_true',
    decide_eq_false_iff_not, if_pos ordered]
  omega

theorem datagramOf_afterExpiry_of_survives (wellformed : state.1.Wellformed)
    (found : datagramOf state.1 key = some datagram)
    (alive : survives state.1.timeoutSeconds event.now datagram = true) :
    datagramOf (afterExpiry state event) key = some datagram := by
  rw [datagramOf_afterExpiry wellformed, found]
  split
  · exact Option.filter_eq_some_iff.mpr ⟨rfl, alive⟩
  · rfl

/-- A packet that is no fragment of the key leaves its entry as expiry does. -/
theorem datagramOf_next_other (wellformed : state.1.Wellformed)
    (other : ownFragment key event = false) :
    datagramOf (fragmentReassembly.next state event).1 key =
      datagramOf (afterExpiry state event) key := by
  by_cases acceptable : AcceptableFragment event.fragment
  · have different : makeKey event.fragment ≠ key := by
      simpa [ownFragment, acceptable.1] using other
    rw [(process_acceptable wellformed acceptable).2.2.2, if_neg different]
  · rw [(@process_unacceptable state event acceptable).1]

theorem next_timeoutSeconds (wellformed : state.1.Wellformed) (event : FragmentEvent) :
    (fragmentReassembly.next state event).1.timeoutSeconds = state.1.timeoutSeconds := by
  have limits := process_limits wellformed event
  simp only [IPv4FragmentTable.limits, Prod.mk.injEq] at limits
  exact limits.2.2

/-- A fragment of the key that arrives on its entry: the step that both runs below share. -/
theorem piece_step (fragmentation : Fragmentation header payload key fragments)
    (wellformed : state.1.Wellformed) (own : ownFragment key event = true)
    (permuted : (log ++ event.fragment :: arrivals key events).Perm fragments)
    (matching : LogMatches (datagramOf (afterExpiry state event) key) log)
    (caps : WithinCaps key state event) :
    (fragmentReassembly.next state event).1.Wellformed ∧
      if arrivals key events = [] then
        fragmentReassembly.output state event = .reassembled
          (rebuiltHeader header (header.length + payload.length) ++ payload)
      else
        fragmentReassembly.output state event = .queued ∧
          ∃ stored, datagramOf (fragmentReassembly.next state event).1 key = some stored ∧
            Collects (log ++ [event.fragment]) stored ∧ stored.lastSeenTime = event.now := by
  have member : event.fragment ∈ fragments := permuted.mem_iff.mp (by simp)
  have acceptable := fragmentation.acceptable member
  have keyed : makeKey event.fragment = key := (fragmentation.fragment _ member).2.2.2.2
  obtain ⟨output, nextWellformed, -, entries⟩ := process_acceptable wellformed acceptable
  have piece := processEntry_piece fragmentation permuted matching (caps own) event.now
  have entry := entries key
  rw [if_pos keyed, keyed] at entry
  rw [keyed] at output
  refine ⟨nextWellformed, ?_⟩
  split_ifs with noMore
  · rw [if_pos noMore] at piece
    rw [output, piece]
  · rw [if_neg noMore] at piece
    obtain ⟨stored, processed, collects, seen⟩ := piece
    exact ⟨by rw [output, processed], stored, by rw [entry, processed], collects, seen⟩

/-- The run from an entry that misses some pieces. -/
theorem remaining_run (fragmentation : Fragmentation header payload key fragments)
    (wellformed : state.1.Wellformed) (found : datagramOf state.1 key = some datagram)
    (collects : Collects log datagram) (permuted : (log ++ arrivals key events).Perm fragments)
    (missing : arrivals key events ≠ [])
    (ordered : (datagram.lastSeenTime :: events.map FragmentEvent.now).Pairwise (· ≤ ·))
    (inTime : ArriveInTime state.1.timeoutSeconds
      (datagram.lastSeenTime :: arrivalTimes key events))
    (caps : fragmentReassembly.AllSteps (WithinCaps key) state events) :
    fragmentReassembly.selectedOutputs (ownFragment key) state events =
      List.replicate ((arrivals key events).length - 1) .queued ++
        [.reassembled (rebuiltHeader header (header.length + payload.length) ++ payload)] := by
  induction events generalizing state log datagram with
  | nil => contradiction
  | cons event events inductionHypothesis =>
      rw [List.map_cons, List.pairwise_cons, List.pairwise_cons] at ordered
      obtain ⟨afterLast, afterEvent, later⟩ := ordered
      have notBefore := afterLast event.now List.mem_cons_self
      cases own : ownFragment key event with
      | true =>
          obtain ⟨arrives, times⟩ := @arrivals_cons_own key event events own
          rw [arrives] at permuted
          rw [times] at inTime
          have alive : survives state.1.timeoutSeconds event.now datagram = true := by
            apply survives_of_lt notBefore
            rcases inTime with never | chain
            · exact Or.inl never
            · exact Or.inr (List.isChain_cons_cons.mp chain).1
          have matching : LogMatches (datagramOf (afterExpiry state event) key) log := by
            rw [datagramOf_afterExpiry_of_survives wellformed found alive]
            exact collects
          obtain ⟨nextWellformed, piece⟩ :=
            piece_step fragmentation wellformed own permuted matching caps.1
          rw [Machine.selectedOutputs, own, if_pos rfl, arrives]
          by_cases noMore : arrivals key events = []
          · rw [if_pos noMore] at piece
            rw [piece, selectedOutputs_of_no_arrivals noMore, noMore]
            rfl
          · rw [if_neg noMore] at piece
            obtain ⟨queued, stored, foundNext, collectsNext, seen⟩ := piece
            have restInTime : ArriveInTime (fragmentReassembly.next state event).1.timeoutSeconds
                (stored.lastSeenTime :: arrivalTimes key events) := by
              rw [next_timeoutSeconds wellformed, seen]
              exact inTime.imp id fun chain => (List.isChain_cons_cons.mp chain).2
            have rest := inductionHypothesis nextWellformed foundNext collectsNext
              (by simpa using permuted) noMore
              (by rw [seen]; exact List.pairwise_cons.mpr ⟨afterEvent, later⟩) restInTime caps.2
            obtain ⟨next, others, restArrives⟩ := List.exists_cons_of_ne_nil noMore
            rw [queued, rest, restArrives]
            rfl
      | false =>
          obtain ⟨arrives, times⟩ := @arrivals_cons_other key event events own
          rw [arrives] at permuted missing
          rw [times] at inTime
          have alive : survives state.1.timeoutSeconds event.now datagram = true := by
            apply survives_of_lt notBefore
            rcases inTime with never | chain
            · exact Or.inl never
            right
            -- the next fragment of the key comes no earlier than this packet
            cases remaining : events.filter (ownFragment key) with
            | nil =>
                rw [arrivals, remaining] at missing
                contradiction
            | cons next others =>
                rw [arrivalTimes, remaining, List.map_cons, List.isChain_cons_cons] at chain
                have nextMember : next ∈ events :=
                  (List.mem_filter.mp (remaining ▸ List.mem_cons_self)).1
                have ordering := afterEvent next.now (List.mem_map_of_mem nextMember)
                exact Nat.lt_of_le_of_lt ordering chain.1
          have foundNext : datagramOf (fragmentReassembly.next state event).1 key =
              some datagram := by
            rw [datagramOf_next_other wellformed own]
            exact datagramOf_afterExpiry_of_survives wellformed found alive
          have restOrdered : (datagram.lastSeenTime :: events.map FragmentEvent.now).Pairwise
              (· ≤ ·) := by
            refine List.pairwise_cons.mpr ⟨?_, later⟩
            intro time member
            exact afterLast time (List.mem_cons_of_mem _ member)
          rw [Machine.selectedOutputs, own, arrives]
          exact inductionHypothesis (process_wellformed wellformed event) foundNext collects
            permuted missing restOrdered (by rw [next_timeoutSeconds wellformed]; exact inTime)
            caps.2

/-- The run from a table without an entry for the key. -/
theorem arriving_run (fragmentation : Fragmentation header payload key fragments)
    (wellformed : state.1.Wellformed) (absent : datagramOf state.1 key = none)
    (permuted : (arrivals key events).Perm fragments)
    (ordered : (events.map FragmentEvent.now).Pairwise (· ≤ ·))
    (inTime : ArriveInTime state.1.timeoutSeconds (arrivalTimes key events))
    (caps : fragmentReassembly.AllSteps (WithinCaps key) state events) :
    fragmentReassembly.selectedOutputs (ownFragment key) state events =
      List.replicate (fragments.length - 1) .queued ++
        [.reassembled (rebuiltHeader header (header.length + payload.length) ++ payload)] := by
  induction events generalizing state with
  | nil =>
      have counted := fragmentation.counted.1
      rw [← permuted.length_eq] at counted
      simp [arrivals] at counted
  | cons event events inductionHypothesis =>
      rw [List.map_cons, List.pairwise_cons] at ordered
      have absentNow : datagramOf (afterExpiry state event) key = none := by
        rw [datagramOf_afterExpiry wellformed, absent]
        split <;> rfl
      cases own : ownFragment key event with
      | true =>
          obtain ⟨arrives, times⟩ := @arrivals_cons_own key event events own
          rw [arrives] at permuted
          rw [times] at inTime
          have matching : LogMatches (datagramOf (afterExpiry state event) key) [] := by
            rw [absentNow]
            rfl
          obtain ⟨nextWellformed, piece⟩ :=
            piece_step fragmentation wellformed own permuted matching caps.1
          have missing : arrivals key events ≠ [] := by
            intro noMore
            have counted := fragmentation.counted.1
            rw [← permuted.length_eq, noMore] at counted
            simp at counted
          rw [if_neg missing] at piece
          obtain ⟨queued, stored, foundNext, collects, seen⟩ := piece
          have rest := remaining_run fragmentation nextWellformed foundNext collects permuted
            missing (by rw [seen]; exact List.pairwise_cons.mpr ordered)
            (by rw [next_timeoutSeconds wellformed, seen]; exact inTime) caps.2
          rw [Machine.selectedOutputs, own, if_pos rfl, queued, rest, ← permuted.length_eq]
          obtain ⟨next, others, restArrives⟩ := List.exists_cons_of_ne_nil missing
          rw [restArrives]
          rfl
      | false =>
          obtain ⟨arrives, times⟩ := @arrivals_cons_other key event events own
          rw [arrives] at permuted
          rw [times] at inTime
          rw [Machine.selectedOutputs, own]
          exact inductionHypothesis (process_wellformed wellformed event)
            (by rw [datagramOf_next_other wellformed own]; exact absentNow) permuted ordered.2
            (by rw [next_timeoutSeconds wellformed]; exact inTime) caps.2

/-- The fragments of a datagram, in every order of arrival and whatever arrives between them, are
queued up to the last one, which returns the datagram. -/
theorem fragments_rebuild_datagram (captured : FragmentCaptured state)
    (absent : datagramOf state.1 key = none)
    (fragmentation : Fragmentation header payload key fragments)
    (permuted : (arrivals key events).Perm fragments)
    (ordered : (events.map FragmentEvent.now).Pairwise (· ≤ ·))
    (inTime : ArriveInTime state.1.timeoutSeconds (arrivalTimes key events))
    (caps : fragmentReassembly.AllSteps (WithinCaps key) state events) :
    ∃ packet, Rebuilt header payload packet ∧
      fragmentReassembly.selectedOutputs (ownFragment key) state events =
        List.replicate (fragments.length - 1) .queued ++ [.reassembled packet] :=
  ⟨_, rebuilt_rebuiltHeader fragmentation.headerSized.1 fragmentation.bounded,
    arriving_run fragmentation captured.wellformed absent permuted ordered inTime caps⟩

end Runs

instance (table : IPv4FragmentTable) (entry : Option IPv4FragmentDatagram)
    (fragment : PacketInfo) : Decidable (RoomFor table entry fragment) :=
  inferInstanceAs (Decidable (_ ∧ _))

instance (key : IPv4FragmentKey) (state : FragmentState) (event : FragmentEvent) :
    Decidable (WithinCaps key state event) :=
  inferInstanceAs (Decidable (_ → _))

theorem sampleFragmentation :
    Fragmentation sampleHeader (List.replicate 8 0 ++ List.replicate 8 8) sampleFragmentKey
      [sampleFragment 0 true, sampleFragment 8 false] where
  headerSized := by decide
  bounded := by decide
  counted := by decide
  first := by decide
  fragment := by decide
  cuts := by unfold CutsFrom CutsFrom CutsFrom; decide +kernel

/-- Two fragments that arrive in reverse order around a fragment of another datagram. -/
theorem fragments_rebuild_datagram_reordered :
    ∃ packet, Rebuilt sampleHeader (List.replicate 8 0 ++ List.replicate 8 8) packet ∧
      fragmentReassembly.selectedOutputs (ownFragment sampleFragmentKey)
        ({ maxDatagrams := 2, maxBytes := 64, timeoutSeconds := 30 }, {})
        [⟨sampleFragment 8 false, 1⟩,
          ⟨{ sampleFragment 0 true with ipv4Identification := 8 }, 5⟩,
          ⟨sampleFragment 0 true, 20⟩] =
        [.queued, .reassembled packet] :=
  fragments_rebuild_datagram
    ⟨2, 64, 30, { maxDatagrams := 2, maxBytes := 64, timeoutSeconds := 30 }, {}, by decide,
      Machine.Reachable.refl _⟩
    (by decide) sampleFragmentation (by decide) (by decide) (Or.inr (by decide)) (by decide +kernel)

end MiniSniffer
