import MiniSniffer.Fragment.Lookup

/-!
Contract: what an incomplete datagram holds.

Owns the relation between a datagram and the fragments it has accepted, in their
order of arrival (`Collects`), and what accepting one more fragment makes of it:
refused, out of room, still incomplete, or complete with a rebuilt packet whose
bytes at every accepted fragment are that fragment's.

Does not own which fragments reach a datagram: see `Fragment.Consistency` and
`Fragment.Inversion`.
-/

namespace MiniSniffer

open Foundation

/-- The fragment declares the end of its datagram. -/
def endsDatagram (fragment : PacketInfo) : Bool := !fragment.ipv4MoreFragments

/-- The fragment's range keeps apart from the stored ones, and there is a slot for it. -/
def Admits (datagram : IPv4FragmentDatagram) (fragment : PacketInfo) : Prop :=
  (∀ other ∈ datagram.ranges, (fragmentRange fragment).Apart other) ∧
    datagram.ranges.length < minisnifferIpv4FragmentMaxRanges

/-- The datagram that stores an admitted fragment. -/
def acceptedDatagram (datagram : IPv4FragmentDatagram) (fragment : PacketInfo) (now : Nat) :
    IPv4FragmentDatagram :=
  storeFragment
    { adoptFragment datagram fragment now with
      ranges := insertByStart datagram.ranges (fragmentRange fragment)
      data := growTo 0 datagram.data (fragmentRange fragment).stop } fragment

/-- The bytes that admitting the fragment needs are left under the cap. -/
def FitsRoom (room : Nat) (datagram : IPv4FragmentDatagram) (fragment : PacketInfo) : Prop :=
  (fragmentRange fragment).stop ≤ datagram.dataCapacity + room

section Outcome

variable {room now : Nat} {datagram : IPv4FragmentDatagram} {fragment : PacketInfo}

/-- A fragment that is not admitted removes its datagram. -/
theorem acceptDatagram_refused (refused : ¬ Admits datagram fragment) :
    acceptDatagram room datagram fragment now = (none, .malformed) := by
  have notAdmitted : admitRange (adoptFragment datagram fragment now) (fragmentRange fragment).start
      (fragmentRange fragment).stop = none := by
    rw [Option.eq_none_iff_forall_ne_some]
    intro ranged admitted
    obtain ⟨apart, slots, -⟩ := admitRange_eq_some_iff.mp admitted
    rw [adoptFragment_ranges] at apart slots
    exact refused ⟨apart, slots⟩
  simp only [acceptDatagram, notAdmitted]

theorem acceptDatagram_admitted (admits : Admits datagram fragment) :
    acceptDatagram room datagram fragment now =
      if (fragmentRange fragment).stop > datagram.dataCapacity + room then (none, .dropped)
      else if coverageIsComplete (acceptedDatagram datagram fragment now) then
        match buildPacket (acceptedDatagram datagram fragment now) with
        | none => (none, .dropped)
        | some packet => (none, .reassembled packet)
      else (some (acceptedDatagram datagram fragment now), .queued) := by
  have admitted : admitRange (adoptFragment datagram fragment now) (fragmentRange fragment).start
      (fragmentRange fragment).stop = some
        { adoptFragment datagram fragment now with
          ranges := insertByStart datagram.ranges (fragmentRange fragment) } := by
    rw [admitRange_eq_some_iff, adoptFragment_ranges]
    exact ⟨admits.1, admits.2, rfl⟩
  simp only [acceptDatagram, admitted, acceptedDatagram, adoptFragment_data]
  rfl

/-- An entry stays only if the fragment was queued, and then it stores the fragment. -/
theorem acceptDatagram_eq_some_iff {stored : IPv4FragmentDatagram}
    {result : IPv4FragmentProcessResult} :
    acceptDatagram room datagram fragment now = (some stored, result) ↔
      Admits datagram fragment ∧ FitsRoom room datagram fragment ∧
        coverageIsComplete stored = false ∧ stored = acceptedDatagram datagram fragment now ∧
        result = .queued := by
  by_cases admits : Admits datagram fragment
  · rw [acceptDatagram_admitted admits]
    by_cases full : (fragmentRange fragment).stop > datagram.dataCapacity + room
    · rw [if_pos full]
      simp only [Prod.mk.injEq, reduceCtorEq, false_and, false_iff, not_and]
      intro _ fits
      exact absurd fits (Nat.not_le_of_lt full)
    · rw [if_neg full]
      have fits : FitsRoom room datagram fragment := Nat.le_of_not_lt full
      cases complete : coverageIsComplete (acceptedDatagram datagram fragment now) with
      | true =>
          cases buildPacket (acceptedDatagram datagram fragment now) <;>
            · simp only [if_true, Prod.mk.injEq, reduceCtorEq, false_and, false_iff, not_and]
              intro _ _ incomplete same
              rw [same, complete] at incomplete
              contradiction
      | false =>
          simp only [Bool.false_eq_true, if_false, Prod.mk.injEq, Option.some.injEq]
          constructor
          · intro both
            obtain ⟨rfl, rfl⟩ := both
            exact ⟨admits, fits, complete, rfl, rfl⟩
          · intro stays
            exact ⟨stays.2.2.2.1.symm, stays.2.2.2.2.symm⟩
  · rw [acceptDatagram_refused admits]
    simp [admits]

/-- A rebuilt packet comes from a datagram that the fragment completed. -/
theorem acceptDatagram_eq_reassembled {entry : Option IPv4FragmentDatagram} {packet : List UInt8}
    (reassembled : acceptDatagram room datagram fragment now = (entry, .reassembled packet)) :
    Admits datagram fragment ∧ entry = none ∧
      coverageIsComplete (acceptedDatagram datagram fragment now) = true ∧
      buildPacket (acceptedDatagram datagram fragment now) = some packet := by
  by_cases admits : Admits datagram fragment
  · rw [acceptDatagram_admitted admits] at reassembled
    split_ifs at reassembled with full complete
    · simp at reassembled
    · cases built : buildPacket (acceptedDatagram datagram fragment now) with
      | none => simp [built] at reassembled
      | some rebuilt =>
          simp only [built, Prod.mk.injEq, IPv4FragmentProcessResult.reassembled.injEq]
            at reassembled
          exact ⟨admits, reassembled.1.symm, complete, by rw [reassembled.2]⟩
    · simp at reassembled
  · rw [acceptDatagram_refused admits] at reassembled
    simp at reassembled

end Outcome

/-! ### Accepted fragments -/

/-- The datagram holds exactly the fragments of the log, in their order of arrival. -/
structure Collects (log : List PacketInfo) (datagram : IPv4FragmentDatagram) : Prop where
  acceptable : ∀ fragment ∈ log, AcceptableFragment fragment
  ranges : datagram.ranges.Perm (log.map fragmentRange)
  separated : Separated datagram.ranges
  inside : ∀ fragment ∈ log, (fragmentRange fragment).stop ≤ datagram.data.length
  stored : ∀ fragment ∈ log,
    slice datagram.data (fragmentRange fragment).start (fragmentRange fragment).stop =
      fragmentBytes fragment
  hasLast : datagram.hasLastFragment = log.any endsDatagram
  total : ∀ fragment, (log.filter endsDatagram).getLast? = some fragment →
    datagram.totalPayloadLength = (fragmentRange fragment).stop
  header : ∀ fragment ∈ log, fragment.ipv4FragmentOffset = 0 →
    datagram.header = fragment.ipv4Header

section Collecting

variable {log : List PacketInfo} {datagram : IPv4FragmentDatagram} {fragment : PacketInfo}
variable {now : Nat} {key : IPv4FragmentKey}

theorem collects_fresh (fragment : PacketInfo) (key : IPv4FragmentKey) (now : Nat) :
    Collects [] (freshDatagram fragment key now) where
  acceptable := by simp
  ranges := List.Perm.nil
  separated := separated_nil
  inside := by simp
  stored := by simp
  hasLast := rfl
  total := by simp
  header := by simp

/-- An acceptable fragment carries some bytes. -/
theorem AcceptableFragment.nonempty (acceptable : AcceptableFragment fragment) :
    (fragmentRange fragment).Nonempty := by
  have payload : fragment.ipv4FragmentPayloadLength ≠ 0 := by
    have wellformed := acceptable.2
    unfold fragmentIsMalformed at wellformed
    split_ifs at wellformed with _ _ empty
    exact empty
  simp only [Foundation.Interval.Nonempty, fragmentRange]
  omega

theorem AcceptableFragment.header_bounds (acceptable : AcceptableFragment fragment) :
    20 ≤ fragment.ipv4HeaderLength ∧
      fragment.ipv4HeaderLength ≤ minisnifferMaxIpv4HeaderBytes := by
  have wellformed := acceptable.2
  unfold fragmentIsMalformed at wellformed
  split_ifs at wellformed with checks
  simp only [Bool.or_eq_true, not_or, decide_eq_true_eq] at checks
  omega

theorem mem_ranges (collects : Collects log datagram) {range : IPv4FragmentRange} :
    range ∈ datagram.ranges ↔ ∃ fragment ∈ log, fragmentRange fragment = range := by
  rw [collects.ranges.mem_iff, List.mem_map]

@[simp] theorem acceptedDatagram_ranges :
    (acceptedDatagram datagram fragment now).ranges =
      insertByStart datagram.ranges (fragmentRange fragment) := by
  simp only [acceptedDatagram, storeFragment]
  split <;> rfl

@[simp] theorem acceptedDatagram_data :
    (acceptedDatagram datagram fragment now).data =
      patch (growTo 0 datagram.data (fragmentRange fragment).stop) (fragmentRange fragment).start
        (fragmentBytes fragment) := by
  rw [acceptedDatagram, storeFragment_data]
  rfl

@[simp] theorem acceptedDatagram_header :
    (acceptedDatagram datagram fragment now).header =
      if fragment.ipv4FragmentOffset = 0 then fragment.ipv4Header else datagram.header := by
  simp only [acceptedDatagram, storeFragment, adoptFragment]
  split_ifs <;> rfl

@[simp] theorem acceptedDatagram_hasLastFragment :
    (acceptedDatagram datagram fragment now).hasLastFragment =
      (datagram.hasLastFragment || endsDatagram fragment) := by
  simp only [acceptedDatagram, storeFragment, adoptFragment, endsDatagram]
  split_ifs with more first first <;> simp [more]

@[simp] theorem acceptedDatagram_totalPayloadLength :
    (acceptedDatagram datagram fragment now).totalPayloadLength =
      if endsDatagram fragment then (fragmentRange fragment).stop
      else datagram.totalPayloadLength := by
  simp only [acceptedDatagram, storeFragment, adoptFragment, endsDatagram]
  split_ifs <;> simp_all

@[simp] theorem acceptedDatagram_key :
    (acceptedDatagram datagram fragment now).key = datagram.key := by
  rw [acceptedDatagram, storeFragment_key]
  exact adoptFragment_key

@[simp] theorem acceptedDatagram_lastSeenTime :
    (acceptedDatagram datagram fragment now).lastSeenTime = now := by
  simp only [acceptedDatagram, storeFragment, adoptFragment]
  split_ifs <;> rfl

theorem fits_growTo :
    (fragmentRange fragment).start + (fragmentBytes fragment).length ≤
      (growTo 0 datagram.data (fragmentRange fragment).stop).length := by
  rw [length_growTo, length_fragmentBytes]
  exact Nat.le_max_right _ _

theorem length_acceptedDatagram_data :
    (acceptedDatagram datagram fragment now).data.length =
      max datagram.data.length (fragmentRange fragment).stop := by
  rw [acceptedDatagram_data, length_patch fits_growTo, length_growTo]

/-- Accepting an admitted fragment adds it to the log. -/
theorem Collects.accept (collects : Collects log datagram)
    (acceptable : AcceptableFragment fragment) (admits : Admits datagram fragment) :
    Collects (log ++ [fragment]) (acceptedDatagram datagram fragment now) where
  acceptable := by
    intro other member
    rcases List.mem_append.mp member with old | new
    · exact collects.acceptable other old
    · rw [List.mem_singleton.mp new]
      exact acceptable
  ranges := by
    rw [acceptedDatagram_ranges, List.map_append]
    exact (insertByStart_perm _ _).trans
      ((collects.ranges.cons _).trans (List.perm_append_singleton _ _).symm)
  separated := by
    rw [acceptedDatagram_ranges]
    exact collects.separated.insertByStart admits.1 acceptable.nonempty
  inside := by
    intro other member
    rw [length_acceptedDatagram_data]
    rcases List.mem_append.mp member with old | new
    · exact (collects.inside other old).trans (Nat.le_max_left _ _)
    · rw [List.mem_singleton.mp new]
      exact Nat.le_max_right _ _
  stored := by
    intro other member
    rw [acceptedDatagram_data]
    rcases List.mem_append.mp member with old | new
    · have apart := admits.1 _ ((mem_ranges collects).mpr ⟨other, old, rfl⟩)
      have length := length_fragmentBytes fragment
      rw [slice_patch_apart fits_growTo, slice_growTo _ _ (collects.inside other old)]
      · exact collects.stored other old
      · simp only [Foundation.Interval.Apart, Foundation.Interval.Precedes, fragmentRange]
          at apart ⊢
        omega
    · rw [List.mem_singleton.mp new]
      have stop : (fragmentRange fragment).stop =
          (fragmentRange fragment).start + (fragmentBytes fragment).length := by
        rw [length_fragmentBytes]
        rfl
      have part := slice_patch_self (@fits_growTo datagram fragment)
      rwa [← stop] at part
  hasLast := by
    rw [acceptedDatagram_hasLastFragment, collects.hasLast, List.any_append]
    simp
  total := by
    intro other isLast
    rw [acceptedDatagram_totalPayloadLength]
    rw [List.filter_append] at isLast
    split_ifs with ends
    · rw [List.filter_singleton, ends] at isLast
      simp only [cond_true, List.getLast?_append, List.getLast?_singleton, Option.some_or,
        Option.some.injEq] at isLast
      rw [isLast]
    · rw [List.filter_singleton, Bool.eq_false_iff.mpr ends] at isLast
      exact collects.total other (by simpa using isLast)
  header := by
    intro other member starts
    rw [acceptedDatagram_header]
    rcases List.mem_append.mp member with old | new
    · have apart := admits.1 _ ((mem_ranges collects).mpr ⟨other, old, rfl⟩)
      have nonempty := acceptable.nonempty
      have otherNonempty := (collects.acceptable other old).nonempty
      have notFirst : fragment.ipv4FragmentOffset ≠ 0 := by
        simp only [Foundation.Interval.Apart, Foundation.Interval.Precedes,
          Foundation.Interval.Nonempty, fragmentRange] at *
        omega
      rw [if_neg notFirst]
      exact collects.header other old starts
    · rw [List.mem_singleton.mp new] at starts ⊢
      rw [if_pos starts]

/-! ### Entries -/

/-- The log is what the entry has collected; without an entry it is empty. -/
def LogMatches (entry : Option IPv4FragmentDatagram) (log : List PacketInfo) : Prop :=
  match entry with
  | none => log = []
  | some datagram => Collects log datagram

/-- An entry that processes its own fragment is what acceptance makes of a datagram that collected
the log, unless there was no slot for it. -/
theorem processEntry_cases {table : IPv4FragmentTable} {entry : Option IPv4FragmentDatagram}
    (matching : LogMatches entry log) (fragment : PacketInfo) (now : Nat) :
    processEntry table entry fragment now = (none, .dropped) ∨
      ∃ datagram, Collects log datagram ∧ processEntry table entry fragment now =
        acceptDatagram (table.maxBytes - table.usedBytes) datagram fragment now := by
  cases entry with
  | some datagram => exact Or.inr ⟨datagram, matching, rfl⟩
  | none =>
      by_cases full : table.datagrams.length ≥ table.maxDatagrams
      · exact Or.inl (if_pos full)
      · right
        refine ⟨freshDatagram fragment (makeKey fragment) now, ?_, if_neg full⟩
        rw [show log = [] from matching]
        exact collects_fresh fragment _ now

end Collecting

/-! ### Complete datagrams -/

/-- The header of a rebuilt packet: total length, flags without MF and offset, no checksum. -/
def rebuiltHeader (header : List UInt8) (totalLength : Nat) : List UInt8 :=
  writeU16
    (writeU16 (writeU16 header 2 (UInt16.ofNat totalLength)) 6
      ((readU16 header 6 &&& 0xe000) &&& ~~~0x2000))
    10 0

section Complete

variable {log : List PacketInfo} {datagram : IPv4FragmentDatagram} {packet : List UInt8}

@[simp] theorem length_rebuiltHeader (header : List UInt8) (totalLength : Nat) :
    (rebuiltHeader header totalLength).length = header.length := by
  simp [rebuiltHeader]

theorem byteAt_rebuiltHeader {header : List UInt8} {totalLength index : Nat}
    (untouched : index ∉ [2, 3, 6, 7, 10, 11]) :
    byteAt (rebuiltHeader header totalLength) index = byteAt header index := by
  simp only [List.mem_cons, List.not_mem_nil, or_false, not_or] at untouched
  rw [rebuiltHeader, byteAt_writeU16_apart _ (by omega) (by omega),
    byteAt_writeU16_apart _ (by omega) (by omega), byteAt_writeU16_apart _ (by omega) (by omega)]

/-- The header fields lie inside the header, so writing them leaves the payload alone. -/
theorem buildPacket_eq (header : 20 ≤ datagram.header.length)
    (built : buildPacket datagram = some packet) :
    datagram.headerLength + datagram.totalPayloadLength ≤ ipv4MaxTotalLength ∧
      packet = rebuiltHeader datagram.header
          (datagram.headerLength + datagram.totalPayloadLength) ++
        datagram.data.take datagram.totalPayloadLength := by
  simp only [buildPacket] at built
  split at built
  · contradiction
  next fits =>
    refine ⟨Nat.le_of_not_lt fits, ?_⟩
    rw [← Option.some.inj built, rebuiltHeader, writeU16_append_left _ _ (by omega),
      writeU16_append_left _ _ (by simp; omega), writeU16_append_left _ _ (by simp; omega),
      readU16_append_left _ (by simp; omega), readU16_writeU16_apart _ (by omega)]

theorem buildPacket_isSome
    (fits : datagram.headerLength + datagram.totalPayloadLength ≤ ipv4MaxTotalLength) :
    ∃ packet, buildPacket datagram = some packet := by
  simp only [buildPacket, if_neg (Nat.not_lt_of_le fits)]
  exact ⟨_, rfl⟩

/-- A datagram is complete exactly if its end was declared, nothing is missing below the end, and a
fragment reaches it. -/
theorem Collects.complete_iff (collects : Collects log datagram) :
    coverageIsComplete datagram = true ↔
      log.any endsDatagram = true ∧ 0 < datagram.totalPayloadLength ∧
      (∀ position < datagram.totalPayloadLength,
        ∃ fragment ∈ log, (fragmentRange fragment).Holds position) ∧
      ∃ fragment ∈ log, (fragmentRange fragment).stop = datagram.totalPayloadLength := by
  unfold coverageIsComplete
  rw [collects.hasLast]
  by_cases ends : log.any endsDatagram = true
  · by_cases empty : datagram.totalPayloadLength = 0
    · simp [empty]
    · have positive := Nat.pos_of_ne_zero empty
      rw [if_neg (by simp [ends, empty]), scanCoverage_iff collects.separated positive]
      simp only [mem_ranges collects, ends, positive, true_and, exists_exists_and_eq_and]
  · simp [ends]

/-- The pieces of a complete datagram: its first fragment and its rebuilt packet. -/
theorem Collects.rebuilt (collects : Collects log datagram)
    (complete : coverageIsComplete datagram = true) (built : buildPacket datagram = some packet) :
    ∃ first ∈ log, first.ipv4FragmentOffset = 0 ∧ datagram.header = first.ipv4Header ∧
      packet = rebuiltHeader first.ipv4Header
          (first.ipv4HeaderLength + datagram.totalPayloadLength) ++
        datagram.data.take datagram.totalPayloadLength ∧
      (datagram.data.take datagram.totalPayloadLength).length = datagram.totalPayloadLength := by
  obtain ⟨-, positive, covers, last, lastMember, reaches⟩ := collects.complete_iff.mp complete
  obtain ⟨first, member, held⟩ := covers 0 positive
  have starts : first.ipv4FragmentOffset = 0 := Nat.le_zero.mp held.1
  have header := collects.header first member starts
  have sized : 20 ≤ datagram.header.length := by
    rw [header]
    exact (collects.acceptable first member).header_bounds.1
  obtain ⟨-, packetEq⟩ := buildPacket_eq sized built
  refine ⟨first, member, starts, header, ?_, ?_⟩
  · rw [packetEq, IPv4FragmentDatagram.headerLength, header]
    rfl
  · have inside := collects.inside last lastMember
    rw [List.length_take]
    omega

end Complete

/-! ### Every entry -/

section Every

variable {holds : IPv4FragmentDatagram → Prop} {state : FragmentState} {event : FragmentEvent}
variable {datagram : IPv4FragmentDatagram} {fragment : PacketInfo} {room now : Nat}

/-- What holds of a datagram, and of whatever it admits, holds of what it becomes. -/
theorem acceptDatagram_holds
    (accepted : Admits datagram fragment → holds (acceptedDatagram datagram fragment now)) :
    (∀ stored ∈ (acceptDatagram room datagram fragment now).1, holds stored) ∧
      ∀ packet, (acceptDatagram room datagram fragment now).2 = .reassembled packet →
        ∃ complete, complete.key = datagram.key ∧ holds complete ∧
          coverageIsComplete complete = true ∧ buildPacket complete = some packet := by
  constructor
  · intro stored isStored
    obtain ⟨admits, -, -, becomes, -⟩ :=
      acceptDatagram_eq_some_iff.mp (Prod.ext (Option.mem_def.mp isStored) rfl)
    rw [becomes]
    exact accepted admits
  · intro packet reassembled
    obtain ⟨admits, -, covered, built⟩ :=
      acceptDatagram_eq_reassembled (Prod.ext rfl reassembled)
    exact ⟨_, acceptedDatagram_key, accepted admits, covered, built⟩

/-- A property of fresh datagrams that every admitted fragment keeps holds of every entry, and of
the datagram that a packet is rebuilt from. -/
theorem process_holds (wellformed : state.1.Wellformed)
    (entries : ∀ datagram ∈ state.1.datagrams, holds datagram)
    (fresh : AcceptableFragment event.fragment →
      holds (freshDatagram event.fragment (makeKey event.fragment) event.now))
    (accepted : ∀ datagram, AcceptableFragment event.fragment →
      datagram.key = makeKey event.fragment → holds datagram → Admits datagram event.fragment →
      holds (acceptedDatagram datagram event.fragment event.now)) :
    (∀ datagram ∈ (fragmentReassembly.next state event).1.datagrams, holds datagram) ∧
      ∀ packet, fragmentReassembly.output state event = .reassembled packet →
        ∃ complete, complete.key = makeKey event.fragment ∧ holds complete ∧
          coverageIsComplete complete = true ∧ buildPacket complete = some packet := by
  have expired : ∀ datagram ∈ (afterExpiry state event).datagrams, holds datagram := by
    intro datagram member
    unfold afterExpiry at member
    split_ifs at member
    · rw [expire_datagrams] at member
      exact entries datagram (List.mem_of_mem_filter member)
    · exact entries datagram member
  by_cases acceptable : AcceptableFragment event.fragment
  · have step := process_acceptable wellformed acceptable
    -- the fragment's own entry
    have own : ∀ room datagram, datagram.key = makeKey event.fragment → holds datagram →
        (∀ stored ∈ (acceptDatagram room datagram event.fragment event.now).1, holds stored) ∧
          ∀ packet, (acceptDatagram room datagram event.fragment event.now).2 =
              .reassembled packet →
            ∃ complete, complete.key = makeKey event.fragment ∧ holds complete ∧
              coverageIsComplete complete = true ∧ buildPacket complete = some packet := by
      intro room datagram keyed held
      have outcome := @acceptDatagram_holds holds datagram event.fragment room event.now
        (accepted datagram acceptable keyed held)
      rw [keyed] at outcome
      exact outcome
    have entry : (∀ stored ∈ (processEntry (afterExpiry state event)
          (datagramOf (afterExpiry state event) (makeKey event.fragment)) event.fragment
          event.now).1, holds stored) ∧
        ∀ packet, (processEntry (afterExpiry state event)
            (datagramOf (afterExpiry state event) (makeKey event.fragment)) event.fragment
            event.now).2 = .reassembled packet →
          ∃ complete, complete.key = makeKey event.fragment ∧ holds complete ∧
            coverageIsComplete complete = true ∧ buildPacket complete = some packet := by
      unfold processEntry
      cases found : datagramOf (afterExpiry state event) (makeKey event.fragment) with
      | some datagram =>
          exact own _ datagram (lookup_key found) (expired datagram (lookup_mem found))
      | none =>
          simp only
          split_ifs
          · simp
          · exact own _ _ rfl (fresh acceptable)
    refine ⟨?_, ?_⟩
    · intro datagram member
      have found := step.2.1.distinct.lookup_eq_some_iff.mpr ⟨member, rfl⟩
      rw [← datagramOf, step.2.2.2] at found
      split_ifs at found
      · exact entry.1 datagram found
      · exact expired datagram (lookup_mem found)
    · intro packet reassembled
      rw [step.1] at reassembled
      exact entry.2 packet reassembled
  · rw [(process_unacceptable acceptable).1]
    refine ⟨expired, ?_⟩
    intro packet reassembled
    rcases (process_unacceptable acceptable).2 with ignored | malformed
    · rw [ignored] at reassembled
      contradiction
    · rw [malformed] at reassembled
      contradiction

end Every

/-! ### A sample datagram -/

def sampleHeader : List UInt8 := 0x45 :: List.replicate 19 0

/-- Eight payload bytes at an offset of a datagram from `10.0.0.1` to `10.0.0.2`. -/
def sampleFragment (offset : Nat) (moreFragments : Bool) : PacketInfo where
  srcIp := .ipv4 [10, 0, 0, 1]
  dstIp := .ipv4 [10, 0, 0, 2]
  protocol := .udp
  ipVersion := 4
  isIpv4Fragment := true
  ipv4Identification := 7
  ipv4ProtocolNumber := 17
  ipv4FragmentOffset := offset
  ipv4MoreFragments := moreFragments
  ipv4FragmentPayload := some { offset := 34, bytes := List.replicate 8 (UInt8.ofNat offset) }
  ipv4Header := sampleHeader

def sampleFragmentKey : IPv4FragmentKey := makeKey (sampleFragment 0 true)

end MiniSniffer
