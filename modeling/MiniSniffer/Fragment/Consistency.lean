import MiniSniffer.Fragment.Contents

/-!
Contract: which sets of fragments are reassembled.

The fragments that an entry has accepted are followed along a run (`collecting`).
Owns the exact condition under which the fragments of a reassembled datagram tile
its payload, and the payload is the same for every order of arrival: nothing may
end the datagram twice, end it short of what already arrived, or reach past its
declared end. The table itself checks none of this; it overwrites the declared end
and ignores stored ranges beyond it.

Does not own fragments that come from one datagram: see `Fragment.Inversion`.
-/

namespace MiniSniffer

open Foundation

/-! ### The fragments of an entry -/

/-- The fragment belongs to the key and passes the malformed checks. -/
def OwnFragment (key : IPv4FragmentKey) (event : FragmentEvent) : Prop :=
  AcceptableFragment event.fragment ∧ makeKey event.fragment = key

instance (fragment : PacketInfo) : Decidable (AcceptableFragment fragment) :=
  inferInstanceAs (Decidable (_ ∧ _))

instance (key : IPv4FragmentKey) (event : FragmentEvent) : Decidable (OwnFragment key event) :=
  inferInstanceAs (Decidable (_ ∧ _))

/-- The accepted fragments of the key's entry once idle entries have expired. -/
def logAfterExpiry (key : IPv4FragmentKey) (state : FragmentState) (log : List PacketInfo)
    (event : FragmentEvent) : List PacketInfo :=
  if (datagramOf (afterExpiry state event) key).isSome then log else []

/-- Fragment reassembly with the fragments that the key's entry has accepted since its creation. The
output adds those that the event's result is about. -/
def collecting (key : IPv4FragmentKey) :
    Machine (FragmentState × List PacketInfo) FragmentEvent
      (IPv4FragmentProcessResult × List PacketInfo) where
  step tracked event :=
    let kept := logAfterExpiry key tracked.1 tracked.2 event
    let extended := if OwnFragment key event then kept ++ [event.fragment] else kept
    let next := fragmentReassembly.next tracked.1 event
    ((next, if (datagramOf next.1 key).isSome then extended else []),
      (fragmentReassembly.output tracked.1 event, extended))

/-- In some run from an initialised table, a fragment of the key completes an entry that accepted
the fragments of the log, in this order. -/
def Reassembles (key : IPv4FragmentKey) (log : List PacketInfo) (packet : List UInt8) : Prop :=
  ∃ maxDatagrams maxBytes timeoutSeconds initial stats past event,
    ipv4FragmentTableInit maxDatagrams maxBytes timeoutSeconds = some initial ∧
      OwnFragment key event ∧
      (collecting key).output ((collecting key).run ((initial, stats), []) past) event =
        (.reassembled packet, log)

/-- The payload of the packet rebuilt from a log: what follows the first fragment's header. -/
def reassembledPayload (log : List PacketInfo) (packet : List UInt8) : List UInt8 :=
  match log.find? fun fragment => fragment.ipv4FragmentOffset = 0 with
  | none => packet
  | some first => packet.drop first.ipv4HeaderLength

/-- The fragments tile `[0, total)` and exactly one of them, which ends at `total`, ends the
datagram. -/
structure Tiles (log : List PacketInfo) (total : Nat) : Prop where
  apart : (log.map fragmentRange).Pairwise Foundation.Interval.Apart
  inside : ∀ fragment ∈ log, (fragmentRange fragment).stop ≤ total
  covers : ∀ position < total, ∃ fragment ∈ log, (fragmentRange fragment).Holds position
  oneEnd : log.countP endsDatagram = 1
  endsThere : ∀ fragment ∈ log, endsDatagram fragment = true →
    (fragmentRange fragment).stop = total

/-- A later fragment agrees with an earlier one on where the datagram ends. -/
def AgreesWith (earlier later : PacketInfo) : Prop :=
  if endsDatagram later then
    endsDatagram earlier = false ∧ (fragmentRange earlier).stop ≤ (fragmentRange later).stop
  else
    endsDatagram earlier = true → (fragmentRange later).stop ≤ (fragmentRange earlier).stop

instance (earlier later : PacketInfo) : Decidable (AgreesWith earlier later) := by
  unfold AgreesWith
  infer_instance

section Logs

variable {key : IPv4FragmentKey} {log : List PacketInfo} {packet : List UInt8}
variable {state : FragmentState} {event : FragmentEvent} {datagram : IPv4FragmentDatagram}

theorem LogMatches.afterExpiry (wellformed : state.1.Wellformed)
    (matching : LogMatches (datagramOf state.1 key) log) (event : FragmentEvent) :
    LogMatches (datagramOf (afterExpiry state event) key) (logAfterExpiry key state log event) := by
  unfold logAfterExpiry
  have entry := @datagramOf_afterExpiry state key wellformed event
  cases left : datagramOf (MiniSniffer.afterExpiry state event) key with
  | none => rfl
  | some datagram =>
      have stayed : datagramOf state.1 key = some datagram := by
        rw [left] at entry
        split_ifs at entry
        · exact (Option.filter_eq_some_iff.mp entry.symm).1
        · exact entry.symm
      rw [stayed] at matching
      exact matching

theorem LogMatches.next (wellformed : state.1.Wellformed)
    (matching : LogMatches (datagramOf state.1 key) log) (event : FragmentEvent) :
    LogMatches (datagramOf (fragmentReassembly.next state event).1 key)
      ((collecting key).next (state, log) event).2 := by
  have expired := matching.afterExpiry wellformed event
  show LogMatches _ (if (datagramOf (fragmentReassembly.next state event).1 key).isSome then _
    else [])
  cases left : datagramOf (fragmentReassembly.next state event).1 key with
  | none => rfl
  | some datagram =>
      simp only [Option.isSome_some, if_true]
      by_cases acceptable : AcceptableFragment event.fragment
      · have processed := (process_acceptable wellformed acceptable).2.2.2 key
        rw [left] at processed
        by_cases own : makeKey event.fragment = key
        · subst own
          rw [if_pos rfl] at processed
          rw [if_pos ⟨acceptable, rfl⟩]
          rcases processEntry_cases expired event.fragment event.now with refused |
            ⟨before, collects, accepted⟩
          · rw [refused] at processed
            contradiction
          · rw [accepted] at processed
            obtain ⟨admits, -, -, stored, -⟩ :=
              acceptDatagram_eq_some_iff.mp (Prod.ext processed.symm rfl)
            rw [stored]
            exact collects.accept acceptable admits
        · rw [if_neg own] at processed
          rw [if_neg fun both => own both.2]
          rw [← processed] at expired
          exact expired
      · have same := (@process_unacceptable state event acceptable).1
        rw [same] at left
        rw [if_neg fun both => acceptable both.1]
        rw [left] at expired
        exact expired

/-- Along every run, the log is what the key's entry has collected. -/
theorem logMatches_run (wellformed : state.1.Wellformed)
    (matching : LogMatches (datagramOf state.1 key) log) (events : List FragmentEvent) :
    ((collecting key).run (state, log) events).1.1.Wellformed ∧
      LogMatches (datagramOf ((collecting key).run (state, log) events).1.1 key)
        ((collecting key).run (state, log) events).2 := by
  have kept : ∀ (tracked : FragmentState × List PacketInfo) event,
      tracked.1.1.Wellformed ∧ LogMatches (datagramOf tracked.1.1 key) tracked.2 →
      ((collecting key).next tracked event).1.1.Wellformed ∧
        LogMatches (datagramOf ((collecting key).next tracked event).1.1 key)
          ((collecting key).next tracked event).2 := by
    intro tracked event holds
    exact ⟨process_wellformed holds.1 event, holds.2.next holds.1 event⟩
  exact Machine.run_preserves kept ⟨wellformed, matching⟩ events

/-- The log takes part in no decision. -/
theorem collecting_run_fst (key : IPv4FragmentKey) (tracked : FragmentState × List PacketInfo)
    (events : List FragmentEvent) :
    ((collecting key).run tracked events).1 = fragmentReassembly.run tracked.1 events := by
  induction events generalizing tracked with
  | nil => rfl
  | cons event events inductionHypothesis =>
      exact inductionHypothesis ((collecting key).next tracked event)

/-- A fragment of the key that completes a datagram: the datagram collected the log. -/
theorem collects_of_reassembled (wellformed : state.1.Wellformed)
    (matching : LogMatches (datagramOf state.1 key) log) {past : List FragmentEvent}
    (own : OwnFragment key event)
    (reassembled : fragmentReassembly.output (fragmentReassembly.run state past) event =
      .reassembled packet) :
    ∃ datagram,
      Collects ((collecting key).output ((collecting key).run (state, log) past) event).2
        datagram ∧
      coverageIsComplete datagram = true ∧ buildPacket datagram = some packet := by
  obtain ⟨runWellformed, runMatching⟩ := logMatches_run wellformed matching past
  rw [← collecting_run_fst key (state, log) past] at reassembled
  generalize (collecting key).run (state, log) past = tracked at *
  have processed := (process_acceptable runWellformed own.1).1
  rw [reassembled, own.2] at processed
  have expired := runMatching.afterExpiry runWellformed event
  rcases processEntry_cases expired event.fragment event.now with refused |
    ⟨before, collects, accepted⟩
  · rw [refused] at processed
    contradiction
  · rw [accepted] at processed
    obtain ⟨admits, -, complete, built⟩ :=
      acceptDatagram_eq_reassembled (Prod.ext rfl processed.symm)
    refine ⟨_, ?_, complete, built⟩
    show Collects (if OwnFragment key event then _ else _) _
    rw [if_pos own]
    exact collects.accept own.1 admits

/-- A reassembled packet is rebuilt from a complete datagram that collected the log. -/
theorem Reassembles.collects (reassembles : Reassembles key log packet) :
    ∃ datagram, Collects log datagram ∧ coverageIsComplete datagram = true ∧
      buildPacket datagram = some packet := by
  obtain ⟨maxDatagrams, maxBytes, timeoutSeconds, initial, stats, past, event, started, own,
    output⟩ := reassembles
  have captured : FragmentCaptured (initial, stats) :=
    ⟨maxDatagrams, maxBytes, timeoutSeconds, initial, stats, started, Machine.Reachable.refl _⟩
  have empty : initial.datagrams = [] := by
    unfold ipv4FragmentTableInit at started
    split at started
    · contradiction
    · rw [← Option.some.inj started]
  have nothing : LogMatches (datagramOf initial key) [] := by
    rw [datagramOf, empty]
    rfl
  have reassembled : fragmentReassembly.output (fragmentReassembly.run (initial, stats) past)
      event = .reassembled packet := by
    rw [← collecting_run_fst key ((initial, stats), []) past]
    exact congrArg Prod.fst output
  have collects := collects_of_reassembled captured.wellformed nothing own reassembled
  rw [output] at collects
  exact collects

/-! ### Tiling -/

/-- The fragments of a log keep apart. -/
theorem Collects.pairwise_apart (collects : Collects log datagram) :
    (log.map fragmentRange).Pairwise Foundation.Interval.Apart := by
  have apart : datagram.ranges.Pairwise Foundation.Interval.Apart :=
    collects.separated.ordered.imp fun precedes => Or.inl precedes
  exact (collects.ranges.pairwise_iff Foundation.Interval.Apart.symm).mp apart

/-- Fragments that agree on the end declare it at most once. -/
theorem oneEnd_of_agree (agree : log.Pairwise AgreesWith) (ends : log.any endsDatagram = true) :
    ∃ last, log.filter endsDatagram = [last] ∧ last ∈ log ∧ endsDatagram last = true := by
  have agreeEnds := agree.filter endsDatagram
  have members : ∀ fragment ∈ log.filter endsDatagram,
      fragment ∈ log ∧ endsDatagram fragment = true := fun fragment => List.mem_filter.mp
  cases filtered : log.filter endsDatagram with
  | nil =>
      rw [List.filter_eq_nil_iff] at filtered
      obtain ⟨last, member, isEnd⟩ := List.any_eq_true.mp ends
      exact absurd isEnd (filtered last member)
  | cons last others =>
      rw [filtered] at agreeEnds members
      have lastMember := members last List.mem_cons_self
      cases others with
      | nil => exact ⟨last, rfl, lastMember⟩
      | cons second others =>
          have disagree := (List.pairwise_cons.mp agreeEnds).1 second List.mem_cons_self
          have secondEnds := (members second (by simp)).2
          rw [AgreesWith, if_pos secondEnds, lastMember.2] at disagree
          simp at disagree

/-- Fragments that agree on the end stay below it. -/
theorem stop_le_of_agree (agree : log.Pairwise AgreesWith) {last fragment : PacketInfo}
    (only : log.filter endsDatagram = [last]) (isEnd : endsDatagram last = true)
    (lastMember : last ∈ log) (member : fragment ∈ log) :
    (fragmentRange fragment).stop ≤ (fragmentRange last).stop := by
  by_cases same : fragment = last
  · rw [same]
  · -- one of the two came first
    let related : PacketInfo → PacketInfo → Prop := fun first second =>
      first ≠ second → AgreesWith first second ∨ AgreesWith second first
    have forward : log.Pairwise related := agree.imp fun agrees _ => Or.inl agrees
    have backward : log.Pairwise fun first second => related second first :=
      agree.imp fun agrees _ => Or.inr agrees
    have either := List.Pairwise.forall_of_forall_of_flip
      (fun fragment _ different => absurd rfl different) forward backward member lastMember same
    rcases either with earlier | later
    · rw [AgreesWith, if_pos isEnd] at earlier
      exact earlier.2
    · have notEnd : endsDatagram fragment = false := by
        by_contra ends
        have inEnds : fragment ∈ log.filter endsDatagram :=
          List.mem_filter.mpr ⟨member, by simpa using ends⟩
        rw [only, List.mem_singleton] at inEnds
        exact same inEnds
      rw [AgreesWith, if_neg (by simp [notEnd])] at later
      exact later isEnd

/-- The collected fragments of a complete datagram tile it exactly if they agree on the end. -/
theorem Collects.tiles_iff (collects : Collects log datagram)
    (complete : coverageIsComplete datagram = true) :
    Tiles log datagram.totalPayloadLength ↔ log.Pairwise AgreesWith := by
  obtain ⟨ends, -, covers, -⟩ := collects.complete_iff.mp complete
  constructor
  · intro tiles
    rw [List.pairwise_iff_forall_sublist]
    intro earlier later pair
    have earlierMember := pair.subset List.mem_cons_self
    have laterMember := pair.subset (List.mem_cons_of_mem _ List.mem_cons_self)
    have counted : [earlier, later].countP endsDatagram ≤ log.countP endsDatagram := pair.countP_le
    rw [tiles.oneEnd] at counted
    unfold AgreesWith
    split_ifs with laterEnds
    · refine ⟨?_, ?_⟩
      · by_contra earlierEnds
        rw [List.countP_cons_of_pos (by simpa using earlierEnds),
          List.countP_cons_of_pos laterEnds] at counted
        simp at counted
      · rw [tiles.endsThere later laterMember laterEnds]
        exact tiles.inside earlier earlierMember
    · intro earlierEnds
      rw [tiles.endsThere earlier earlierMember earlierEnds]
      exact tiles.inside later laterMember
  · intro agree
    obtain ⟨last, only, lastMember, isEnd⟩ := oneEnd_of_agree agree ends
    have total : datagram.totalPayloadLength = (fragmentRange last).stop :=
      collects.total last (by rw [only]; rfl)
    exact
      { apart := collects.pairwise_apart
        inside := by
          intro fragment member
          rw [total]
          exact stop_le_of_agree agree only isEnd lastMember member
        covers := covers
        oneEnd := by rw [List.countP_eq_length_filter, only]; rfl
        endsThere := by
          intro fragment member fragmentEnds
          have inEnds : fragment ∈ log.filter endsDatagram :=
            List.mem_filter.mpr ⟨member, fragmentEnds⟩
          rw [only, List.mem_singleton] at inEnds
          rw [inEnds, total] }

/-! ### Payloads -/

/-- The payload of the rebuilt packet is the front of the datagram's data. -/
theorem Collects.reassembledPayload_eq (collects : Collects log datagram)
    (complete : coverageIsComplete datagram = true) (built : buildPacket datagram = some packet) :
    reassembledPayload log packet = datagram.data.take datagram.totalPayloadLength ∧
      (reassembledPayload log packet).length = datagram.totalPayloadLength := by
  obtain ⟨first, member, starts, header, packetEq, length⟩ := collects.rebuilt complete built
  have payload : reassembledPayload log packet =
      datagram.data.take datagram.totalPayloadLength := by
    unfold reassembledPayload
    cases found : log.find? fun fragment => fragment.ipv4FragmentOffset = 0 with
    | none =>
        have noFirst := List.find?_eq_none.mp found first member
        simp [starts] at noFirst
    | some other =>
        have otherStarts : other.ipv4FragmentOffset = 0 := by simpa using List.find?_some found
        have otherHeader := collects.header other (List.mem_of_find?_eq_some found) otherStarts
        show packet.drop other.ipv4HeaderLength = _
        rw [packetEq, List.drop_left']
        rw [length_rebuiltHeader, ← header, otherHeader]
        rfl
  exact ⟨payload, by rw [payload, length]⟩

/-- Complete datagrams that collected the same fragments, which agree on the end, hold the same
payload. -/
theorem payload_eq_of_perm {other : List PacketInfo} {otherDatagram : IPv4FragmentDatagram}
    (collects : Collects log datagram) (complete : coverageIsComplete datagram = true)
    (otherCollects : Collects other otherDatagram) (permuted : other.Perm log)
    (agree : log.Pairwise AgreesWith) :
    otherDatagram.totalPayloadLength = datagram.totalPayloadLength ∧
      otherDatagram.data.take otherDatagram.totalPayloadLength =
        datagram.data.take datagram.totalPayloadLength := by
  obtain ⟨ends, -, covers, -⟩ := collects.complete_iff.mp complete
  obtain ⟨last, only, lastMember, isEnd⟩ := oneEnd_of_agree agree ends
  have total : datagram.totalPayloadLength = (fragmentRange last).stop :=
    collects.total last (by rw [only]; rfl)
  have otherOnly : other.filter endsDatagram = [last] := by
    have filtered := permuted.filter endsDatagram
    rw [only] at filtered
    exact List.perm_singleton.mp filtered
  have otherTotal : otherDatagram.totalPayloadLength = (fragmentRange last).stop :=
    otherCollects.total last (by rw [otherOnly]; rfl)
  have inside := collects.inside last lastMember
  have otherInside := otherCollects.inside last (permuted.mem_iff.mpr lastMember)
  refine ⟨otherTotal.trans total.symm, ?_⟩
  have lengths : (datagram.data.take (fragmentRange last).stop).length =
      (fragmentRange last).stop := by
    rw [List.length_take]
    omega
  rw [total, otherTotal]
  apply Eq.symm
  refine @eq_of_slices UInt8 _ _ ?_ (log.map fragmentRange) ?_ ?_
  · rw [lengths, List.length_take]
    omega
  · intro position below
    rw [lengths, ← total] at below
    obtain ⟨fragment, member, held⟩ := covers position below
    exact ⟨fragmentRange fragment, List.mem_map_of_mem member, held⟩
  · intro range rangeMember
    obtain ⟨fragment, member, rfl⟩ := List.mem_map.mp rangeMember
    have within := stop_le_of_agree agree only isEnd lastMember member
    rw [slice_take within, slice_take within, collects.stored fragment member,
      otherCollects.stored fragment (permuted.mem_iff.mpr member)]

/-- The fragments of a reassembled datagram tile its payload, which no other order of arrival
changes, if and only if each of them agreed with those before it on where the datagram ends. -/
theorem reassembles_tiles_iff (reassembles : Reassembles key log packet) :
    (Tiles log (reassembledPayload log packet).length ∧
      ∀ other otherPacket, other.Perm log → Reassembles key other otherPacket →
        reassembledPayload other otherPacket = reassembledPayload log packet) ↔
      log.Pairwise AgreesWith := by
  obtain ⟨datagram, collects, complete, built⟩ := reassembles.collects
  obtain ⟨payload, length⟩ := collects.reassembledPayload_eq complete built
  rw [length, collects.tiles_iff complete]
  constructor
  · intro both
    exact both.1
  · intro agree
    refine ⟨agree, ?_⟩
    intro other otherPacket permuted otherReassembles
    obtain ⟨otherDatagram, otherCollects, otherComplete, otherBuilt⟩ := otherReassembles.collects
    rw [payload, (otherCollects.reassembledPayload_eq otherComplete otherBuilt).1]
    exact (payload_eq_of_perm collects complete otherCollects permuted agree).2

end Logs

/-! ### Two ends -/

/-- What is rebuilt from eight zeros and eight bytes of 8. -/
def samplePacket : List UInt8 :=
  [0x45, 0, 0, 36] ++ List.replicate 16 0 ++ List.replicate 8 0 ++ List.replicate 8 8

/-- The log that some fragments leave behind a last one, and the packet that one rebuilds. -/
theorem reassembles_sample (past : List PacketInfo) (last : PacketInfo)
    (own : OwnFragment sampleFragmentKey ⟨last, 1⟩)
    (output : (collecting sampleFragmentKey).output
        ((collecting sampleFragmentKey).run
          (({ maxDatagrams := 1, maxBytes := 64, timeoutSeconds := 30 }, {}), [])
          (past.map fun fragment => ⟨fragment, 1⟩)) ⟨last, 1⟩ =
      (.reassembled samplePacket, past ++ [last])) :
    Reassembles sampleFragmentKey (past ++ [last]) samplePacket :=
  ⟨1, 64, 30, _, {}, _, ⟨last, 1⟩, rfl, own, output⟩

theorem reassembles_tiles_iff_reordered :
    (Tiles [sampleFragment 8 false, sampleFragment 0 true]
        (reassembledPayload [sampleFragment 8 false, sampleFragment 0 true] samplePacket).length ∧
      ∀ other otherPacket, other.Perm [sampleFragment 8 false, sampleFragment 0 true] →
        Reassembles sampleFragmentKey other otherPacket →
        reassembledPayload other otherPacket =
          reassembledPayload [sampleFragment 8 false, sampleFragment 0 true] samplePacket) ↔
      [sampleFragment 8 false, sampleFragment 0 true].Pairwise AgreesWith :=
  reassembles_tiles_iff (reassembles_sample [sampleFragment 8 false] (sampleFragment 0 true)
    (by decide) (by decide +kernel))

/-- A datagram that ends at 24 and then at 16 is reassembled with the fragment beyond 16 left
out. -/
theorem reassembles_twoEnds :
    ¬ ∀ (key : IPv4FragmentKey) (log : List PacketInfo) (packet : List UInt8),
      Reassembles key log packet → Tiles log (reassembledPayload log packet).length := by
  intro always
  have tiles := always _ _ _ (reassembles_sample [sampleFragment 0 true, sampleFragment 16 false]
    (sampleFragment 8 false) (by decide) (by decide +kernel))
  exact absurd (tiles.inside (sampleFragment 16 false) (by decide)) (by decide +kernel)

end MiniSniffer
