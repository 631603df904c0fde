import MiniSniffer.Fragment.Contents

/-!
Contract: the representation invariant of the fragment table.

Owns the operations a capture performs on the table, one fragment or one expiry pass at a time and
in any order, and what every table they lead to looks like: distinct keys within the caps, every
stored byte accounted for, and in each entry sorted ranges that stop within its data. A fragment
leaves every other key's entry as it was unless that entry has expired.

Does not own which bytes an entry holds: see `Fragment.Contents`.
-/

namespace MiniSniffer

open Foundation

/-! ### Operations -/

inductive FragmentOperation where
  | process (fragment : PacketInfo) (now : Nat)
  | expire (now : Nat)
deriving DecidableEq, Repr

/-- Only a processed fragment has a result. -/
def fragmentOperations :
    Machine FragmentState FragmentOperation (Option IPv4FragmentProcessResult) where
  step state operation :=
    match operation with
    | .process fragment now =>
        let processed := ipv4FragmentTableProcess state fragment now
        (processed.1, some processed.2)
    | .expire now => (ipv4FragmentTableExpire state now, none)

/-! ### The invariant -/

/-- Ranges sorted and apart, data up to the last of them, a header of legal length. -/
structure IPv4FragmentDatagram.Wellformed (datagram : IPv4FragmentDatagram) : Prop where
  nonempty : ∀ range ∈ datagram.ranges, range.start < range.stop
  sorted : datagram.ranges.Pairwise fun earlier later => earlier.start < later.start
  disjoint : datagram.ranges.Pairwise Foundation.Interval.Apart
  slots : datagram.ranges.length ≤ minisnifferIpv4FragmentMaxRanges
  capacity : datagram.dataCapacity = largestStop datagram.ranges
  header : 20 ≤ datagram.headerLength ∧ datagram.headerLength ≤ minisnifferMaxIpv4HeaderBytes
  total : datagram.hasLastFragment = true → datagram.totalPayloadLength ≤ datagram.dataCapacity

/-- What holds of the table between any two operations. -/
structure IPv4FragmentTable.Represented (table : IPv4FragmentTable) : Prop
    extends table.Wellformed where
  entries : ∀ datagram ∈ table.datagrams, datagram.Wellformed

/-- The packet is rebuilt from an entry whose payload lies in its data. -/
def RebuiltWithin (packet : List UInt8) : Prop :=
  ∃ complete : IPv4FragmentDatagram, complete.Wellformed ∧ complete.hasLastFragment = true ∧
    buildPacket complete = some packet

/-! ### Entries -/

section Entries

variable {room now : Nat} {datagram : IPv4FragmentDatagram} {fragment : PacketInfo}

theorem IPv4FragmentDatagram.Wellformed.separated (wellformed : datagram.Wellformed) :
    Separated datagram.ranges :=
  separated_iff.mpr ⟨wellformed.nonempty, wellformed.sorted, wellformed.disjoint⟩

theorem freshDatagram_wellformed (acceptable : AcceptableFragment fragment)
    (key : IPv4FragmentKey) (now : Nat) : (freshDatagram fragment key now).Wellformed where
  nonempty := by simp [freshDatagram]
  sorted := List.Pairwise.nil
  disjoint := List.Pairwise.nil
  slots := Nat.zero_le _
  capacity := rfl
  header := acceptable.header_bounds
  total := by simp [freshDatagram]

theorem acceptedDatagram_dataCapacity (datagram : IPv4FragmentDatagram) (fragment : PacketInfo)
    (now : Nat) :
    (acceptedDatagram datagram fragment now).dataCapacity =
      max datagram.dataCapacity (fragmentRange fragment).stop := by
  have grown := dataCapacity_storeFragment
    { adoptFragment datagram fragment now with
      ranges := insertByStart datagram.ranges (fragmentRange fragment) } fragment
  simp only [adoptFragment_data] at grown
  exact grown.trans (by simp [IPv4FragmentDatagram.dataCapacity])

/-- An entry stores an admitted fragment and stays well-formed. -/
theorem IPv4FragmentDatagram.Wellformed.accept (wellformed : datagram.Wellformed)
    (acceptable : AcceptableFragment fragment) (admits : Admits datagram fragment) (now : Nat) :
    (acceptedDatagram datagram fragment now).Wellformed := by
  have separated := separated_iff.mp
    (wellformed.separated.insertByStart admits.1 acceptable.nonempty)
  have inserted := insertByStart_perm datagram.ranges (fragmentRange fragment)
  have capacity := acceptedDatagram_dataCapacity datagram fragment now
  exact
    { nonempty := by
        rw [acceptedDatagram_ranges]
        exact separated.1
      sorted := by
        rw [acceptedDatagram_ranges]
        exact separated.2.1
      disjoint := by
        rw [acceptedDatagram_ranges]
        exact separated.2.2
      slots := by
        rw [acceptedDatagram_ranges, inserted.length_eq, List.length_cons]
        exact admits.2
      capacity := by
        rw [capacity, acceptedDatagram_ranges, largestStop_insertByStart, wellformed.capacity,
          Nat.max_comm]
      header := by
        have adopted := acceptable.header_bounds
        have kept := wellformed.header
        simp only [acceptedDatagram, storeFragment, adoptFragment,
          IPv4FragmentDatagram.headerLength, PacketInfo.ipv4HeaderLength] at adopted kept ⊢
        split_ifs <;> first | exact adopted | exact kept
      total := by
        have within := wellformed.total
        rw [capacity]
        simp only [acceptedDatagram, storeFragment, adoptFragment]
        split_ifs <;> simp only <;> intro ends <;>
          first | exact (within ends).trans (Nat.le_max_left _ _) | exact Nat.le_max_right _ _ }

end Entries

/-! ### Steps -/

section Steps

variable {state : FragmentState} {event : FragmentEvent} {key : IPv4FragmentKey}
variable {datagram : IPv4FragmentDatagram}

theorem IPv4FragmentTable.Represented.expire (represented : state.1.Represented) (now : Nat) :
    (ipv4FragmentTableExpire state now).1.Represented where
  toWellformed := expire_wellformed represented.toWellformed
  entries := by
    intro datagram member
    rw [expire_datagrams] at member
    exact represented.entries datagram (List.mem_of_mem_filter member)

theorem process_entries (represented : state.1.Represented) (event : FragmentEvent) :
    (∀ datagram ∈ (fragmentReassembly.next state event).1.datagrams, datagram.Wellformed) ∧
      ∀ packet, fragmentReassembly.output state event = .reassembled packet →
        ∃ complete : IPv4FragmentDatagram, complete.key = makeKey event.fragment ∧
          complete.Wellformed ∧ coverageIsComplete complete = true ∧
          buildPacket complete = some packet := by
  apply process_holds represented.toWellformed represented.entries
  · intro acceptable
    exact freshDatagram_wellformed acceptable _ _
  · intro datagram acceptable _ wellformed admits
    exact wellformed.accept acceptable admits event.now

theorem process_represented (represented : state.1.Represented) (event : FragmentEvent) :
    (fragmentReassembly.next state event).1.Represented where
  toWellformed := process_wellformed represented.toWellformed event
  entries := (process_entries represented event).1

/-- A rebuilt packet is read from a datagram whose payload lies in its buffer. -/
theorem process_reassembled (represented : state.1.Represented) {packet : List UInt8}
    (reassembled : fragmentReassembly.output state event = .reassembled packet) :
    RebuiltWithin packet := by
  obtain ⟨complete, -, wellformed, covered, built⟩ :=
    (process_entries represented event).2 packet reassembled
  refine ⟨complete, wellformed, ?_, built⟩
  unfold coverageIsComplete at covered
  split_ifs at covered with incomplete
  simp only [Bool.or_eq_true, Bool.not_eq_true', not_or, Bool.not_eq_false] at incomplete
  exact incomplete.1

/-- A fragment leaves another key's entry alone while that entry is not idle. -/
theorem process_frame (represented : state.1.Represented)
    (found : datagramOf state.1 key = some datagram) (other : makeKey event.fragment ≠ key)
    (unexpired : survives state.1.timeoutSeconds event.now datagram = true) :
    datagramOf (fragmentReassembly.next state event).1 key = some datagram := by
  have kept : datagramOf (afterExpiry state event) key = some datagram := by
    rw [datagramOf_afterExpiry represented.toWellformed, found]
    split_ifs
    · exact Option.filter_some_pos unexpired
    · rfl
  by_cases acceptable : AcceptableFragment event.fragment
  · obtain ⟨-, -, -, entries⟩ := process_acceptable represented.toWellformed acceptable
    rw [entries, if_neg other]
    exact kept
  · rw [(process_unacceptable acceptable).1]
    exact kept

theorem operation_represented (represented : state.1.Represented)
    (operation : FragmentOperation) :
    (fragmentOperations.next state operation).1.Represented := by
  cases operation with
  | process fragment now => exact process_represented represented ⟨fragment, now⟩
  | expire now => exact represented.expire now

theorem ipv4FragmentTableInit_represented {maxDatagrams maxBytes timeoutSeconds : Nat}
    {initial : IPv4FragmentTable}
    (started : ipv4FragmentTableInit maxDatagrams maxBytes timeoutSeconds = some initial) :
    initial.Represented := by
  unfold ipv4FragmentTableInit at started
  split at started
  · contradiction
  · rw [← Option.some.inj started]
    exact
      { distinct := List.nodup_nil
        bounded := Nat.zero_le _
        accounted := rfl
        capped := Nat.zero_le _
        entries := by simp }

end Steps

/-! ### Every reachable table -/

section Runs

variable {state : FragmentState} {initial : IPv4FragmentTable}

theorem operation_limits_eq (wellformed : state.1.Wellformed) (operation : FragmentOperation) :
    (fragmentOperations.next state operation).1.limits = state.1.limits := by
  cases operation with
  | process fragment now => exact process_limits wellformed ⟨fragment, now⟩
  | expire now => exact expire_limits

/-- Every table that fragments and expiry passes lead to is represented within the caps it was
initialised with, rebuilds packets only from entries that hold their whole payload, and changes no
unexpired entry for a fragment of another key. -/
theorem fragment_table_invariant {maxDatagrams maxBytes timeoutSeconds : Nat}
    (stats : PacketStats)
    (started : ipv4FragmentTableInit maxDatagrams maxBytes timeoutSeconds = some initial)
    (reached : fragmentOperations.Reachable (initial, stats) state) :
    state.1.Represented ∧ state.1.limits = (maxDatagrams, maxBytes, timeoutSeconds) ∧
      ∀ event,
        (∀ packet, fragmentReassembly.output state event = .reassembled packet →
          RebuiltWithin packet) ∧
        ∀ key datagram, makeKey event.fragment ≠ key → datagramOf state.1 key = some datagram →
          survives state.1.timeoutSeconds event.now datagram = true →
          datagramOf (fragmentReassembly.next state event).1 key = some datagram := by
  have limits : initial.limits = (maxDatagrams, maxBytes, timeoutSeconds) := by
    unfold ipv4FragmentTableInit at started
    split at started
    · contradiction
    · rw [← Option.some.inj started]
      rfl
  have kept : ∀ (state : FragmentState) operation,
      state.1.Represented ∧ state.1.limits = (maxDatagrams, maxBytes, timeoutSeconds) →
      (fragmentOperations.next state operation).1.Represented ∧
        (fragmentOperations.next state operation).1.limits =
          (maxDatagrams, maxBytes, timeoutSeconds) := by
    intro state operation holds
    refine ⟨operation_represented holds.1 operation, ?_⟩
    rw [operation_limits_eq holds.1.toWellformed]
    exact holds.2
  have holds := Machine.Reachable.invariant kept
    ⟨ipv4FragmentTableInit_represented started, limits⟩ reached
  refine ⟨holds.1, holds.2, ?_⟩
  intro event
  constructor
  · intro packet reassembled
    exact process_reassembled holds.1 reassembled
  · intro key datagram other found unexpired
    exact process_frame holds.1 found other unexpired

/-- The two ends of a datagram, with an expiry pass between them. -/
def sampleOperations : List FragmentOperation :=
  [.process (sampleFragment 16 false) 1, .expire 2, .process (sampleFragment 0 true) 3]

theorem fragment_table_invariant_sampleOperations :
    (fragmentOperations.run ({ maxDatagrams := 2, maxBytes := 64, timeoutSeconds := 30 }, {})
        sampleOperations).1.Represented ∧
      ∀ packet, fragmentReassembly.output
          (fragmentOperations.run ({ maxDatagrams := 2, maxBytes := 64, timeoutSeconds := 30 }, {})
            sampleOperations) ⟨sampleFragment 8 true, 4⟩ = .reassembled packet →
        RebuiltWithin packet := by
  have started : ipv4FragmentTableInit 2 64 30 =
      some { maxDatagrams := 2, maxBytes := 64, timeoutSeconds := 30 } := by decide
  have holds := fragment_table_invariant {} started ⟨sampleOperations, rfl⟩
  exact ⟨holds.1, (holds.2.2 ⟨sampleFragment 8 true, 4⟩).1⟩

end Runs

end MiniSniffer
