import MiniSniffer.Fragment.Invariant

/-!
Contract: what the fragment counters add up to.

Owns the ledger of the fragment table: every fragment counted as seen is settled once, as malformed,
dropped, part of a datagram that was rebuilt or part of one that expired, or still waits in a
datagram. Rebuilt and expired datagrams are counted once for all their fragments, so the counters
and the waiting fragments never exceed what was seen.

Does not own which fragments are malformed or dropped: see `Fragment.Table`.
-/

namespace MiniSniffer

open Foundation

/-! ### The ledger -/

/-- The fragments that wait in the table. -/
def waitingFragments (table : IPv4FragmentTable) : Nat :=
  (table.datagrams.map fun datagram => datagram.ranges.length).sum

/-- What the four outcomes counted. -/
def settledFragments (stats : PacketStats) : Nat :=
  stats.ipv4FragmentsReassembled.toNat + stats.ipv4FragmentsExpired.toNat +
    stats.ipv4FragmentsMalformed.toNat + stats.ipv4FragmentsDropped.toNat

/-- No datagram is empty, and no more is settled or waits than was seen, which is at most
`count`. -/
structure FragmentLedger (count : Nat) (state : FragmentState) : Prop where
  represented : state.1.Represented
  occupied : ∀ datagram ∈ state.1.datagrams, datagram.ranges ≠ []
  balanced : settledFragments state.2 + waitingFragments state.1 ≤
    state.2.ipv4FragmentsSeen.toNat
  seen_le : state.2.ipv4FragmentsSeen.toNat ≤ count

section Ledger

variable {table : IPv4FragmentTable} {stats : PacketStats} {state : FragmentState}
variable {datagram stored : IPv4FragmentDatagram} {fragment : PacketInfo} {index count now : Nat}

theorem toNat_add_one {counter : UInt32} (room : counter.toNat + 1 < 2 ^ 32) :
    (counter + 1).toNat = counter.toNat + 1 := by
  have one : (1 : UInt32).toNat = 1 := rfl
  rw [UInt32.toNat_add, one, Nat.mod_eq_of_lt room]

/-! ### Slots -/

theorem waitingFragments_remove (slot : table.datagrams[index]? = some datagram) :
    waitingFragments (removeDatagramAt table index) + datagram.ranges.length =
      waitingFragments table := by
  obtain ⟨bound, rfl⟩ := List.getElem?_eq_some_iff.mp slot
  have perm := (List.getElem_cons_eraseIdx_perm bound).map fun datagram : IPv4FragmentDatagram =>
    datagram.ranges.length
  have total := perm.sum_eq
  rw [List.map_cons, List.sum_cons] at total
  unfold waitingFragments
  rw [removeDatagramAt_datagrams]
  omega

theorem waitingFragments_remove_le (table : IPv4FragmentTable) (index : Nat) :
    waitingFragments (removeDatagramAt table index) ≤ waitingFragments table := by
  cases slot : table.datagrams[index]? with
  | none => rw [removeDatagramAt, slot]
  | some datagram =>
      have taken := waitingFragments_remove slot
      omega

/-- A datagram written back with one more range holds one more fragment. -/
theorem waitingFragments_write (usedBytes : Nat) (slot : table.datagrams[index]? = some datagram)
    (longer : stored.ranges.length = datagram.ranges.length + 1) :
    waitingFragments { table with
      usedBytes := usedBytes
      datagrams := table.datagrams.set index stored } = waitingFragments table + 1 := by
  obtain ⟨bound, rfl⟩ := List.getElem?_eq_some_iff.mp slot
  have before := (List.getElem_cons_eraseIdx_perm bound).map fun datagram : IPv4FragmentDatagram =>
    datagram.ranges.length
  have after := (List.set_perm_cons_eraseIdx bound stored).map
    fun datagram : IPv4FragmentDatagram => datagram.ranges.length
  have beforeTotal := before.sum_eq
  have afterTotal := after.sum_eq
  rw [List.map_cons, List.sum_cons] at beforeTotal afterTotal
  show ((table.datagrams.set index stored).map fun datagram => datagram.ranges.length).sum = _
  unfold waitingFragments
  omega

/-! ### Expiry -/

/-- Each expired datagram settles once and takes at least one fragment with it. -/
theorem expire_ledger (occupied : ∀ datagram ∈ state.1.datagrams, datagram.ranges ≠ [])
    (fits : settledFragments state.2 + waitingFragments state.1 < 2 ^ 32) :
    (∀ datagram ∈ (ipv4FragmentTableExpire state now).1.datagrams, datagram.ranges ≠ []) ∧
      settledFragments (ipv4FragmentTableExpire state now).2 +
          waitingFragments (ipv4FragmentTableExpire state now).1 ≤
        settledFragments state.2 + waitingFragments state.1 ∧
      (ipv4FragmentTableExpire state now).2.ipv4FragmentsSeen = state.2.ipv4FragmentsSeen := by
  unfold ipv4FragmentTableExpire
  split
  · exact ⟨occupied, Nat.le_refl _, rfl⟩
  · apply sweep_invariant fun current : FragmentState =>
      (∀ datagram ∈ current.1.datagrams, datagram.ranges ≠ []) ∧
        settledFragments current.2 + waitingFragments current.1 ≤
          settledFragments state.2 + waitingFragments state.1 ∧
        current.2.ipv4FragmentsSeen = state.2.ipv4FragmentsSeen
    · intro current index datagram slot _ holds
      have taken := waitingFragments_remove slot
      have several : 0 < datagram.ranges.length :=
        List.length_pos_iff.mpr (holds.1 datagram (List.mem_of_getElem? slot))
      have bounded := holds.2.1
      have counted : settledFragments (expireAt current index).2 =
          settledFragments current.2 + 1 := by
        have room : current.2.ipv4FragmentsExpired.toNat + 1 < 2 ^ 32 := by
          unfold settledFragments at bounded fits
          omega
        simp only [settledFragments, expireAt, toNat_add_one room]
        omega
      refine ⟨?_, ?_, holds.2.2⟩
      · intro other member
        apply holds.1 other
        have kept : other ∈ (removeDatagramAt current.1 index).datagrams := member
        rw [removeDatagramAt_datagrams] at kept
        exact List.mem_of_mem_eraseIdx kept
      · rw [counted]
        show _ + waitingFragments (removeDatagramAt current.1 index) ≤ _
        omega
    · exact ⟨occupied, Nat.le_refl _, rfl⟩

/-! ### One fragment -/

/-- A fragment that finds its datagram settles once, or waits in it. -/
theorem acceptFragment_ledger (wellformed : table.Wellformed)
    (slot : table.datagrams[index]? = some datagram)
    (fits : settledFragments stats + 1 < 2 ^ 32) (fragment : PacketInfo) (now : Nat) :
    let next := (acceptFragment table stats index datagram fragment now).1
    settledFragments next.2 + waitingFragments next.1 ≤
        settledFragments stats + waitingFragments table + 1 ∧
      next.2.ipv4FragmentsSeen = stats.ipv4FragmentsSeen := by
  intro next
  have removed := waitingFragments_remove_le table index
  unfold settledFragments at fits
  have malformedRoom : stats.ipv4FragmentsMalformed.toNat + 1 < 2 ^ 32 := by omega
  have droppedRoom : stats.ipv4FragmentsDropped.toNat + 1 < 2 ^ 32 := by omega
  have reassembledRoom : stats.ipv4FragmentsReassembled.toNat + 1 < 2 ^ 32 := by omega
  simp only [next, acceptFragment]
  cases admitted : admitRange (adoptFragment datagram fragment now) (fragmentRange fragment).start
      (fragmentRange fragment).stop with
  | none =>
      simp only [settledFragments, toNat_add_one malformedRoom]
      exact ⟨by omega, trivial⟩
  | some ranged =>
      have rangedEq := (admitRange_eq_some_iff.mp admitted).2.2
      have longer : ranged.ranges.length = datagram.ranges.length + 1 := by
        rw [← rangedEq]
        simp [(insertByStart_perm _ _).length_eq]
      simp only [ensureCapacity_eq wellformed.capped]
      split
      next refused =>
        split at refused
        · simp only [settledFragments, toNat_add_one droppedRoom]
          exact ⟨by omega, trivial⟩
        · contradiction
      next grownTable grown accepted =>
        split at accepted
        · contradiction
        · obtain ⟨tableEq, grownEq⟩ := Prod.mk.inj (Option.some.inj accepted)
          have storedLonger : (storeFragment grown fragment).ranges.length =
              datagram.ranges.length + 1 := by
            rw [← longer, ← grownEq]
            simp only [storeFragment]
            split <;> rfl
          have written := waitingFragments_write
            (table.usedBytes + ((fragmentRange fragment).stop - ranged.dataCapacity)) slot
            storedLonger
          have bound := (List.getElem?_eq_some_iff.mp slot).1
          have taken := @waitingFragments_remove { table with
            usedBytes := table.usedBytes + ((fragmentRange fragment).stop - ranged.dataCapacity)
            datagrams := table.datagrams.set index (storeFragment grown fragment) } _ index
            (List.getElem?_set_self bound)
          rw [← tableEq]
          generalize ({ table with
            usedBytes := table.usedBytes + ((fragmentRange fragment).stop - ranged.dataCapacity)
            datagrams := table.datagrams.set index (storeFragment grown fragment) } :
              IPv4FragmentTable) = stored at written taken ⊢
          split
          · split
            · simp only [settledFragments, toNat_add_one droppedRoom]
              exact ⟨by omega, trivial⟩
            · simp only [settledFragments, toNat_add_one reassembledRoom]
              exact ⟨by omega, trivial⟩
          · exact ⟨Nat.le_of_eq (by rw [written, Nat.add_assoc]), rfl⟩

/-- Whatever becomes of a fragment, the datagrams left all hold one. -/
theorem process_occupied (represented : state.1.Represented)
    (occupied : ∀ datagram ∈ state.1.datagrams, datagram.ranges ≠ []) (event : FragmentEvent) :
    ∀ datagram ∈ (fragmentReassembly.next state event).1.datagrams, datagram.ranges ≠ [] := by
  have expired : ∀ datagram ∈ (afterExpiry state event).datagrams, datagram.ranges ≠ [] := by
    intro datagram member
    unfold afterExpiry at member
    split at member
    · rw [expire_datagrams] at member
      exact occupied datagram (List.mem_of_mem_filter member)
    · exact occupied datagram member
  by_cases acceptable : AcceptableFragment event.fragment
  · have step := process_acceptable represented.toWellformed acceptable
    intro datagram member
    have found : datagramOf (fragmentReassembly.next state event).1 datagram.key = some datagram :=
      step.2.1.distinct.lookup_eq_some_iff.mpr ⟨member, rfl⟩
    rw [step.2.2.2] at found
    split at found
    · -- the fragment's own datagram, with the fragment in it
      have accepted : ∀ (room : Nat) (held : IPv4FragmentDatagram),
          (acceptDatagram room held event.fragment event.now).1 = some datagram →
            datagram.ranges ≠ [] := by
        intro room held stored
        have queued := acceptDatagram_eq_some_iff.mp (Prod.ext_iff.mpr ⟨stored, rfl⟩)
        rw [queued.2.2.2.1, acceptedDatagram_ranges]
        intro empty
        have size := (insertByStart_perm held.ranges (fragmentRange event.fragment)).length_eq
        rw [empty] at size
        contradiction
      unfold processEntry at found
      split at found
      · exact accepted _ _ found
      · split at found
        · contradiction
        · exact accepted _ _ found
    · exact expired datagram (lookup_mem found)
  · rw [(process_unacceptable acceptable).1]
    exact expired

/-- A processed fragment is seen once and settles or waits once. -/
theorem FragmentLedger.process (ledger : FragmentLedger count state) (room : count + 1 < 2 ^ 32)
    (fragment : PacketInfo) (now : Nat) :
    FragmentLedger (count + 1) (ipv4FragmentTableProcess state fragment now).1 := by
  have occupied := process_occupied ledger.represented ledger.occupied ⟨fragment, now⟩
  have represented := process_represented ledger.represented ⟨fragment, now⟩
  have balanced := ledger.balanced
  have seenBefore := ledger.seen_le
  suffices counted :
      settledFragments (ipv4FragmentTableProcess state fragment now).1.2 +
          waitingFragments (ipv4FragmentTableProcess state fragment now).1.1 ≤
        (ipv4FragmentTableProcess state fragment now).1.2.ipv4FragmentsSeen.toNat ∧
      (ipv4FragmentTableProcess state fragment now).1.2.ipv4FragmentsSeen.toNat ≤ count + 1 from
    ⟨represented, occupied, counted.1, counted.2⟩
  unfold ipv4FragmentTableProcess
  split
  · exact ⟨balanced, seenBefore.trans (Nat.le_succ count)⟩
  · have seen : (state.2.ipv4FragmentsSeen + 1).toNat = state.2.ipv4FragmentsSeen.toNat + 1 :=
      toNat_add_one (by omega)
    have expired := @expire_ledger
      (state.1, { state.2 with ipv4FragmentsSeen := state.2.ipv4FragmentsSeen + 1 }) now
      ledger.occupied (show settledFragments state.2 + waitingFragments state.1 < 2 ^ 32 by omega)
    have wellformed := @expire_wellformed
      (state.1, { state.2 with ipv4FragmentsSeen := state.2.ipv4FragmentsSeen + 1 }) now
      ledger.represented.toWellformed
    dsimp only
    generalize ipv4FragmentTableExpire
      (state.1, { state.2 with ipv4FragmentsSeen := state.2.ipv4FragmentsSeen + 1 }) now = swept
      at expired wellformed ⊢
    have sweptSeen : swept.2.ipv4FragmentsSeen.toNat = state.2.ipv4FragmentsSeen.toNat + 1 := by
      rw [expired.2.2]
      exact seen
    have sweptBalanced : settledFragments swept.2 + waitingFragments swept.1 ≤
        state.2.ipv4FragmentsSeen.toNat := expired.2.1.trans balanced
    have fits : settledFragments swept.2 + 1 < 2 ^ 32 := by omega
    have malformedRoom : swept.2.ipv4FragmentsMalformed.toNat + 1 < 2 ^ 32 := by
      unfold settledFragments at fits
      omega
    have droppedRoom : swept.2.ipv4FragmentsDropped.toNat + 1 < 2 ^ 32 := by
      unfold settledFragments at fits
      omega
    have seenLe : swept.2.ipv4FragmentsSeen.toNat ≤ count + 1 := by omega
    clear expired
    have dropped : settledFragments
        { swept.2 with ipv4FragmentsDropped := swept.2.ipv4FragmentsDropped + 1 } =
          settledFragments swept.2 + 1 := by
      simp only [settledFragments, toNat_add_one droppedRoom]
      omega
    split
    · have malformed : settledFragments
          { swept.2 with ipv4FragmentsMalformed := swept.2.ipv4FragmentsMalformed + 1 } =
            settledFragments swept.2 + 1 := by
        simp only [settledFragments, toNat_add_one malformedRoom]
        omega
      show settledFragments { swept.2 with
          ipv4FragmentsMalformed := swept.2.ipv4FragmentsMalformed + 1 } +
          waitingFragments swept.1 ≤
        swept.2.ipv4FragmentsSeen.toNat ∧ swept.2.ipv4FragmentsSeen.toNat ≤ count + 1
      rw [malformed]
      exact ⟨by omega, seenLe⟩
    · cases found : position IPv4FragmentDatagram.key swept.1.datagrams (makeKey fragment) with
      | some index =>
          obtain ⟨datagram, slot, -⟩ := lookup_of_position found
          have accepted := acceptFragment_ledger wellformed slot fits fragment now
          simp only [findOrCreateDatagram, found, slot]
          rw [accepted.2]
          exact ⟨by omega, seenLe⟩
      | none =>
          simp only [findOrCreateDatagram, createDatagram, found]
          by_cases full : swept.1.datagrams.length ≥ swept.1.maxDatagrams
          · rw [if_pos full]
            show settledFragments { swept.2 with
                ipv4FragmentsDropped := swept.2.ipv4FragmentsDropped + 1 } +
              waitingFragments swept.1 ≤ swept.2.ipv4FragmentsSeen.toNat ∧
                swept.2.ipv4FragmentsSeen.toNat ≤ count + 1
            rw [dropped]
            exact ⟨by omega, seenLe⟩
          · rw [if_neg full]
            have opened := @IPv4FragmentTable.Wellformed.opened swept.1 wellformed
              (Nat.lt_of_not_le full) (freshDatagram fragment (makeKey fragment) now)
              (position_eq_none_iff.mp found) rfl
            have slot : (swept.1.datagrams ++ [freshDatagram fragment (makeKey fragment) now])[
                swept.1.datagrams.length]? =
                  some (freshDatagram fragment (makeKey fragment) now) := by simp
            have accepted := acceptFragment_ledger opened slot fits fragment now
            have waiting : waitingFragments { swept.1 with
                datagrams := swept.1.datagrams ++
                  [freshDatagram fragment (makeKey fragment) now] } =
                  waitingFragments swept.1 := by
              simp [waitingFragments, freshDatagram]
            rw [waiting] at accepted
            simp only [Option.map_some, slot]
            rw [accepted.2]
            exact ⟨by omega, seenLe⟩

end Ledger

end MiniSniffer
