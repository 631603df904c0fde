import MiniSniffer.Fragment.Table

/-!
Contract: the fragment table as a map from keys to incomplete datagrams.

Owns what one processed fragment does to the table, said once: after expiry every
datagram of another key stays, and the fragment's own datagram becomes what
`acceptDatagram` makes of it, a function of that datagram, the fragment and the
bytes left under the cap. With it comes the table invariant: distinct keys, both
caps, and byte accounting.

Does not own what a datagram's contents mean: see `Fragment.Contents`.
-/

namespace MiniSniffer

open Foundation

/-- The incomplete datagram with a key. -/
def datagramOf (table : IPv4FragmentTable) (key : IPv4FragmentKey) : Option IPv4FragmentDatagram :=
  lookup IPv4FragmentDatagram.key table.datagrams key

def IPv4FragmentTable.limits (table : IPv4FragmentTable) : Nat × Nat × Nat :=
  (table.maxDatagrams, table.maxBytes, table.timeoutSeconds)

/-- Distinct keys within the caps, every stored byte accounted for. -/
structure IPv4FragmentTable.Wellformed (table : IPv4FragmentTable) : Prop where
  distinct : DistinctKeys IPv4FragmentDatagram.key table.datagrams
  bounded : table.datagrams.length ≤ table.maxDatagrams
  accounted :
    table.usedBytes = (table.datagrams.map IPv4FragmentDatagram.dataCapacity).sum
  capped : table.usedBytes ≤ table.maxBytes

/-! ### Changing one slot -/

section Slots

variable {table : IPv4FragmentTable} {index : Nat} {datagram : IPv4FragmentDatagram}
variable {key : IPv4FragmentKey}

theorem removeDatagramAt_datagrams :
    (removeDatagramAt table index).datagrams = table.datagrams.eraseIdx index := by
  unfold removeDatagramAt
  split
  next missing => rw [List.eraseIdx_of_length_le (List.getElem?_eq_none_iff.mp missing)]
  next => rfl

@[simp] theorem removeDatagramAt_limits :
    (removeDatagramAt table index).limits = table.limits := by
  unfold removeDatagramAt
  split <;> rfl

/-- The stored bytes, split at one slot. -/
theorem sum_dataCapacity (slot : table.datagrams[index]? = some datagram) :
    (table.datagrams.map IPv4FragmentDatagram.dataCapacity).sum = datagram.dataCapacity +
      ((table.datagrams.eraseIdx index).map IPv4FragmentDatagram.dataCapacity).sum := by
  obtain ⟨bound, rfl⟩ := List.getElem?_eq_some_iff.mp slot
  have perm := (List.getElem_cons_eraseIdx_perm bound).map IPv4FragmentDatagram.dataCapacity
  rw [← perm.sum_eq, List.map_cons, List.sum_cons]

theorem IPv4FragmentTable.Wellformed.remove (wellformed : table.Wellformed) (index : Nat) :
    (removeDatagramAt table index).Wellformed := by
  have limits := @removeDatagramAt_limits table index
  simp only [IPv4FragmentTable.limits, Prod.mk.injEq] at limits
  cases slot : table.datagrams[index]? with
  | none =>
      rw [removeDatagramAt, slot]
      exact wellformed
  | some datagram =>
      have split := sum_dataCapacity slot
      have accounted := wellformed.accounted
      have capped := wellformed.capped
      have used : (removeDatagramAt table index).usedBytes =
          table.usedBytes - datagram.dataCapacity := by
        rw [removeDatagramAt, slot]
      exact
        { distinct := by
            rw [removeDatagramAt_datagrams]
            exact wellformed.distinct.eraseIdx index
          bounded := by
            rw [removeDatagramAt_datagrams, limits.1]
            exact (List.eraseIdx_sublist _ _).length_le.trans wellformed.bounded
          accounted := by
            rw [used, removeDatagramAt_datagrams]
            omega
          capped := by
            rw [used, limits.2.1]
            omega }

theorem datagramOf_remove (wellformed : table.Wellformed)
    (slot : table.datagrams[index]? = some datagram) :
    datagramOf (removeDatagramAt table index) key =
      if datagram.key = key then none else datagramOf table key := by
  rw [datagramOf, removeDatagramAt_datagrams]
  exact lookup_eraseIdx wellformed.distinct slot

/-- A datagram written back with the bytes it grew by. -/
theorem IPv4FragmentTable.Wellformed.write (wellformed : table.Wellformed)
    (slot : table.datagrams[index]? = some datagram) {stored : IPv4FragmentDatagram}
    (sameKey : stored.key = datagram.key) {usedBytes : Nat}
    (used : usedBytes + datagram.dataCapacity = table.usedBytes + stored.dataCapacity)
    (capped : usedBytes ≤ table.maxBytes) :
    { table with
      usedBytes := usedBytes
      datagrams := table.datagrams.set index stored : IPv4FragmentTable }.Wellformed := by
  obtain ⟨bound, -⟩ := List.getElem?_eq_some_iff.mp slot
  have split := sum_dataCapacity slot
  have accounted := wellformed.accounted
  have written := ((List.set_perm_cons_eraseIdx bound stored).map
    IPv4FragmentDatagram.dataCapacity).sum_eq
  rw [List.map_cons, List.sum_cons] at written
  exact
    { distinct := wellformed.distinct.set slot sameKey
      bounded := by simpa using wellformed.bounded
      accounted := by
        show usedBytes = _
        rw [written]
        omega
      capped := capped }

end Slots

/-! ### Expiry -/

section Expiry

variable {state : FragmentState} {now : Nat} {key : IPv4FragmentKey}

/-- The datagrams that outlive an expiry pass. -/
def survives (timeoutSeconds now : Nat) (datagram : IPv4FragmentDatagram) : Bool :=
  timeoutSeconds = 0 || !datagramIsIdle timeoutSeconds now datagram

theorem expire_datagrams :
    (ipv4FragmentTableExpire state now).1.datagrams =
      state.1.datagrams.filter (survives state.1.timeoutSeconds now) := by
  unfold ipv4FragmentTableExpire survives
  split
  next never => simp [never]
  next expires =>
    have kept := @entries_sweep FragmentState _ (fun current => current.1.datagrams)
      (datagramIsIdle state.1.timeoutSeconds now) expireAt
      (fun current index => removeDatagramAt_datagrams) state
    rw [kept]
    simp [expires]

theorem expire_wellformed (wellformed : state.1.Wellformed) :
    (ipv4FragmentTableExpire state now).1.Wellformed := by
  unfold ipv4FragmentTableExpire
  split
  · exact wellformed
  · exact sweep_invariant (fun current : FragmentState => current.1.Wellformed)
      (fun current index entry _ _ holds => holds.remove index) wellformed

@[simp] theorem expire_limits : (ipv4FragmentTableExpire state now).1.limits = state.1.limits := by
  unfold ipv4FragmentTableExpire
  split
  · rfl
  · exact sweep_invariant (fun current : FragmentState => current.1.limits = state.1.limits)
      (fun current index entry _ _ holds => removeDatagramAt_limits.trans holds) rfl

theorem datagramOf_expire (wellformed : state.1.Wellformed) :
    datagramOf (ipv4FragmentTableExpire state now).1 key =
      (datagramOf state.1 key).filter (survives state.1.timeoutSeconds now) := by
  rw [datagramOf, expire_datagrams]
  exact lookup_filter wellformed.distinct _

end Expiry

/-! ### The fragment's own datagram -/

/-- What becomes of a datagram that accepts a fragment, with `room` bytes left under the cap. -/
def acceptDatagram (room : Nat) (datagram : IPv4FragmentDatagram) (fragment : PacketInfo)
    (now : Nat) : Option IPv4FragmentDatagram × IPv4FragmentProcessResult :=
  let range := fragmentRange fragment
  match admitRange (adoptFragment datagram fragment now) range.start range.stop with
  | none => (none, .malformed)
  | some ranged =>
      if range.stop > datagram.dataCapacity + room then (none, .dropped)
      else
        let stored := storeFragment { ranged with data := growTo 0 ranged.data range.stop } fragment
        if coverageIsComplete stored then
          match buildPacket stored with
          | none => (none, .dropped)
          | some packet => (none, .reassembled packet)
        else (some stored, .queued)

section Accept

variable {table : IPv4FragmentTable} {stats : PacketStats} {index now room capacity : Nat}
variable {datagram ranged : IPv4FragmentDatagram} {fragment : PacketInfo} {start stop : Nat}

@[simp] theorem adoptFragment_key :
    (adoptFragment datagram fragment now).key = datagram.key := by
  unfold adoptFragment
  split <;> rfl

@[simp] theorem adoptFragment_data :
    (adoptFragment datagram fragment now).data = datagram.data := by
  unfold adoptFragment
  split <;> rfl

@[simp] theorem adoptFragment_ranges :
    (adoptFragment datagram fragment now).ranges = datagram.ranges := by
  unfold adoptFragment
  split <;> rfl

@[simp] theorem storeFragment_key : (storeFragment datagram fragment).key = datagram.key := by
  simp only [storeFragment]
  split <;> rfl

@[simp] theorem storeFragment_data :
    (storeFragment datagram fragment).data =
      patch datagram.data fragment.ipv4FragmentOffset (fragmentBytes fragment) := by
  simp only [storeFragment]
  split <;> rfl

theorem length_fragmentBytes (fragment : PacketInfo) :
    (fragmentBytes fragment).length = fragment.ipv4FragmentPayloadLength := by
  unfold fragmentBytes PacketInfo.ipv4FragmentPayloadLength
  split <;> simp_all

/-- A range is admitted apart from the others and under the cap on ranges, and nothing else
changes. -/
theorem admitRange_eq_some_iff :
    admitRange datagram start stop = some ranged ↔
      (∀ other ∈ datagram.ranges, Foundation.Interval.Apart ⟨start, stop⟩ other) ∧
      datagram.ranges.length < minisnifferIpv4FragmentMaxRanges ∧
      { datagram with ranges := insertByStart datagram.ranges ⟨start, stop⟩ } = ranged := by
  rw [← overlapsAny_eq_false_iff]
  unfold admitRange addRange rangeOverlaps
  cases overlapsAny datagram.ranges ⟨start, stop⟩ <;> simp

theorem growTo_of_le (fits : capacity ≤ datagram.data.length) :
    growTo 0 datagram.data capacity = datagram.data := by
  rw [growTo, Nat.sub_eq_zero_of_le fits]
  simp

/-- Under the byte cap, growing succeeds exactly if the missing bytes are left. -/
theorem ensureCapacity_eq (capped : table.usedBytes ≤ table.maxBytes) :
    ensureCapacity table datagram capacity =
      if capacity > datagram.dataCapacity + (table.maxBytes - table.usedBytes) then none
      else
        some ({ table with
            usedBytes := table.usedBytes + (capacity - datagram.dataCapacity) },
          { datagram with data := growTo 0 datagram.data capacity }) := by
  unfold ensureCapacity
  by_cases fits : capacity ≤ datagram.dataCapacity
  · rw [if_pos fits, if_neg (by omega), growTo_of_le fits, Nat.sub_eq_zero_of_le fits]
    rfl
  · rw [if_neg fits]
    by_cases full : capacity > datagram.dataCapacity + (table.maxBytes - table.usedBytes)
    · rw [if_pos full, if_pos]
      simp only [Bool.or_eq_true, decide_eq_true_eq]
      omega
    · rw [if_neg full, if_neg]
      simp only [Bool.or_eq_true, decide_eq_true_eq]
      omega

theorem dataCapacity_storeFragment (datagram : IPv4FragmentDatagram) (fragment : PacketInfo) :
    (storeFragment
      { datagram with data := growTo 0 datagram.data (fragmentRange fragment).stop }
      fragment).dataCapacity = max datagram.dataCapacity (fragmentRange fragment).stop := by
  rw [IPv4FragmentDatagram.dataCapacity, storeFragment_data, length_patch, length_growTo]
  · rfl
  · rw [length_fragmentBytes, length_growTo]
    exact Nat.le_max_right _ _

/-- What one accepted fragment does to the table. -/
theorem acceptFragment_spec (wellformed : table.Wellformed)
    (slot : table.datagrams[index]? = some datagram) (stats : PacketStats) (fragment : PacketInfo)
    (now : Nat) :
    let outcome := acceptDatagram (table.maxBytes - table.usedBytes) datagram fragment now
    let next := acceptFragment table stats index datagram fragment now
    next.2 = outcome.2 ∧ next.1.1.Wellformed ∧ next.1.1.limits = table.limits ∧
      ∀ key, datagramOf next.1.1 key =
        if datagram.key = key then outcome.1 else datagramOf table key := by
  intro outcome next
  have removed : (removeDatagramAt table index).Wellformed ∧
      (removeDatagramAt table index).limits = table.limits ∧
      ∀ key, datagramOf (removeDatagramAt table index) key =
        if datagram.key = key then none else datagramOf table key :=
    ⟨wellformed.remove index, removeDatagramAt_limits, fun key => datagramOf_remove wellformed slot⟩
  simp only [outcome, next, acceptDatagram, acceptFragment]
  cases admitted : admitRange (adoptFragment datagram fragment now) (fragmentRange fragment).start
      (fragmentRange fragment).stop with
  | none => exact ⟨rfl, removed⟩
  | some ranged =>
      obtain ⟨-, -, rangedEq⟩ := admitRange_eq_some_iff.mp admitted
      have rangedKey : ranged.key = datagram.key := by simp [← rangedEq]
      have rangedCapacity : ranged.dataCapacity = datagram.dataCapacity := by
        simp [← rangedEq, IPv4FragmentDatagram.dataCapacity]
      simp only [ensureCapacity_eq wellformed.capped, rangedCapacity]
      by_cases full : (fragmentRange fragment).stop >
          datagram.dataCapacity + (table.maxBytes - table.usedBytes)
      · simp only [if_pos full]
        exact ⟨trivial, removed⟩
      · simp only [if_neg full]
        have storedKey : (storeFragment
            { ranged with data := growTo 0 ranged.data (fragmentRange fragment).stop }
            fragment).key = datagram.key := by
          rw [storeFragment_key]
          exact rangedKey
        have storedCapacity := dataCapacity_storeFragment ranged fragment
        generalize storeFragment
          { ranged with data := growTo 0 ranged.data (fragmentRange fragment).stop } fragment =
            stored at storedKey storedCapacity
        have capped := wellformed.capped
        -- the table with the datagram written back
        obtain ⟨written, writtenDef⟩ : ∃ written : IPv4FragmentTable,
            written = { table with
              usedBytes := table.usedBytes +
                ((fragmentRange fragment).stop - datagram.dataCapacity)
              datagrams := table.datagrams.set index stored } := ⟨_, rfl⟩
        have writtenWellformed : written.Wellformed := by
          rw [writtenDef]
          exact wellformed.write slot storedKey (by omega) (by omega)
        have bound := (List.getElem?_eq_some_iff.mp slot).1
        have writtenSlot : written.datagrams[index]? = some stored := by
          rw [writtenDef]
          exact List.getElem?_set_self bound
        have writtenLimits : written.limits = table.limits := by
          rw [writtenDef]
          rfl
        have writtenLookup : ∀ key, datagramOf written key =
            if datagram.key = key then some stored else datagramOf table key := by
          intro key
          rw [writtenDef]
          exact lookup_set wellformed.distinct slot storedKey
        have emptied : (removeDatagramAt written index).Wellformed ∧
            (removeDatagramAt written index).limits = table.limits ∧
            ∀ key, datagramOf (removeDatagramAt written index) key =
              if datagram.key = key then none else datagramOf table key := by
          refine ⟨writtenWellformed.remove index, removeDatagramAt_limits.trans writtenLimits, ?_⟩
          intro key
          rw [datagramOf_remove writtenWellformed writtenSlot, storedKey, writtenLookup]
          split_ifs <;> rfl
        rw [← writtenDef]
        by_cases complete : coverageIsComplete stored = true
        · simp only [if_pos complete]
          cases buildPacket stored with
          | none => exact ⟨rfl, emptied⟩
          | some packet => exact ⟨rfl, emptied⟩
        · simp only [if_neg complete]
          exact ⟨trivial, writtenWellformed, writtenLimits, writtenLookup⟩

end Accept

/-! ### One fragment -/

/-- A fragment that gets past the malformed checks. -/
def AcceptableFragment (fragment : PacketInfo) : Prop :=
  fragment.isIpv4Fragment = true ∧ fragmentIsMalformed fragment = false

/-- The table once processing has expired what is idle; only fragments cause an expiry. -/
def afterExpiry (state : FragmentState) (event : FragmentEvent) : IPv4FragmentTable :=
  if event.fragment.isIpv4Fragment then
    (ipv4FragmentTableExpire
      (state.1, { state.2 with ipv4FragmentsSeen := state.2.ipv4FragmentsSeen + 1 }) event.now).1
  else state.1

/-- What becomes of the entry that an acceptable fragment belongs to. -/
def processEntry (table : IPv4FragmentTable) (entry : Option IPv4FragmentDatagram)
    (fragment : PacketInfo) (now : Nat) :
    Option IPv4FragmentDatagram × IPv4FragmentProcessResult :=
  match entry with
  | some datagram => acceptDatagram (table.maxBytes - table.usedBytes) datagram fragment now
  | none =>
      if table.datagrams.length ≥ table.maxDatagrams then (none, .dropped)
      else
        acceptDatagram (table.maxBytes - table.usedBytes)
          (freshDatagram fragment (makeKey fragment) now) fragment now

section Process

variable {state : FragmentState} {event : FragmentEvent} {key : IPv4FragmentKey}

theorem afterExpiry_wellformed (wellformed : state.1.Wellformed) (event : FragmentEvent) :
    (afterExpiry state event).Wellformed := by
  unfold afterExpiry
  split
  · exact expire_wellformed wellformed
  · exact wellformed

theorem afterExpiry_limits (state : FragmentState) (event : FragmentEvent) :
    (afterExpiry state event).limits = state.1.limits := by
  unfold afterExpiry
  split
  · exact expire_limits
  · rfl

theorem datagramOf_afterExpiry (wellformed : state.1.Wellformed) (event : FragmentEvent) :
    datagramOf (afterExpiry state event) key =
      if event.fragment.isIpv4Fragment then
        (datagramOf state.1 key).filter (survives state.1.timeoutSeconds event.now)
      else datagramOf state.1 key := by
  unfold afterExpiry
  split
  · exact datagramOf_expire wellformed
  · rfl

/-- A datagram opened for a key that has none. -/
theorem IPv4FragmentTable.Wellformed.opened {table : IPv4FragmentTable}
    (wellformed : table.Wellformed) (room : table.datagrams.length < table.maxDatagrams)
    {datagram : IPv4FragmentDatagram} (absent : datagramOf table datagram.key = none)
    (empty : datagram.data = []) :
    { table with datagrams := table.datagrams ++ [datagram] : IPv4FragmentTable }.Wellformed :=
  { distinct := wellformed.distinct.append absent
    bounded := by
      rw [List.length_append, List.length_singleton]
      exact room
    accounted := by simp [wellformed.accounted, IPv4FragmentDatagram.dataCapacity, empty]
    capped := wellformed.capped }

/-- A fragment that is not acceptable changes nothing once expiry is done. -/
theorem process_unacceptable (unacceptable : ¬ AcceptableFragment event.fragment) :
    (fragmentReassembly.next state event).1 = afterExpiry state event ∧
      (fragmentReassembly.output state event = .ignored ∨
        fragmentReassembly.output state event = .malformed) := by
  simp only [Machine.next, Machine.output, fragmentReassembly, ipv4FragmentTableProcess,
    afterExpiry]
  by_cases isFragment : event.fragment.isIpv4Fragment = true
  · have malformed : fragmentIsMalformed event.fragment = true := by
      by_contra acceptable
      exact unacceptable ⟨isFragment, Bool.eq_false_iff.mpr acceptable⟩
    simp [isFragment, malformed]
  · simp [isFragment]

/-- What one acceptable fragment does to the table: its own datagram becomes what `processEntry`
makes of it, every other one stays as expiry left it. -/
theorem process_acceptable (wellformed : state.1.Wellformed)
    (acceptable : AcceptableFragment event.fragment) :
    let table := afterExpiry state event
    let outcome := processEntry table (datagramOf table (makeKey event.fragment)) event.fragment
      event.now
    fragmentReassembly.output state event = outcome.2 ∧
      (fragmentReassembly.next state event).1.Wellformed ∧
      (fragmentReassembly.next state event).1.limits = state.1.limits ∧
      ∀ key, datagramOf (fragmentReassembly.next state event).1 key =
        if makeKey event.fragment = key then outcome.1 else datagramOf table key := by
  intro table outcome
  have tableWellformed : table.Wellformed := afterExpiry_wellformed wellformed event
  have tableLimits : table.limits = state.1.limits := afterExpiry_limits state event
  simp only [outcome, Machine.next, Machine.output, fragmentReassembly, ipv4FragmentTableProcess,
    acceptable.1, acceptable.2, Bool.not_true, Bool.false_eq_true, if_false]
  obtain ⟨stats, statsDef⟩ : ∃ stats, (ipv4FragmentTableExpire
      (state.1, { state.2 with ipv4FragmentsSeen := state.2.ipv4FragmentsSeen + 1 })
      event.now) = (table, stats) := by
    refine ⟨(ipv4FragmentTableExpire
      (state.1, { state.2 with ipv4FragmentsSeen := state.2.ipv4FragmentsSeen + 1 })
      event.now).2, ?_⟩
    simp [table, afterExpiry, acceptable.1]
  simp only [statsDef, findOrCreateDatagram, createDatagram]
  cases found : position IPv4FragmentDatagram.key table.datagrams (makeKey event.fragment) with
  | some index =>
      obtain ⟨datagram, slot, located⟩ := lookup_of_position found
      have entry : datagramOf table (makeKey event.fragment) = some datagram := located
      have keyed : datagram.key = makeKey event.fragment := lookup_key located
      have spec := acceptFragment_spec tableWellformed slot stats event.fragment event.now
      simp only [keyed] at spec
      simp only [slot, entry, processEntry]
      exact ⟨spec.1, spec.2.1, spec.2.2.1.trans tableLimits, spec.2.2.2⟩
  | none =>
      have absent : datagramOf table (makeKey event.fragment) = none :=
        position_eq_none_iff.mp found
      by_cases full : table.datagrams.length ≥ table.maxDatagrams
      · simp only [absent, processEntry, if_pos full]
        refine ⟨rfl, tableWellformed, tableLimits, ?_⟩
        intro key
        by_cases same : makeKey event.fragment = key
        · rw [if_pos same, ← same]
          exact absent
        · rw [if_neg same]
          rfl
      · have opened := @IPv4FragmentTable.Wellformed.opened table tableWellformed
          (Nat.lt_of_not_le full)
          (freshDatagram event.fragment (makeKey event.fragment) event.now) absent rfl
        have slot : (table.datagrams ++
            [freshDatagram event.fragment (makeKey event.fragment) event.now])[
              table.datagrams.length]? =
            some (freshDatagram event.fragment (makeKey event.fragment) event.now) := by
          simp
        have spec := acceptFragment_spec opened slot stats event.fragment event.now
        simp only [absent, processEntry, if_neg full, Option.map_some, slot]
        refine ⟨spec.1, spec.2.1, spec.2.2.1.trans tableLimits, ?_⟩
        intro key
        rw [spec.2.2.2]
        show (if makeKey event.fragment = key then _ else _) = _
        by_cases same : makeKey event.fragment = key
        · rw [if_pos same, if_pos same]
        · have unlike : (freshDatagram event.fragment (makeKey event.fragment) event.now).key ≠
              key := same
          rw [if_neg same, if_neg same, datagramOf, lookup_append, if_neg unlike, Option.or_none]
          rfl

theorem process_wellformed (wellformed : state.1.Wellformed) (event : FragmentEvent) :
    (fragmentReassembly.next state event).1.Wellformed := by
  by_cases acceptable : AcceptableFragment event.fragment
  · exact (process_acceptable wellformed acceptable).2.1
  · rw [(process_unacceptable acceptable).1]
    exact afterExpiry_wellformed wellformed event

theorem process_limits (wellformed : state.1.Wellformed) (event : FragmentEvent) :
    (fragmentReassembly.next state event).1.limits = state.1.limits := by
  by_cases acceptable : AcceptableFragment event.fragment
  · exact (process_acceptable wellformed acceptable).2.2.1
  · rw [(process_unacceptable acceptable).1]
    exact afterExpiry_limits state event

theorem FragmentCaptured.wellformed (captured : FragmentCaptured state) : state.1.Wellformed := by
  obtain ⟨maxDatagrams, maxBytes, timeoutSeconds, initial, stats, started, reached⟩ := captured
  have kept : ∀ (state : FragmentState) (event : FragmentEvent), state.1.Wellformed →
      (fragmentReassembly.next state event).1.Wellformed :=
    fun _ event holds => process_wellformed holds event
  refine Machine.Reachable.invariant kept ?_ reached
  unfold ipv4FragmentTableInit at started
  split at started
  · contradiction
  · rw [← Option.some.inj started]
    exact
      { distinct := List.nodup_nil
        bounded := Nat.zero_le _
        accounted := rfl
        capped := Nat.zero_le _ }

end Process

end MiniSniffer
