import Mathlib.Data.List.Perm.Basic
import MiniSniffer.Fragment.Lookup

/-!
Contract: a fragment table that holds part of another's datagrams.

Owns the comparison of a table with one that processed fewer fragments: it holds the datagrams of
the selected keys, as far as processing at some clock can tell. A fragment of a key that is not
selected changes the whole table alone. One of a selected key has the same outcome in both and
changes both alike, provided that the room is fair: it fits beside all datagrams where it fits
beside the selected ones.

Does not own which keys are selected.
-/

namespace MiniSniffer

open Foundation

/-! ### Room -/

def storedBytes (datagrams : List IPv4FragmentDatagram) : Nat :=
  (datagrams.map IPv4FragmentDatagram.dataCapacity).sum

/-- The fragment finds a slot for its datagram, and bytes for its payload under the cap. -/
def hasRoom (maxDatagrams maxBytes : Nat) (datagrams : List IPv4FragmentDatagram)
    (fragment : PacketInfo) : Bool :=
  match lookup IPv4FragmentDatagram.key datagrams (makeKey fragment) with
  | some datagram =>
      (fragmentRange fragment).stop ≤ datagram.dataCapacity + (maxBytes - storedBytes datagrams)
  | none =>
      datagrams.length < maxDatagrams &&
        (fragmentRange fragment).stop ≤ maxBytes - storedBytes datagrams

/-- The datagrams that are not selected take no room that the fragment needs. -/
def fairRoom (selects : IPv4FragmentKey → Bool) (maxDatagrams maxBytes : Nat)
    (datagrams : List IPv4FragmentDatagram) (fragment : PacketInfo) : Bool :=
  hasRoom maxDatagrams maxBytes datagrams fragment =
    hasRoom maxDatagrams maxBytes (datagrams.filter fun datagram => selects datagram.key) fragment

section Room

variable {part whole table : IPv4FragmentTable} {fragment : PacketInfo} {now : Nat}
variable {datagram : IPv4FragmentDatagram}

/-- A datagram accepts a fragment as far as there is room for it, however much there is. -/
theorem acceptDatagram_congr {room other : Nat}
    (fits : (fragmentRange fragment).stop ≤ datagram.dataCapacity + room ↔
      (fragmentRange fragment).stop ≤ datagram.dataCapacity + other) :
    acceptDatagram room datagram fragment now = acceptDatagram other datagram fragment now := by
  unfold acceptDatagram
  dsimp only
  by_cases full : (fragmentRange fragment).stop > datagram.dataCapacity + room
  · have otherFull : (fragmentRange fragment).stop > datagram.dataCapacity + other := by omega
    simp only [if_pos full, if_pos otherFull]
  · have otherFree : ¬ (fragmentRange fragment).stop > datagram.dataCapacity + other := by omega
    simp only [if_neg full, if_neg otherFree]

/-- A datagram that a fragment opens admits it; only room can be wanting. -/
theorem acceptDatagram_fresh {room : Nat} (full : room < (fragmentRange fragment).stop) :
    acceptDatagram room (freshDatagram fragment (makeKey fragment) now) fragment now =
      (none, .dropped) := by
  have admitted := (@admitRange_eq_some_iff
    (adoptFragment (freshDatagram fragment (makeKey fragment) now) fragment now) _
    (fragmentRange fragment).start (fragmentRange fragment).stop).mpr
      ⟨by simp [freshDatagram], by simp [freshDatagram, minisnifferIpv4FragmentMaxRanges], rfl⟩
  have exceeds : (fragmentRange fragment).stop >
      (freshDatagram fragment (makeKey fragment) now).dataCapacity + room := by
    simpa [freshDatagram, IPv4FragmentDatagram.dataCapacity] using full
  unfold acceptDatagram
  simp only [admitted, if_pos exceeds]

theorem IPv4FragmentTable.Wellformed.usedBytes_eq (wellformed : table.Wellformed) :
    table.usedBytes = storedBytes table.datagrams :=
  wellformed.accounted

/-- Of a table, an entry's outcome depends on nothing but the room in it. -/
theorem processEntry_congr (partWellformed : part.Wellformed) (wholeWellformed : whole.Wellformed)
    (alike : datagramOf part (makeKey fragment) = datagramOf whole (makeKey fragment))
    (room : hasRoom part.maxDatagrams part.maxBytes part.datagrams fragment =
      hasRoom whole.maxDatagrams whole.maxBytes whole.datagrams fragment) :
    processEntry part (datagramOf part (makeKey fragment)) fragment now =
      processEntry whole (datagramOf whole (makeKey fragment)) fragment now := by
  unfold hasRoom at room
  rw [← partWellformed.usedBytes_eq, ← wholeWellformed.usedBytes_eq] at room
  rw [← datagramOf, ← datagramOf, alike] at room
  rw [alike]
  cases found : datagramOf whole (makeKey fragment) with
  | some datagram =>
      rw [found] at room
      exact acceptDatagram_congr (decide_eq_decide.mp room)
  | none =>
      rw [found] at room
      simp only [processEntry]
      have outcome : ∀ table : IPv4FragmentTable,
          (decide (table.datagrams.length < table.maxDatagrams) &&
            decide ((fragmentRange fragment).stop ≤ table.maxBytes - table.usedBytes)) = false →
          (if table.datagrams.length ≥ table.maxDatagrams then
            ((none, .dropped) : Option IPv4FragmentDatagram × IPv4FragmentProcessResult)
          else
            acceptDatagram (table.maxBytes - table.usedBytes)
              (freshDatagram fragment (makeKey fragment) now) fragment now) = (none, .dropped) := by
        intro table refused
        split_ifs with noSlot
        · rfl
        · apply acceptDatagram_fresh
          simpa [Nat.lt_of_not_le noSlot] using refused
      cases wholeRoom : (decide (whole.datagrams.length < whole.maxDatagrams) &&
          decide ((fragmentRange fragment).stop ≤ whole.maxBytes - whole.usedBytes)) with
      | false =>
          rw [wholeRoom] at room
          rw [outcome part room, outcome whole wholeRoom]
      | true =>
          rw [wholeRoom] at room
          simp only [Bool.and_eq_true, decide_eq_true_eq] at room wholeRoom
          rw [if_neg (Nat.not_le.mpr room.1), if_neg (Nat.not_le.mpr wholeRoom.1)]
          apply acceptDatagram_congr
          constructor <;> intro _ <;> omega

end Room

/-! ### Parts -/

/-- `part` holds the datagrams of `whole` with selected keys, as far as an expiry at `clock` can
tell. -/
structure FragmentsPartOf (selects : IPv4FragmentKey → Bool) (clock : Nat)
    (part whole : IPv4FragmentTable) : Prop where
  partWellformed : part.Wellformed
  wholeWellformed : whole.Wellformed
  limits : part.limits = whole.limits
  lookup_eq : ∀ key, (datagramOf part key).filter (survives whole.timeoutSeconds clock) =
    if selects key then (datagramOf whole key).filter (survives whole.timeoutSeconds clock)
    else none

section Parts

variable {selects : IPv4FragmentKey → Bool} {clock now after : Nat} {key : IPv4FragmentKey}
variable {part whole : IPv4FragmentTable} {datagram : IPv4FragmentDatagram}
variable {event : FragmentEvent} {stats partStats : PacketStats}

/-- A datagram that survives a later expiry survives an earlier one. -/
theorem survives_of_later {timeoutSeconds : Nat} (inOrder : clock ≤ now)
    (kept : survives timeoutSeconds now datagram = true) :
    survives timeoutSeconds clock datagram = true := by
  simp only [survives, datagramIsIdle, Bool.or_eq_true, decide_eq_true_eq, Bool.not_eq_true',
    decide_eq_false_iff_not] at kept ⊢
  rcases kept with never | fresh
  · exact Or.inl never
  · right
    split_ifs at fresh ⊢ <;> omega

theorem filter_survives_filter (timeoutSeconds : Nat) (inOrder : clock ≤ now)
    (entry : Option IPv4FragmentDatagram) :
    (entry.filter (survives timeoutSeconds clock)).filter (survives timeoutSeconds now) =
      entry.filter (survives timeoutSeconds now) := by
  cases entry with
  | none => rfl
  | some datagram =>
      by_cases kept : survives timeoutSeconds now datagram = true
      · rw [Option.filter_some, survives_of_later inOrder kept]
        rfl
      · rw [Option.filter_some, Option.filter_some, if_neg kept]
        split_ifs
        · rw [Option.filter_some, if_neg kept]
        · rfl

theorem FragmentsPartOf.later (partOf : FragmentsPartOf selects clock part whole)
    (inOrder : clock ≤ now) : FragmentsPartOf selects now part whole :=
  { partOf with
    lookup_eq := by
      intro key
      rw [← filter_survives_filter _ inOrder (datagramOf part key), partOf.lookup_eq]
      split_ifs
      · exact filter_survives_filter _ inOrder _
      · rfl }

/-- Once a fragment has expired what is idle, the part answers as the whole does for the selected
keys. -/
theorem FragmentsPartOf.expired_eq (partOf : FragmentsPartOf selects event.now part whole)
    (isFragment : event.fragment.isIpv4Fragment = true) (key : IPv4FragmentKey) :
    datagramOf (afterExpiry (part, partStats) event) key =
      if selects key then datagramOf (afterExpiry (whole, stats) event) key else none := by
  have limits := partOf.limits
  simp only [IPv4FragmentTable.limits, Prod.mk.injEq] at limits
  rw [datagramOf_afterExpiry partOf.partWellformed, datagramOf_afterExpiry partOf.wholeWellformed,
    if_pos isFragment, if_pos isFragment, limits.2.2]
  exact partOf.lookup_eq key

theorem afterExpiry_datagrams (table : IPv4FragmentTable) (stats : PacketStats)
    (isFragment : event.fragment.isIpv4Fragment = true) :
    (afterExpiry (table, stats) event).datagrams =
      table.datagrams.filter (survives table.timeoutSeconds event.now) := by
  unfold afterExpiry
  rw [if_pos isFragment]
  exact expire_datagrams

/-- As much room is in the part as the selected datagrams leave. -/
theorem FragmentsPartOf.hasRoom_eq (partOf : FragmentsPartOf selects event.now part whole)
    (isFragment : event.fragment.isIpv4Fragment = true) (partStats stats : PacketStats)
    (fragment : PacketInfo) :
    hasRoom part.maxDatagrams part.maxBytes (afterExpiry (part, partStats) event).datagrams
        fragment =
      hasRoom whole.maxDatagrams whole.maxBytes
        ((afterExpiry (whole, stats) event).datagrams.filter fun datagram => selects datagram.key)
        fragment := by
  have partExpired : (afterExpiry (part, partStats) event).Wellformed :=
    afterExpiry_wellformed partOf.partWellformed event
  have wholeExpired : (afterExpiry (whole, stats) event).Wellformed :=
    afterExpiry_wellformed partOf.wholeWellformed event
  have same : ∀ key, lookup IPv4FragmentDatagram.key
      (afterExpiry (part, partStats) event).datagrams key = lookup IPv4FragmentDatagram.key
        ((afterExpiry (whole, stats) event).datagrams.filter fun datagram =>
          selects datagram.key) key := by
    intro key
    rw [lookup_filter wholeExpired.distinct, ← datagramOf, ← datagramOf,
      partOf.expired_eq isFragment]
    cases found : datagramOf (afterExpiry (whole, stats) event) key with
    | none =>
        split_ifs <;> rfl
    | some datagram =>
        have keyed : datagram.key = key := lookup_key found
        rw [Option.filter_some, keyed]
  have perm := partExpired.distinct.perm_of_lookup
    (wholeExpired.distinct.filter fun datagram => selects datagram.key) same
  have limits := partOf.limits
  simp only [IPv4FragmentTable.limits, Prod.mk.injEq] at limits
  unfold hasRoom storedBytes
  rw [same, perm.length_eq, (perm.map IPv4FragmentDatagram.dataCapacity).sum_eq, limits.1,
    limits.2.1]

/-- A fragment of another key, or none at all, is processed by the whole table only. -/
theorem FragmentsPartOf.foreign (partOf : FragmentsPartOf selects clock part whole)
    (foreign : AcceptableFragment event.fragment →
      selects (makeKey event.fragment) = false)
    (inOrder : clock ≤ after) (passed : event.now ≤ after) (stats : PacketStats) :
    FragmentsPartOf selects after part (fragmentReassembly.next (whole, stats) event).1 := by
  have wellformed : ((whole, stats) : FragmentState).1.Wellformed := partOf.wholeWellformed
  have limits := process_limits wellformed event
  have timeout : (fragmentReassembly.next (whole, stats) event).1.timeoutSeconds =
      whole.timeoutSeconds := (Prod.mk.inj (Prod.mk.inj limits).2).2
  have expired : ∀ key, (datagramOf (afterExpiry (whole, stats) event) key).filter
      (survives whole.timeoutSeconds after) =
        (datagramOf whole key).filter (survives whole.timeoutSeconds after) := by
    intro key
    rw [datagramOf_afterExpiry wellformed]
    split_ifs
    · exact filter_survives_filter _ passed _
    · rfl
  refine ⟨partOf.partWellformed, process_wellformed wellformed event,
    partOf.limits.trans limits.symm, ?_⟩
  intro key
  rw [timeout, (partOf.later inOrder).lookup_eq]
  cases selected : selects key with
  | false => rfl
  | true =>
      simp only [if_true]
      rw [← expired]
      by_cases acceptable : AcceptableFragment event.fragment
      · have other : makeKey event.fragment ≠ key := by
          rintro rfl
          rw [foreign acceptable] at selected
          contradiction
        rw [(process_acceptable wellformed acceptable).2.2.2 key, if_neg other]
      · rw [(process_unacceptable acceptable).1]

/-- A fragment of a selected key is processed by both tables alike. -/
theorem FragmentsPartOf.both (partOf : FragmentsPartOf selects clock part whole)
    (inOrder : clock ≤ event.now) (isFragment : event.fragment.isIpv4Fragment = true)
    (own : selects (makeKey event.fragment) = true)
    (fair : AcceptableFragment event.fragment →
      fairRoom selects whole.maxDatagrams whole.maxBytes
        (whole.datagrams.filter (survives whole.timeoutSeconds event.now)) event.fragment = true)
    (partStats stats : PacketStats) :
    (AcceptableFragment event.fragment →
        fragmentReassembly.output (part, partStats) event =
          fragmentReassembly.output (whole, stats) event) ∧
      FragmentsPartOf selects clock (fragmentReassembly.next (part, partStats) event).1
        (fragmentReassembly.next (whole, stats) event).1 := by
  have current := partOf.later inOrder
  have partWellformed : ((part, partStats) : FragmentState).1.Wellformed := partOf.partWellformed
  have wholeWellformed : ((whole, stats) : FragmentState).1.Wellformed := partOf.wholeWellformed
  have expired := fun key => @FragmentsPartOf.expired_eq selects part whole event stats partStats
    current isFragment key
  have limits : (fragmentReassembly.next (part, partStats) event).1.limits =
      (fragmentReassembly.next (whole, stats) event).1.limits :=
    (process_limits partWellformed event).trans
      (partOf.limits.trans (process_limits wholeWellformed event).symm)
  -- what the two tables answer after the fragment is the same, not only up to expiry
  suffices step : (AcceptableFragment event.fragment →
      fragmentReassembly.output (part, partStats) event =
        fragmentReassembly.output (whole, stats) event) ∧
      ∀ key, datagramOf (fragmentReassembly.next (part, partStats) event).1 key =
        if selects key then datagramOf (fragmentReassembly.next (whole, stats) event).1 key
        else none by
    refine ⟨step.1, process_wellformed partWellformed event,
      process_wellformed wholeWellformed event, limits, ?_⟩
    intro key
    rw [step.2 key]
    split_ifs <;> rfl
  by_cases acceptable : AcceptableFragment event.fragment
  · have partStep := process_acceptable partWellformed acceptable
    have wholeStep := process_acceptable wholeWellformed acceptable
    have partLimits := afterExpiry_limits (part, partStats) event
    have wholeLimits := afterExpiry_limits (whole, stats) event
    simp only [IPv4FragmentTable.limits, Prod.mk.injEq] at partLimits wholeLimits
    have entry : datagramOf (afterExpiry (part, partStats) event) (makeKey event.fragment) =
        datagramOf (afterExpiry (whole, stats) event) (makeKey event.fragment) := by
      rw [expired, if_pos own]
    have room := current.hasRoom_eq isFragment partStats stats event.fragment
    have fairEq := of_decide_eq_true (fair acceptable)
    rw [← afterExpiry_datagrams whole stats isFragment] at fairEq
    have outcome := @processEntry_congr _ _ event.fragment event.now
      (afterExpiry_wellformed partWellformed event) (afterExpiry_wellformed wholeWellformed event)
      entry (by
        rw [partLimits.1, partLimits.2.1, wholeLimits.1, wholeLimits.2.1]
        exact room.trans fairEq.symm)
    refine ⟨fun _ => ?_, ?_⟩
    · rw [partStep.1, wholeStep.1, outcome]
    · intro key
      rw [partStep.2.2.2 key, wholeStep.2.2.2 key, outcome]
      by_cases same : makeKey event.fragment = key
      · rw [if_pos same, if_pos same, if_pos (by rw [← same]; exact own)]
      · rw [if_neg same, if_neg same]
        exact expired key
  · refine ⟨fun acceptable' => absurd acceptable' acceptable, ?_⟩
    intro key
    rw [(process_unacceptable acceptable).1, (process_unacceptable acceptable).1]
    exact expired key

end Parts

end MiniSniffer
