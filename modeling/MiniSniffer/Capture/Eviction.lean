import MiniSniffer.Flow.Lookup
import MiniSniffer.Fragment.Lookup

/-!
Contract: the eviction loops of both tables.

Owns what a single run of each loop does, on any table and at any time: it is a filter, its counters
grow by the entries that left, and a second run finds nothing to do.

Does not own when the loops run: see `Flow.Lookup` and `Fragment.Table`.
-/

namespace MiniSniffer

open Foundation

/-- Idle for at least a timeout that is not zero. A clock that ran backwards makes nothing idle. -/
def IdleFor (timeoutSeconds nowSeconds lastSeenTime : Nat) : Prop :=
  timeoutSeconds ≠ 0 ∧ lastSeenTime + timeoutSeconds ≤ nowSeconds

instance (timeoutSeconds nowSeconds lastSeenTime : Nat) :
    Decidable (IdleFor timeoutSeconds nowSeconds lastSeenTime) :=
  inferInstanceAs (Decidable (_ ∧ _))

/-! ### The loops as sweeps -/

section Sweeps

variable {table : FlowTable} {index : Nat} {flow : FlowInfo}

theorem idleTime_ge_iff {timeout now lastSeen : Nat} (enabled : timeout ≠ 0) :
    (if now ≥ lastSeen then now - lastSeen else 0) ≥ timeout ↔ IdleFor timeout now lastSeen := by
  rw [IdleFor, and_iff_right enabled]
  split_ifs <;> omega

/-- A timeout of zero is a sweep that evicts nothing. -/
theorem flowTableEvictIdle_eq_sweep (table : FlowTable) (now : Nat) :
    flowTableEvictIdle table now = sweep FlowTable.flows
      (fun flow => IdleFor table.timeoutSeconds now flow.lastSeenTime) evictIdleAt table := by
  unfold flowTableEvictIdle
  split_ifs with disabled
  · exact (sweep_eq_self fun _ _ => decide_eq_false fun idle => idle.1 disabled).symm
  · congr 1
    funext flow
    rw [flowIsIdle, decide_eq_decide]
    exact idleTime_ge_iff disabled

theorem ipv4FragmentTableExpire_eq_sweep (state : FragmentState) (now : Nat) :
    ipv4FragmentTableExpire state now = sweep (fun current : FragmentState => current.1.datagrams)
      (fun datagram => IdleFor state.1.timeoutSeconds now datagram.lastSeenTime) expireAt
      state := by
  unfold ipv4FragmentTableExpire
  split_ifs with disabled
  · exact (sweep_eq_self fun _ _ => decide_eq_false fun idle => idle.1 disabled).symm
  · congr 1
    funext datagram
    rw [datagramIsIdle, decide_eq_decide]
    exact idleTime_ge_iff disabled

theorem expireAt_datagrams (state : FragmentState) (index : Nat) :
    (expireAt state index).1.datagrams = state.1.datagrams.eraseIdx index :=
  removeDatagramAt_datagrams

end Sweeps

/-! ### Counters -/

section Counters

variable {table : FlowTable} {index : Nat} {flow : FlowInfo}

/-- Removal leaves the eviction counters alone. -/
theorem removeFlowAt_evictionCounters :
    (removeFlowAt table index).flowsEvictedIdle = table.flowsEvictedIdle ∧
      (removeFlowAt table index).flowsClosedRst = table.flowsClosedRst := by
  unfold removeFlowAt
  split <;> exact ⟨rfl, rfl⟩

theorem evictClosedAt_flowsClosedRst (found : table.flows[index]? = some flow) :
    (evictClosedAt table index).flowsClosedRst =
      table.flowsClosedRst + if flowIsReset flow then 1 else 0 := by
  simp only [evictClosedAt, found]
  rw [removeFlowAt_evictionCounters.2]
  split <;> rfl

theorem add_one_iterate (count start : Nat) : (· + 1)^[count] start = start + count := by
  induction count generalizing start with
  | zero => rfl
  | succ count inductionHypothesis =>
      rw [Function.iterate_succ_apply, inductionHypothesis]
      omega

/-- A counter of 32 bits wraps around. -/
theorem add_one_iterate32 (count : Nat) (start : UInt32) :
    (· + 1)^[count] start = start + UInt32.ofNat count := by
  induction count generalizing start with
  | zero => exact (UInt32.add_zero start).symm
  | succ count inductionHypothesis =>
      rw [Function.iterate_succ_apply, inductionHypothesis, UInt32.ofNat_add, UInt32.add_assoc,
        UInt32.add_comm (UInt32.ofNat count)]
      rfl

/-- The closed flows that were reset, as the weights that the loop adds up. -/
theorem countP_closed (flows : List FlowInfo) :
    (flows.countP fun flow => flowIsClosed flow && flowIsReset flow) =
      ((flows.filter flowIsClosed).map fun flow => if flowIsReset flow then 1 else 0).sum := by
  induction flows with
  | nil => rfl
  | cons flow flows inductionHypothesis =>
      by_cases closed : flowIsClosed flow = true
      · by_cases reset : flowIsReset flow = true
        · simp [closed, reset, inductionHypothesis, Nat.add_comm 1]
        · simp [closed, reset, inductionHypothesis]
      · simp [closed, inductionHypothesis]

end Counters

/-! ### One run of each loop -/

structure IdleEvictionExact (table : FlowTable) (now : Nat) : Prop where
  flows_eq : (flowTableEvictIdle table now).flows = table.flows.filter fun flow =>
    ¬ IdleFor table.timeoutSeconds now flow.lastSeenTime
  counted : (flowTableEvictIdle table now).flowsEvictedIdle = table.flowsEvictedIdle +
    table.flows.countP fun flow => IdleFor table.timeoutSeconds now flow.lastSeenTime
  again : flowTableEvictIdle (flowTableEvictIdle table now) now = flowTableEvictIdle table now

/-- A closed flow counts as reset or as finished. -/
structure ClosedEvictionExact (table : FlowTable) : Prop where
  flows_eq : (flowTableEvictClosed table).flows =
    table.flows.filter fun flow => !flowIsClosed flow
  resetCounted : (flowTableEvictClosed table).flowsClosedRst = table.flowsClosedRst +
    table.flows.countP fun flow => flowIsClosed flow && flowIsReset flow
  finishedCounted : (flowTableEvictClosed table).flowsClosedFin = table.flowsClosedFin +
    table.flows.countP fun flow => flowIsClosed flow && !flowIsReset flow
  again : flowTableEvictClosed (flowTableEvictClosed table) = flowTableEvictClosed table

/-- The counter has 32 bits. -/
structure ExpiryExact (state : FragmentState) (now : Nat) : Prop where
  datagrams_eq : (ipv4FragmentTableExpire state now).1.datagrams =
    state.1.datagrams.filter fun datagram =>
      ¬ IdleFor state.1.timeoutSeconds now datagram.lastSeenTime
  counted : (ipv4FragmentTableExpire state now).2.ipv4FragmentsExpired =
    state.2.ipv4FragmentsExpired + UInt32.ofNat (state.1.datagrams.countP fun datagram =>
      IdleFor state.1.timeoutSeconds now datagram.lastSeenTime)
  again : ipv4FragmentTableExpire (ipv4FragmentTableExpire state now) now =
    ipv4FragmentTableExpire state now

theorem flowTableEvictIdle_exact (table : FlowTable) (now : Nat) :
    IdleEvictionExact table now where
  flows_eq := by
    rw [flowTableEvictIdle_eq_sweep, entries_sweep evictIdleAt_flows]
    simp
  counted := by
    rw [flowTableEvictIdle_eq_sweep, counter_sweep FlowTable.flowsEvictedIdle (· + 1)
      evictIdleAt_flows (fun _ _ _ _ _ => removeFlowAt_evictionCounters.1), add_one_iterate]
  again := by
    have limits := flowTableEvictIdle_frame table now FlowTable.limits evictIdleAt_limits
    simp only [FlowTable.limits, Prod.mk.injEq] at limits
    rw [flowTableEvictIdle_eq_sweep (flowTableEvictIdle table now), limits.2.2,
      flowTableEvictIdle_eq_sweep table]
    exact sweep_twice evictIdleAt_flows table

theorem flowTableEvictClosed_exact (table : FlowTable) : ClosedEvictionExact table where
  flows_eq := flowTableEvictClosed_flows table
  resetCounted := by
    rw [flowTableEvictClosed, tally_sweep FlowTable.flowsClosedRst _ evictClosedAt_flows
      (fun _ _ _ found _ => evictClosedAt_flowsClosedRst found), countP_closed]
  finishedCounted := by
    rw [flowTableEvictClosed_flowsClosedFin, List.countP_eq_length_filter]
    rfl
  again := sweep_twice evictClosedAt_flows table

theorem ipv4FragmentTableExpire_exact (state : FragmentState) (now : Nat) :
    ExpiryExact state now where
  datagrams_eq := by
    have left := @entries_sweep FragmentState _ (fun current => current.1.datagrams)
      (fun datagram => IdleFor state.1.timeoutSeconds now datagram.lastSeenTime) expireAt
      expireAt_datagrams state
    rw [ipv4FragmentTableExpire_eq_sweep, left]
    simp
  counted := by
    rw [ipv4FragmentTableExpire_eq_sweep]
    exact (@counter_sweep FragmentState _ (fun current => current.1.datagrams) _ _ _
      (fun current => current.2.ipv4FragmentsExpired) (· + 1) expireAt_datagrams
      (fun _ _ _ _ _ => rfl) state).trans (add_one_iterate32 _ _)
  again := by
    have limits := @expire_limits state now
    simp only [IPv4FragmentTable.limits, Prod.mk.injEq] at limits
    rw [ipv4FragmentTableExpire_eq_sweep (ipv4FragmentTableExpire state now), limits.2.2,
      ipv4FragmentTableExpire_eq_sweep state]
    exact @sweep_twice FragmentState _ (fun current => current.1.datagrams) _ _
      expireAt_datagrams state

/-- On every table and at every time the three loops are exact filters, count what they removed,
and find nothing to do a second time. -/
theorem eviction_loops_exact (table : FlowTable) (fragments : FragmentState) (now : Nat) :
    IdleEvictionExact table now ∧ ClosedEvictionExact table ∧ ExpiryExact fragments now :=
  ⟨flowTableEvictIdle_exact table now, flowTableEvictClosed_exact table,
    ipv4FragmentTableExpire_exact fragments now⟩

end MiniSniffer
