import MiniSniffer.Capture.Isolation

/-!
Contract: a flow table that holds part of another's flows.

Owns the comparison of a table with one that saw fewer packets: it holds the flows of the selected
keys, in the same order, as far as a lookup at some clock can tell. A packet of a key that is not
selected changes the whole table alone, a packet of a selected key changes both alike, provided that
making room is fair: a selected flow leaves for want of a slot only where the selected flows alone
take every slot.

Does not own which keys are selected.
-/

namespace MiniSniffer

open Foundation

/-! ### Placing a flow -/

/-- The flows once there is room for another. -/
def roomyFlows (maxFlows : Nat) (flows : List FlowInfo) : List FlowInfo :=
  if flows.length ≥ maxFlows then flows.eraseIdx (oldestIndex flows) else flows

/-- The flows after a packet whose flow became `flow`: it keeps its slot, or comes last. -/
def placeFlow (maxFlows : Nat) (flows : List FlowInfo) (flow : FlowInfo) : List FlowInfo :=
  match lookup FlowInfo.key flows flow.key with
  | some _ => flows.map fun other => if other.key = flow.key then flow else other
  | none => roomyFlows maxFlows flows ++ [flow]

/-- Room for `key` costs a selected flow its slot only if all flows are selected, `key` too. -/
def fairEviction (selects : FlowKey → Bool) (maxFlows : Nat) (flows : List FlowInfo)
    (key : FlowKey) : Bool :=
  (lookup FlowInfo.key flows key).isSome || flows.length < maxFlows ||
    match flows[oldestIndex flows]? with
    | none => true
    | some oldest =>
        !selects oldest.key || (selects key && flows.all fun flow => selects flow.key)

section Place

variable {table : FlowTable} {packet : PacketInfo} {key : FlowKey} {direction : FlowDirection}
variable {now maxFlows : Nat} {flows : List FlowInfo} {flow : FlowInfo} {selects : FlowKey → Bool}

theorem makeRoomForFlow_flows (table : FlowTable) :
    (makeRoomForFlow table).flows = roomyFlows table.maxFlows table.flows := by
  unfold makeRoomForFlow roomyFlows
  split_ifs
  · exact evictOldestFlow_flows table
  · rfl

/-- A lookup answers with a slot where the packet's flow is, and where writing it back places it. -/
theorem flowTableGetOrCreate_place (now : Nat) (wellformed : table.Wellformed)
    (tracked : trackedAs packet = some (key, direction)) :
    ∃ looked index, looked.Wellformed ∧ looked.limits = table.limits ∧
      flowTableGetOrCreate table packet now = (looked, some (index, direction)) ∧
      looked.flows[index]? = some (assignedFlow table key now) ∧
      (assignedFlow table key now).key = key ∧
      ∀ flow : FlowInfo, flow.key = key → looked.flows.set index flow =
        placeFlow table.maxFlows (evictStaleFlows table now).flows flow := by
  obtain ⟨looked, index, lookedWellformed, limits, equal, slot, keyed, -⟩ :=
    flowCapture_tracked false wellformed
      (show trackedAs (FlowEvent.mk packet now).packet = some (key, direction) from tracked)
  refine ⟨looked, index, lookedWellformed, limits, equal, slot, keyed, ?_⟩
  intro flow flowKeyed
  have staleLimits := evictStaleFlows_limits table now
  simp only [FlowTable.limits, Prod.mk.injEq] at staleLimits
  cases placed : position FlowInfo.key (evictStaleFlows table now).flows key with
  | some place =>
      obtain ⟨held, -, located⟩ := lookup_of_position placed
      have stale := afterEvictions_of_placed placed
      rcases flowTableGetOrCreate_spec now wellformed tracked with
        ⟨_, _, _, _, _, found⟩ | ⟨absent, _, _⟩
      · rw [equal] at found
        obtain ⟨rfl, -⟩ := Prod.mk.inj found
        rw [placeFlow, flowKeyed, located, lookedWellformed.distinct.set_eq_map slot, keyed, stale]
      · rw [stale, flowOf, located] at absent
        contradiction
  | none =>
      have missing := position_eq_none_iff.mp placed
      have roomy := afterEvictions_of_absent placed
      rcases flowTableGetOrCreate_spec now wellformed tracked with
        ⟨_, _, _, _, present, _⟩ | ⟨_, _, created⟩
      · rw [roomy, flowOf] at present
        have member := (makeRoomForFlow_sublist _).subset (lookup_mem present)
        exact absurd (lookup_key present) (lookup_eq_none_iff.mp missing _ member)
      · rw [equal] at created
        obtain ⟨rfl, place⟩ := Prod.mk.inj created
        obtain ⟨rfl, -⟩ := Prod.mk.inj (Option.some.inj place)
        rw [placeFlow, flowKeyed, missing]
        simp only [createFlow, roomy, makeRoomForFlow_flows, staleLimits.1]
        simp

/-- The selected flows do not notice that there was made room for another key. -/
theorem roomyFlows_foreign (fair : fairEviction selects maxFlows flows key = true)
    (absent : lookup FlowInfo.key flows key = none) (foreign : selects key = false) :
    (roomyFlows maxFlows flows).filter (fun flow => selects flow.key) =
      flows.filter fun flow => selects flow.key := by
  unfold roomyFlows
  split_ifs with full
  · cases slot : flows[oldestIndex flows]? with
    | none => rw [List.eraseIdx_of_length_le (List.getElem?_eq_none_iff.mp slot)]
    | some oldest =>
        have unselected : selects oldest.key = false := by
          simpa [fairEviction, absent, slot, foreign, not_lt.mpr full] using fair
        exact filter_eraseIdx slot unselected
  · rfl

/-- Making room for a selected key costs the selected flows what it would cost them alone. -/
theorem roomyFlows_own (fair : fairEviction selects maxFlows flows key = true)
    (absent : lookup FlowInfo.key flows key = none) (bounded : flows.length ≤ maxFlows) :
    (roomyFlows maxFlows flows).filter (fun flow => selects flow.key) =
      roomyFlows maxFlows (flows.filter fun flow => selects flow.key) := by
  have fewer := List.length_filter_le (fun flow : FlowInfo => selects flow.key) flows
  by_cases full : flows.length ≥ maxFlows
  · by_cases all : ∀ flow ∈ flows, selects flow.key = true
    · have same : flows.filter (fun flow => selects flow.key) = flows :=
        List.filter_eq_self.mpr all
      rw [same, List.filter_eq_self]
      intro flow member
      apply all flow
      unfold roomyFlows at member
      split_ifs at member
      exact (List.eraseIdx_sublist flows _).subset member
    · -- some flow is not selected, so the selected ones leave a slot
      have strictlyFewer : (flows.filter fun flow => selects flow.key).length < flows.length := by
        apply lt_of_le_of_ne fewer
        intro same
        exact all (List.length_filter_eq_length_iff.mp same)
      have roomy : roomyFlows maxFlows (flows.filter fun flow => selects flow.key) =
          flows.filter fun flow => selects flow.key := by
        unfold roomyFlows
        rw [if_neg (by omega)]
      rw [roomy]
      unfold roomyFlows
      rw [if_pos full]
      cases slot : flows[oldestIndex flows]? with
      | none => rw [List.eraseIdx_of_length_le (List.getElem?_eq_none_iff.mp slot)]
      | some oldest =>
          have unselected : selects oldest.key = false := by
            simp only [fairEviction, absent, slot, Option.isSome_none, Bool.false_or,
              Bool.or_eq_true, decide_eq_true_eq, Bool.not_eq_true', Bool.and_eq_true,
              List.all_eq_true] at fair
            rcases fair with room | unselected | ⟨_, every⟩
            · omega
            · exact unselected
            · exact absurd every all
          exact filter_eraseIdx slot unselected
  · unfold roomyFlows
    rw [if_neg full, if_neg (by omega)]

/-- A flow that is not selected is placed unseen by the selected ones. -/
theorem placeFlow_foreign (fair : fairEviction selects maxFlows flows flow.key = true)
    (foreign : selects flow.key = false) :
    (placeFlow maxFlows flows flow).filter (fun other => selects other.key) =
      flows.filter fun other => selects other.key := by
  unfold placeFlow
  cases found : lookup FlowInfo.key flows flow.key with
  | none =>
      simp only
      rw [List.filter_append, roomyFlows_foreign fair found foreign, List.filter_singleton, foreign]
      exact List.append_nil _
  | some held =>
      simp only
      rw [List.filter_map]
      have keys : ((fun other : FlowInfo => selects other.key) ∘ fun other : FlowInfo =>
          if other.key = flow.key then flow else other) = fun other => selects other.key := by
        funext other
        exact congrArg selects (keyOf_overwrite rfl other)
      have untouched : ∀ other ∈ flows.filter (fun other => selects other.key),
          (if other.key = flow.key then flow else other) = other := by
        intro other member
        rw [if_neg]
        intro same
        have selected := (List.mem_filter.mp member).2
        rw [same, foreign] at selected
        contradiction
      rw [keys, List.map_congr_left untouched, List.map_id']

/-- A selected flow is placed among the selected ones as it is among all. -/
theorem placeFlow_own (distinct : DistinctKeys FlowInfo.key flows)
    (bounded : flows.length ≤ maxFlows)
    (fair : fairEviction selects maxFlows flows flow.key = true)
    (own : selects flow.key = true) :
    (placeFlow maxFlows flows flow).filter (fun other => selects other.key) =
      placeFlow maxFlows (flows.filter fun other => selects other.key) flow := by
  have alike : lookup FlowInfo.key (flows.filter fun other => selects other.key) flow.key =
      lookup FlowInfo.key flows flow.key := by
    rw [lookup_filter distinct]
    cases found : lookup FlowInfo.key flows flow.key with
    | none => rfl
    | some held => rw [Option.filter_some, lookup_key found, if_pos own]
  unfold placeFlow
  rw [alike]
  cases found : lookup FlowInfo.key flows flow.key with
  | none =>
      simp only
      rw [List.filter_append, roomyFlows_own fair found bounded, List.filter_singleton, own]
      rfl
  | some held =>
      simp only
      rw [List.filter_map]
      congr 1
      congr 1
      funext other
      exact congrArg selects (keyOf_overwrite rfl other)

end Place

/-! ### Parts -/

/-- `part` holds the flows of `whole` with selected keys, as far as a lookup at `clock` can
tell. -/
structure PartOf (selects : FlowKey → Bool) (clock : Nat) (part whole : FlowTable) : Prop where
  partWellformed : part.Wellformed
  wholeWellformed : whole.Wellformed
  limits : part.limits = whole.limits
  flows_eq : part.flows.filter (stays whole.timeoutSeconds clock) =
    (whole.flows.filter (stays whole.timeoutSeconds clock)).filter fun flow => selects flow.key

/-- A packet's flow became `flow`, and took its place in the table. -/
structure Placed (now : Nat) (flow : FlowInfo) (table next : FlowTable) : Prop where
  wellformed : next.Wellformed
  limits : next.limits = table.limits
  flows_eq : next.flows = placeFlow table.maxFlows (evictStaleFlows table now).flows flow

section Parts

variable {selects : FlowKey → Bool} {clock now after : Nat} {key : FlowKey} {flow : FlowInfo}
variable {part whole partNext wholeNext : FlowTable}

/-- Flows that stay at a later time are among those that stay at an earlier one. -/
theorem filter_stays_filter (timeoutSeconds : Nat) (inOrder : clock ≤ now)
    (flows : List FlowInfo) :
    (flows.filter (stays timeoutSeconds clock)).filter (stays timeoutSeconds now) =
      flows.filter (stays timeoutSeconds now) := by
  rw [List.filter_filter]
  congr 1
  funext flow
  cases kept : stays timeoutSeconds now flow with
  | false => rfl
  | true => rw [stays_of_later inOrder kept, Bool.and_self]

theorem PartOf.later (partOf : PartOf selects clock part whole) (inOrder : clock ≤ now) :
    PartOf selects now part whole :=
  { partOf with
    flows_eq := by
      rw [← filter_stays_filter _ inOrder part.flows, partOf.flows_eq, List.filter_filter,
        ← filter_stays_filter _ inOrder whole.flows, List.filter_filter, List.filter_filter,
        List.filter_filter]
      congr 1
      funext flow
      cases stays whole.timeoutSeconds now flow <;> cases selects flow.key <;> rfl }

/-- Once a lookup has removed what is stale, the part is exactly the selected flows. -/
theorem PartOf.stale_eq (partOf : PartOf selects now part whole) :
    (evictStaleFlows part now).flows =
      (evictStaleFlows whole now).flows.filter fun flow => selects flow.key := by
  have limits := partOf.limits
  simp only [FlowTable.limits, Prod.mk.injEq] at limits
  rw [evictStaleFlows_flows, evictStaleFlows_flows, limits.2.2]
  exact partOf.flows_eq

theorem PartOf.assigned_eq (partOf : PartOf selects now part whole) (own : selects key = true) :
    assignedFlow part key now = assignedFlow whole key now := by
  apply AgreeAt.assigned_eq _ partOf.limits partOf.partWellformed partOf.wholeWellformed
  rw [AgreeAt, ← flowOf_evictStaleFlows partOf.partWellformed,
    ← flowOf_evictStaleFlows partOf.wholeWellformed, flowOf, flowOf, partOf.stale_eq,
    lookup_filter (partOf.wholeWellformed.distinct.sublist (evictStaleFlows_sublist whole now))]
  cases found : lookup FlowInfo.key (evictStaleFlows whole now).flows key with
  | none => rfl
  | some held => rw [Option.filter_some, lookup_key found, if_pos own]

/-- A flow that is not selected is placed in the whole table only. -/
theorem PartOf.foreign (partOf : PartOf selects clock part whole)
    (placed : Placed now flow whole wholeNext) (foreign : selects flow.key = false)
    (fair : fairEviction selects whole.maxFlows (evictStaleFlows whole now).flows flow.key = true)
    (inOrder : clock ≤ after) (passed : now ≤ after) : PartOf selects after part wholeNext := by
  have limits := placed.limits
  simp only [FlowTable.limits, Prod.mk.injEq] at limits
  have kept := placeFlow_foreign fair foreign
  rw [← placed.flows_eq, evictStaleFlows_flows] at kept
  exact
    { partWellformed := partOf.partWellformed
      wholeWellformed := placed.wellformed
      limits := partOf.limits.trans placed.limits.symm
      flows_eq := by
        rw [limits.2.2, (partOf.later inOrder).flows_eq, ← filter_stays_filter _ passed whole.flows,
          List.filter_comm (fun flow : FlowInfo => selects flow.key), ← kept, List.filter_comm] }

/-- A selected flow is placed in both tables alike. -/
theorem PartOf.both (partOf : PartOf selects clock part whole) (inOrder : clock ≤ now)
    (partPlaced : Placed now flow part partNext) (wholePlaced : Placed now flow whole wholeNext)
    (own : selects flow.key = true)
    (fair : fairEviction selects whole.maxFlows (evictStaleFlows whole now).flows flow.key =
      true) : PartOf selects clock partNext wholeNext := by
  have sizes := partOf.limits
  simp only [FlowTable.limits, Prod.mk.injEq] at sizes
  have stale := partOf.wholeWellformed.fewer (evictStaleFlows_sublist whole now)
    (evictStaleFlows_limits whole now)
  have staleLimits := evictStaleFlows_limits whole now
  simp only [FlowTable.limits, Prod.mk.injEq] at staleLimits
  have bounded : (evictStaleFlows whole now).flows.length ≤ whole.maxFlows := by
    rw [← staleLimits.1]
    exact stale.bounded
  have placedAlike : partNext.flows = wholeNext.flows.filter fun flow => selects flow.key := by
    rw [partPlaced.flows_eq, wholePlaced.flows_eq, (partOf.later inOrder).stale_eq, sizes.1]
    exact (placeFlow_own stale.distinct bounded fair own).symm
  exact
    { partWellformed := partPlaced.wellformed
      wholeWellformed := wholePlaced.wellformed
      limits := partPlaced.limits.trans (partOf.limits.trans wholePlaced.limits.symm)
      flows_eq := by rw [placedAlike, List.filter_comm] }

end Parts

end MiniSniffer
