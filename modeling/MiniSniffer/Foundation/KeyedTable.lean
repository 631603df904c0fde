import Mathlib.Algebra.BigOperators.Group.List.Basic
import Mathlib.Algebra.GroupWithZero.Nat
import Mathlib.Data.Finset.Dedup
import Mathlib.Data.Finset.Card
import Mathlib.Data.List.Nodup

/-!
Contract: compact tables of entries that each carry a key.

Owns lookup by key in a list whose keys are distinct, how lookup reacts to each
way such a list changes (an entry dropped, replaced or added at the end), and
the in-place eviction loop: walk an index, remove the entry under it or step
past it. The loop leaves exactly the entries it does not evict, in order
(`entries_sweep`), and a counter that each eviction advances is advanced once for
each evicted entry (`counter_sweep`), or ends at the sum of their weights
(`tally_sweep`).

Does not own what an entry or an eviction predicate is.
-/

namespace MiniSniffer.Foundation

/-! ### Lookup -/

section Lookup

variable {Entry Key : Type*} [DecidableEq Key] (keyOf : Entry → Key)

/-- The first entry with the key. -/
def lookup (entries : List Entry) (key : Key) : Option Entry :=
  entries.find? fun entry => decide (keyOf entry = key)

/-- The index of the first entry with the key. -/
def position (entries : List Entry) (key : Key) : Option Nat :=
  entries.findIdx? fun entry => decide (keyOf entry = key)

def DistinctKeys (entries : List Entry) : Prop := (entries.map keyOf).Nodup

variable {keyOf} {entries : List Entry} {key : Key} {entry : Entry} {index : Nat}

theorem lookup_key (found : lookup keyOf entries key = some entry) : keyOf entry = key := by
  simpa using List.find?_some found

theorem lookup_mem (found : lookup keyOf entries key = some entry) : entry ∈ entries :=
  List.mem_of_find?_eq_some found

theorem lookup_eq_none_iff :
    lookup keyOf entries key = none ↔ ∀ entry ∈ entries, keyOf entry ≠ key := by
  simp [lookup, List.find?_eq_none]

/-- With distinct keys, membership is lookup. -/
theorem DistinctKeys.lookup_eq_some_iff (distinct : DistinctKeys keyOf entries) :
    lookup keyOf entries key = some entry ↔ entry ∈ entries ∧ keyOf entry = key := by
  constructor
  · intro found
    exact ⟨lookup_mem found, lookup_key found⟩
  · rintro ⟨member, rfl⟩
    cases found : lookup keyOf entries (keyOf entry) with
    | none => exact absurd rfl (lookup_eq_none_iff.mp found entry member)
    | some other =>
        have same : keyOf other = keyOf entry := lookup_key found
        rw [List.inj_on_of_nodup_map distinct (lookup_mem found) member same]

/-- What lookup answers, as a relation on the entries: enough to compare two tables. -/
theorem DistinctKeys.lookup_congr {others : List Entry} (distinct : DistinctKeys keyOf entries)
    (otherDistinct : DistinctKeys keyOf others)
    (same : ∀ entry, keyOf entry = key → (entry ∈ entries ↔ entry ∈ others)) :
    lookup keyOf entries key = lookup keyOf others key := by
  apply Option.ext
  intro entry
  rw [distinct.lookup_eq_some_iff, otherDistinct.lookup_eq_some_iff]
  constructor
  · rintro ⟨member, keyed⟩
    exact ⟨(same entry keyed).mp member, keyed⟩
  · rintro ⟨member, keyed⟩
    exact ⟨(same entry keyed).mpr member, keyed⟩

omit [DecidableEq Key] in
theorem DistinctKeys.sublist {others : List Entry} (distinct : DistinctKeys keyOf entries)
    (sublist : others.Sublist entries) : DistinctKeys keyOf others :=
  List.Nodup.sublist (sublist.map keyOf) distinct

omit [DecidableEq Key] in
theorem DistinctKeys.filter (distinct : DistinctKeys keyOf entries) (keeps : Entry → Bool) :
    DistinctKeys keyOf (entries.filter keeps) :=
  distinct.sublist List.filter_sublist

omit [DecidableEq Key] in
theorem DistinctKeys.eraseIdx (distinct : DistinctKeys keyOf entries) (index : Nat) :
    DistinctKeys keyOf (entries.eraseIdx index) :=
  distinct.sublist (List.eraseIdx_sublist entries index)

theorem DistinctKeys.append (distinct : DistinctKeys keyOf entries)
    (absent : lookup keyOf entries (keyOf entry) = none) :
    DistinctKeys keyOf (entries ++ [entry]) := by
  rw [DistinctKeys, List.map_append]
  refine List.Nodup.append distinct (List.nodup_singleton _) ?_
  intro value inEntries inSingle
  obtain ⟨other, member, rfl⟩ := List.mem_map.mp inEntries
  exact lookup_eq_none_iff.mp absent other member (by simpa using inSingle)

omit [DecidableEq Key] in
/-- Replacing an entry by one with the same key. -/
theorem DistinctKeys.set (distinct : DistinctKeys keyOf entries)
    (found : entries[index]? = some entry) {replacement : Entry}
    (keyed : keyOf replacement = keyOf entry) :
    DistinctKeys keyOf (entries.set index replacement) := by
  obtain ⟨bound, rfl⟩ := List.getElem?_eq_some_iff.mp found
  have same : (entries.set index replacement).map keyOf = entries.map keyOf := by
    rw [List.map_set, keyed, ← List.getElem_map keyOf (h := by simpa using bound),
      List.set_getElem_self]
  rw [DistinctKeys, same]
  exact distinct

/-- Entries of distinct keys are no more than the keys they are taken from. -/
theorem DistinctKeys.length_le_card (distinct : DistinctKeys keyOf entries) {keys : Finset Key}
    (within : ∀ entry ∈ entries, keyOf entry ∈ keys) : entries.length ≤ keys.card := by
  have mapped : (entries.map keyOf).toFinset ⊆ keys := by
    intro key member
    obtain ⟨entry, listed, rfl⟩ := List.mem_map.mp (List.mem_toFinset.mp member)
    exact within entry listed
  calc entries.length = (entries.map keyOf).length := (List.length_map keyOf).symm
    _ = (entries.map keyOf).toFinset.card := (List.toFinset_card_of_nodup distinct).symm
    _ ≤ keys.card := Finset.card_le_card mapped

theorem lookup_of_position (found : position keyOf entries key = some index) :
    ∃ entry, entries[index]? = some entry ∧ lookup keyOf entries key = some entry := by
  obtain ⟨bound, keyed, earlier⟩ := List.findIdx?_eq_some_iff_getElem.mp found
  refine ⟨entries[index], List.getElem?_eq_getElem bound, ?_⟩
  exact List.find?_eq_some_iff_getElem.mpr
    ⟨keyed, index, bound, rfl, fun before less => by simpa using earlier before less⟩

theorem position_eq_none_iff :
    position keyOf entries key = none ↔ lookup keyOf entries key = none := by
  rw [lookup_eq_none_iff, position, List.findIdx?_eq_none_iff]
  simp

theorem lookup_filter (distinct : DistinctKeys keyOf entries) (keeps : Entry → Bool) :
    lookup keyOf (entries.filter keeps) key = (lookup keyOf entries key).filter keeps := by
  apply Option.ext
  intro entry
  rw [(distinct.filter keeps).lookup_eq_some_iff, Option.filter_eq_some_iff,
    distinct.lookup_eq_some_iff, List.mem_filter]
  tauto

theorem lookup_eraseIdx (distinct : DistinctKeys keyOf entries)
    (found : entries[index]? = some entry) :
    lookup keyOf (entries.eraseIdx index) key =
      if keyOf entry = key then none else lookup keyOf entries key := by
  obtain ⟨bound, rfl⟩ := List.getElem?_eq_some_iff.mp found
  have perm := List.getElem_cons_eraseIdx_perm bound
  have distinctCons : DistinctKeys keyOf (entries[index] :: entries.eraseIdx index) :=
    (perm.map keyOf).nodup_iff.mpr distinct
  split_ifs with keyed
  · rw [lookup_eq_none_iff]
    intro other member sameKey
    rw [DistinctKeys, List.map_cons, List.nodup_cons] at distinctCons
    apply distinctCons.1
    rw [keyed, ← sameKey]
    exact List.mem_map_of_mem member
  · refine (distinct.eraseIdx index).lookup_congr distinct ?_
    intro other sameKey
    rw [← perm.mem_iff, List.mem_cons]
    constructor
    · exact Or.inr
    · rintro (rfl | member)
      · exact absurd sameKey keyed
      · exact member

/-- At most one entry has the key, so counting those with a property is looking one up. -/
theorem length_filter_key (distinct : DistinctKeys keyOf entries) (key : Key)
    (property : Entry → Bool) :
    (entries.filter fun entry => decide (keyOf entry = key) && property entry).length =
      if (lookup keyOf entries key).any property then 1 else 0 := by
  induction entries with
  | nil => rfl
  | cons entry entries inductionHypothesis =>
      rw [DistinctKeys, List.map_cons, List.nodup_cons] at distinct
      by_cases keyed : keyOf entry = key
      · have others : (entries.filter fun other => decide (keyOf other = key) && property other) =
            [] := by
          rw [List.filter_eq_nil_iff]
          intro other member
          have different : keyOf other ≠ key := by
            intro same
            apply distinct.1
            rw [keyed, ← same]
            exact List.mem_map_of_mem member
          simp [different]
        rw [List.filter_cons, others]
        by_cases held : property entry = true <;> simp [lookup, keyed, held]
      · have skipped : lookup keyOf (entry :: entries) key = lookup keyOf entries key := by
          simp [lookup, keyed]
        rw [List.filter_cons_of_neg (by simp [keyed]), inductionHypothesis distinct.2, skipped]

theorem lookup_append :
    lookup keyOf (entries ++ [entry]) key =
      (lookup keyOf entries key).or (if keyOf entry = key then some entry else none) := by
  rw [lookup, List.find?_append]
  by_cases keyed : keyOf entry = key <;> simp [lookup, keyed]

theorem lookup_set (distinct : DistinctKeys keyOf entries)
    (found : entries[index]? = some entry) {replacement : Entry}
    (keyed : keyOf replacement = keyOf entry) :
    lookup keyOf (entries.set index replacement) key =
      if keyOf entry = key then some replacement else lookup keyOf entries key := by
  obtain ⟨bound, rfl⟩ := List.getElem?_eq_some_iff.mp found
  have distinctSet := distinct.set found keyed
  split_ifs with sameKey
  · rw [distinctSet.lookup_eq_some_iff, keyed]
    exact ⟨List.mem_set bound replacement, sameKey⟩
  · refine distinctSet.lookup_congr distinct ?_
    intro other otherKey
    constructor
    · intro member
      rcases List.mem_or_eq_of_mem_set member with old | rfl
      · exact old
      · exact absurd (keyed.symm.trans otherKey) sameKey
    · intro member
      obtain ⟨place, placeBound, rfl⟩ := List.mem_iff_getElem.mp member
      have elsewhere : index ≠ place := by
        rintro rfl
        exact sameKey otherKey
      rw [List.mem_iff_getElem]
      exact ⟨place, by simpa using placeBound, List.getElem_set_ne elsewhere _⟩

/-- Tables that answer alike hold the same entries. -/
theorem DistinctKeys.perm_of_lookup {others : List Entry} (distinct : DistinctKeys keyOf entries)
    (otherDistinct : DistinctKeys keyOf others)
    (same : ∀ key, lookup keyOf entries key = lookup keyOf others key) : entries.Perm others := by
  rw [List.perm_ext_iff_of_nodup (List.Nodup.of_map keyOf distinct)
    (List.Nodup.of_map keyOf otherDistinct)]
  intro entry
  have here := @DistinctKeys.lookup_eq_some_iff _ _ _ keyOf entries (keyOf entry) entry distinct
  have there := @DistinctKeys.lookup_eq_some_iff _ _ _ keyOf others (keyOf entry) entry
    otherDistinct
  rw [same] at here
  simpa using here.symm.trans there

omit [DecidableEq Key] in
/-- Dropping an entry that a filter drops anyway. -/
theorem filter_eraseIdx {keeps : Entry → Bool} (found : entries[index]? = some entry)
    (dropped : keeps entry = false) :
    (entries.eraseIdx index).filter keeps = entries.filter keeps := by
  obtain ⟨bound, rfl⟩ := List.getElem?_eq_some_iff.mp found
  have split : entries = entries.take index ++ entries[index] :: entries.drop (index + 1) := by
    rw [List.getElem_cons_drop, List.take_append_drop]
  rw [List.eraseIdx_eq_take_drop_succ, List.filter_append]
  conv_rhs => rw [split, List.filter_append, List.filter_cons_of_neg (by simp [dropped])]

/-- With distinct keys, a slot is overwritten wherever its key is found. -/
theorem DistinctKeys.set_eq_map (distinct : DistinctKeys keyOf entries)
    (found : entries[index]? = some entry) (replacement : Entry) :
    entries.set index replacement =
      entries.map fun other => if keyOf other = keyOf entry then replacement else other := by
  obtain ⟨bound, rfl⟩ := List.getElem?_eq_some_iff.mp found
  apply List.ext_getElem
  · rw [List.length_set, List.length_map]
  · intro place placeBound _
    rw [List.getElem_set, List.getElem_map]
    by_cases same : index = place
    · subst same
      rw [if_pos rfl, if_pos rfl]
    · rw [if_neg same, if_neg]
      intro sameKey
      have keyBound : index < (entries.map keyOf).length := by simpa using bound
      have placeKeyBound : place < (entries.map keyOf).length := by simpa using placeBound
      have equal : (entries.map keyOf)[index] = (entries.map keyOf)[place] := by
        rw [List.getElem_map, List.getElem_map]
        exact sameKey.symm
      exact same (distinct.getElem_inj_iff.mp equal)

/-- Overwriting the entries of a key keeps every other key. -/
theorem keyOf_overwrite {replacement : Entry} (keyed : keyOf replacement = key) (other : Entry) :
    keyOf (if keyOf other = key then replacement else other) = keyOf other := by
  split_ifs with same
  · rw [keyed, same]
  · rfl

end Lookup

/-! ### The eviction loop -/

section Sweep

variable {State Entry : Type*}
variable (entries : State → List Entry) (evicts : Entry → Bool) (evict : State → Nat → State)

/-- `while (i < count) { if evicts(entries[i]) evict(i); else i++; }`; every pass removes an entry
or steps past one. -/
def sweepFrom : Nat → Nat → State → State
  | 0, _, state => state
  | passes + 1, index, state =>
      match (entries state)[index]? with
      | none => state
      | some entry =>
          if evicts entry then sweepFrom passes index (evict state index)
          else sweepFrom passes (index + 1) state

def sweep (state : State) : State := sweepFrom entries evicts evict (entries state).length 0 state

variable {entries evicts evict}

theorem entries_sweepFrom
    (erases : ∀ state index, entries (evict state index) = (entries state).eraseIdx index)
    {passes : Nat} {state : State} {kept rest : List Entry}
    (split : entries state = kept ++ rest) (enough : rest.length ≤ passes) :
    entries (sweepFrom entries evicts evict passes kept.length state) =
      kept ++ rest.filter fun entry => !evicts entry := by
  induction passes generalizing state kept rest with
  | zero =>
      obtain rfl := List.length_eq_zero_iff.mp (Nat.le_zero.mp enough)
      simp [sweepFrom, split]
  | succ passes inductionHypothesis =>
      cases rest with
      | nil => simp [sweepFrom, split]
      | cons entry rest =>
          have found : (entries state)[kept.length]? = some entry := by
            simp [split]
          simp only [List.length_cons, Nat.add_le_add_iff_right] at enough
          rw [sweepFrom, found]
          by_cases evicted : evicts entry = true
          · have shorter : entries (evict state kept.length) = kept ++ rest := by
              rw [erases, split, List.eraseIdx_append_of_length_le (Nat.le_refl _)]
              simp
            simp only [evicted, if_true]
            rw [inductionHypothesis shorter enough, List.filter_cons_of_neg (by simp [evicted])]
          · have longer : entries state = (kept ++ [entry]) ++ rest := by
              simp [split]
            have step := inductionHypothesis longer enough
            rw [List.length_append, List.length_singleton] at step
            simp only [evicted]
            rw [List.filter_cons_of_pos (by simp [evicted])]
            simpa using step

/-- The loop leaves exactly the entries it does not evict, in their order. -/
theorem entries_sweep
    (erases : ∀ state index, entries (evict state index) = (entries state).eraseIdx index)
    (state : State) :
    entries (sweep entries evicts evict state) =
      (entries state).filter fun entry => !evicts entry :=
  entries_sweepFrom erases (show entries state = [] ++ entries state from rfl) (Nat.le_refl _)

/-- What every eviction keeps, the loop keeps. -/
theorem sweep_invariant (invariant : State → Prop)
    (kept : ∀ state index entry, (entries state)[index]? = some entry → evicts entry = true →
      invariant state → invariant (evict state index))
    {state : State} (start : invariant state) : invariant (sweep entries evicts evict state) := by
  suffices general : ∀ passes index state, invariant state →
      invariant (sweepFrom entries evicts evict passes index state) from general _ _ _ start
  intro passes
  induction passes with
  | zero => exact fun _ _ holds => holds
  | succ passes inductionHypothesis =>
      intro index state holds
      rw [sweepFrom]
      cases found : (entries state)[index]? with
      | none => exact holds
      | some entry =>
          by_cases evicted : evicts entry = true
          · simp only [evicted, if_true]
            exact inductionHypothesis _ _ (kept state index entry found evicted holds)
          · simp only [evicted]
            exact inductionHypothesis _ _ holds

/-- The loop over an image is the image of the loop, where entries, predicate and eviction are. -/
theorem sweep_image {Image ImageEntry : Type*} {imageEntries : Image → List ImageEntry}
    {imageEvicts : ImageEntry → Bool} {imageEvict : Image → Nat → Image} {image : State → Image}
    {imageEntry : Entry → ImageEntry}
    (sameEntries : ∀ state, imageEntries (image state) = (entries state).map imageEntry)
    (sameEvicts : ∀ entry, imageEvicts (imageEntry entry) = evicts entry)
    (sameEvict : ∀ state index, imageEvict (image state) index = image (evict state index))
    (state : State) :
    sweep imageEntries imageEvicts imageEvict (image state) =
      image (sweep entries evicts evict state) := by
  suffices general : ∀ passes index state,
      sweepFrom imageEntries imageEvicts imageEvict passes index (image state) =
        image (sweepFrom entries evicts evict passes index state) by
    rw [sweep, sweep, general, sameEntries, List.length_map]
  intro passes
  induction passes with
  | zero => exact fun _ _ => rfl
  | succ passes inductionHypothesis =>
      intro index state
      rw [sweepFrom, sweepFrom, sameEntries, List.getElem?_map]
      cases (entries state)[index]? with
      | none => rfl
      | some entry =>
          simp only [Option.map_some, sameEvicts]
          split
          · rw [sameEvict, inductionHypothesis]
          · exact inductionHypothesis (index + 1) state

/-- With nothing to evict the loop changes nothing. -/
theorem sweep_eq_self {state : State} (nothing : ∀ entry ∈ entries state, evicts entry = false) :
    sweep entries evicts evict state = state := by
  apply sweep_invariant (fun current => current = state)
  · rintro current index entry found evicted rfl
    rw [nothing entry (List.mem_of_getElem? found)] at evicted
    contradiction
  · rfl

/-- A second run finds nothing to evict. -/
theorem sweep_twice
    (erases : ∀ state index, entries (evict state index) = (entries state).eraseIdx index)
    (state : State) :
    sweep entries evicts evict (sweep entries evicts evict state) =
      sweep entries evicts evict state := by
  apply sweep_eq_self
  intro entry member
  rw [entries_sweep erases, List.mem_filter] at member
  simpa using member.2

/-- A counter that every eviction advances alike is advanced once for each evicted entry. -/
theorem counter_sweep {Total : Type*} (counter : State → Total) (advance : Total → Total)
    (erases : ∀ state index, entries (evict state index) = (entries state).eraseIdx index)
    (advances : ∀ state index entry, (entries state)[index]? = some entry → evicts entry = true →
      counter (evict state index) = advance (counter state)) (state : State) :
    counter (sweep entries evicts evict state) =
      advance^[(entries state).countP evicts] (counter state) := by
  have conserved : advance^[(entries (sweep entries evicts evict state)).countP evicts]
      (counter (sweep entries evicts evict state)) =
        advance^[(entries state).countP evicts] (counter state) := by
    apply sweep_invariant fun current => advance^[(entries current).countP evicts]
      (counter current) = advance^[(entries state).countP evicts] (counter state)
    · intro current index entry found evicted holds
      obtain ⟨bound, rfl⟩ := List.getElem?_eq_some_iff.mp found
      have split : (entries current).countP evicts =
          ((entries current).eraseIdx index).countP evicts + 1 := by
        rw [← (List.getElem_cons_eraseIdx_perm bound).countP_eq, List.countP_cons_of_pos evicted]
      rw [split, Function.iterate_succ_apply] at holds
      rw [advances current index _ found evicted, erases]
      exact holds
    · rfl
  have nothingLeft : ((entries state).filter fun entry => !evicts entry).countP evicts = 0 := by
    rw [List.countP_eq_zero]
    intro entry member
    simpa using (List.mem_filter.mp member).2
  rw [entries_sweep erases, nothingLeft] at conserved
  exact conserved

/-- A counter that each eviction advances by the evicted entry's weight. -/
theorem tally_sweep (tally : State → Nat) (weight : Entry → Nat)
    (erases : ∀ state index, entries (evict state index) = (entries state).eraseIdx index)
    (advances : ∀ state index entry, (entries state)[index]? = some entry → evicts entry = true →
      tally (evict state index) = tally state + weight entry) (state : State) :
    tally (sweep entries evicts evict state) =
      tally state + (((entries state).filter evicts).map weight).sum := by
  let evictedWeight (entries : List Entry) : Nat := ((entries.filter evicts).map weight).sum
  have conserved : tally (sweep entries evicts evict state) +
      evictedWeight (entries (sweep entries evicts evict state)) =
        tally state + evictedWeight (entries state) := by
    apply sweep_invariant fun current =>
      tally current + evictedWeight (entries current) = tally state + evictedWeight (entries state)
    · intro current index entry found evicted holds
      obtain ⟨bound, rfl⟩ := List.getElem?_eq_some_iff.mp found
      have split : evictedWeight (entries current) =
          weight (entries current)[index] + evictedWeight ((entries current).eraseIdx index) := by
        have perm := (((List.getElem_cons_eraseIdx_perm bound).filter evicts).map weight).sum_eq
        rw [List.filter_cons_of_pos evicted, List.map_cons, List.sum_cons] at perm
        exact perm.symm
      rw [advances current index _ found evicted, erases]
      omega
    · rfl
  rw [entries_sweep erases] at conserved
  have nothingLeft : evictedWeight ((entries state).filter fun entry => !evicts entry) = 0 := by
    simp [evictedWeight, List.filter_filter]
  rw [nothingLeft] at conserved
  exact conserved

end Sweep

end MiniSniffer.Foundation
