import MiniSniffer.App.PrefixStability
import MiniSniffer.Foundation.Separated

/-!
Contract: the grammar of DNS questions.

Owns the readings of a name: labels that lie inside the message, pointers below its length, and the
zero byte that ends it, with the offset just past the name's own encoding. The name reader ends on
every input, and accepts exactly the names that have a reading with at most sixteen pointers and at
most 253 bytes; the message decoder accepts exactly plausible headers with no question or with a
whole one.

Does not own answers, which the decoder does not read.
-/

namespace MiniSniffer

open Foundation

/-! ### Readings -/

/-- A reading of the name at `cursor` with its pointers, its labels and the offset just past its
encoding in place. -/
inductive NameReading (data : List UInt8) : Nat → Nat → List (List UInt8) → Nat → Prop
  | root {cursor : Nat} (inside : cursor < data.length) (zero : byteAt data cursor = 0) :
      NameReading data cursor 0 [] (cursor + 1)
  | label {cursor pointers stop : Nat} {labels : List (List UInt8)}
      (nonempty : byteAt data cursor ≠ 0) (short : (byteAt data cursor).toNat ≤ 63)
      (inside : cursor + 1 + (byteAt data cursor).toNat ≤ data.length)
      (rest : NameReading data (cursor + 1 + (byteAt data cursor).toNat) pointers labels stop) :
      NameReading data cursor pointers
        ((data.drop (cursor + 1)).take (byteAt data cursor).toNat :: labels) stop
  | pointer {cursor pointers past : Nat} {labels : List (List UInt8)}
      (inside : cursor + 1 < data.length)
      (marked : byteAt data cursor &&& dnsPointerMask = dnsPointerValue)
      (below : (joinBytes (byteAt data cursor &&& dnsLabelMask)
        (byteAt data (cursor + 1))).toNat < data.length)
      (rest : NameReading data (joinBytes (byteAt data cursor &&& dnsLabelMask)
        (byteAt data (cursor + 1))).toNat pointers labels past) :
      NameReading data cursor (pointers + 1) labels (cursor + 2)

/-- The labels joined by dots. -/
def joinLabels (labels : List (List UInt8)) : List UInt8 := (ascii ".").intercalate labels

/-- The text of a name; the root is a dot. -/
def nameText (labels : List (List UInt8)) : List UInt8 :=
  if labels = [] then ascii "." else joinLabels labels

/-- A name that the reader accepts. -/
structure BoundedReading (data : List UInt8) (offset : Nat) (labels : List (List UInt8))
    (stop : Nat) : Prop where
  reading : ∃ pointers ≤ dnsMaxPointerDepth, NameReading data offset pointers labels stop
  length_le : (joinLabels labels).length ≤ dnsMaxNameLen

/-! ### Messages -/

/-- The limits on the section counts. -/
def CountsWithinLimits (data : List UInt8) : Prop :=
  (readU16 data 4).toNat ≤ 64 ∧ (readU16 data 6).toNat ≤ 512 ∧ (readU16 data 8).toNat ≤ 512 ∧
    (readU16 data 10).toNat ≤ 512

instance (data : List UInt8) : Decidable (CountsWithinLimits data) :=
  inferInstanceAs (Decidable (_ ∧ _))

/-- A first question: its name, then type and class. -/
structure QuestionReading (data : List UInt8) (labels : List (List UInt8)) (stop : Nat) :
    Prop where
  name : BoundedReading data dnsHeaderLen labels stop
  follows : stop + 4 ≤ data.length

/-- The header's values as the message encodes them. -/
structure DnsHeaderDecoded (data : List UInt8) (info : AppInfo) : Prop where
  transactionId : info.dnsTransactionId = readU16 data 0
  isResponse : info.dnsIsResponse = decide (2 ^ 15 ≤ (readU16 data 2).toNat)
  opcode : info.dnsOpcode.toNat = (readU16 data 2).toNat / 2 ^ 11 % 16
  rcode : info.dnsRcode.toNat = (readU16 data 2).toNat % 16
  questionCount : info.dnsQuestionCount = readU16 data 4

structure DnsQuestionDecoded (data : List UInt8) (labels : List (List UInt8)) (stop : Nat)
    (info : AppInfo) : Prop where
  name : info.dnsQueryName = nameText labels
  queryType : info.dnsQueryType = readU16 data stop
  queryClass : info.dnsQueryClass = readU16 data (stop + 2)

/-! ### Passes of the name reader -/

/-- What the reader keeps from pass to pass. -/
structure DnsNameState where
  cursor : Nat
  name : List UInt8
  resume : Option Nat
  depth : Nat
deriving DecidableEq, Repr

inductive DnsNamePass where
  | ends (result : Option (List UInt8 × Nat))
  | goesOn (next : DnsNameState)
deriving DecidableEq, Repr

/-- One pass of `parse_dns_name`. -/
def dnsNamePass (data : List UInt8) (outSize : Nat) (state : DnsNameState) : DnsNamePass :=
  let cursor := state.cursor
  if cursor < data.length then
    let labelLen := byteAt data cursor
    if labelLen = 0 then
      if state.name.length = 0 && outSize < 2 then .ends none
      else
        .ends (some (if state.name.length = 0 then ascii "." else state.name,
          state.resume.getD (cursor + 1)))
    else if labelLen &&& dnsPointerMask = dnsPointerValue then
      if cursor + 1 ≥ data.length || state.depth ≥ dnsMaxPointerDepth then .ends none
      else
        let pointer := (joinBytes (labelLen &&& dnsLabelMask) (byteAt data (cursor + 1))).toNat
        if pointer ≥ data.length then .ends none
        else
          .goesOn
            { cursor := pointer
              name := state.name
              resume := some (state.resume.getD (cursor + 2))
              depth := state.depth + 1 }
    else if labelLen &&& dnsPointerMask ≠ 0 || labelLen > 63 then .ends none
    else if cursor + 1 + labelLen.toNat > data.length then .ends none
    else
      match appendDnsLabel state.name ((data.drop (cursor + 1)).take labelLen.toNat) outSize with
      | none => .ends none
      | some longer =>
          .goesOn { state with cursor := cursor + 1 + labelLen.toNat, name := longer }
  else .ends none

/-- The reader ends within so many passes. -/
def dnsNameEnds (data : List UInt8) (outSize : Nat) : Nat → DnsNameState → Bool
  | 0, _ => false
  | passes + 1, state =>
      match dnsNamePass data outSize state with
      | .ends _ => true
      | .goesOn next => dnsNameEnds data outSize passes next

section Names

variable {data : List UInt8} {outSize passes cursor pointers stop : Nat}
variable {labels : List (List UInt8)} {state next : DnsNameState}

/-- The loop is its passes. -/
theorem parseDnsNameLoop_pass (data : List UInt8) (outSize passes : Nat) (state : DnsNameState) :
    parseDnsNameLoop data outSize (passes + 1) state.cursor state.name state.resume state.depth =
      match dnsNamePass data outSize state with
      | .ends result => result
      | .goesOn next =>
          parseDnsNameLoop data outSize passes next.cursor next.name next.resume next.depth := by
  rw [parseDnsNameLoop, dnsNamePass]
  dsimp only
  split_ifs
  all_goals first
    | rfl
    | (cases appendDnsLabel state.name _ outSize <;> rfl)

/-- What the passes that are left may still use up. -/
def DnsNameState.budget (state : DnsNameState) : Nat :=
  (dnsMaxNameLen - state.name.length) + (dnsMaxPointerDepth - state.depth)

theorem dnsNamePass_budget (goesOn : dnsNamePass data outSize state = .goesOn next) :
    next.budget < state.budget := by
  unfold dnsNamePass at goesOn
  dsimp only at goesOn
  split_ifs at goesOn with inside root onlyDot pointer refused outside reserved short
  · -- a pointer is followed: one less may be
    obtain rfl := DnsNamePass.goesOn.inj goesOn
    simp only [Bool.or_eq_true, decide_eq_true_eq, not_or] at refused
    unfold DnsNameState.budget
    dsimp only
    omega
  · -- a label is not empty, so the name has grown
    split at goesOn
    · contradiction
    next longer appended =>
      obtain rfl := DnsNamePass.goesOn.inj goesOn
      have positive : 0 < (byteAt data state.cursor).toNat :=
        Nat.pos_of_ne_zero fun zero => root (UInt8.toNat_inj.mp zero)
      have grown := appendDnsLabel_length appended
      rw [List.length_take, List.length_drop] at grown
      unfold DnsNameState.budget
      dsimp only
      omega

theorem dnsNameEnds_of_budget (enough : state.budget < passes) :
    dnsNameEnds data outSize passes state = true := by
  induction passes generalizing state with
  | zero => omega
  | succ passes inductionHypothesis =>
      rw [dnsNameEnds]
      cases pass : dnsNamePass data outSize state with
      | ends result => rfl
      | goesOn next =>
          have less := dnsNamePass_budget pass
          exact inductionHypothesis (by omega)

/-! ### What a reading starts with -/

theorem label_not_pointer (byte : UInt8) (short : byte.toNat ≤ 63) :
    byte &&& dnsPointerMask = 0 := by
  have clear : ∀ value : Fin 64, UInt8.ofNat value &&& dnsPointerMask = 0 := by decide +kernel
  have same : UInt8.ofNat byte.toNat = byte := UInt8.ofNat_toNat
  rw [← same]
  exact clear ⟨byte.toNat, by omega⟩

theorem nameReading_inside (reading : NameReading data cursor pointers labels stop) :
    cursor < data.length := by
  cases reading with
  | root inside _ => exact inside
  | label _ _ inside _ => omega
  | pointer inside _ _ _ => omega

theorem nameReading_root (inside : cursor < data.length) (zero : byteAt data cursor = 0) :
    NameReading data cursor pointers labels stop ↔
      pointers = 0 ∧ labels = [] ∧ stop = cursor + 1 := by
  constructor
  · intro reading
    cases reading with
    | root _ _ => exact ⟨rfl, rfl, rfl⟩
    | label nonempty _ _ _ => exact absurd zero nonempty
    | pointer _ marked _ _ =>
        rw [zero] at marked
        exact absurd marked (by decide)
  · rintro ⟨rfl, rfl, rfl⟩
    exact .root inside zero

theorem nameReading_pointer
    (marked : byteAt data cursor &&& dnsPointerMask = dnsPointerValue) :
    NameReading data cursor pointers labels stop ↔
      cursor + 1 < data.length ∧ stop = cursor + 2 ∧
        (joinBytes (byteAt data cursor &&& dnsLabelMask) (byteAt data (cursor + 1))).toNat <
          data.length ∧
        ∃ rest past, pointers = rest + 1 ∧ NameReading data
          (joinBytes (byteAt data cursor &&& dnsLabelMask) (byteAt data (cursor + 1))).toNat rest
          labels past := by
  constructor
  · intro reading
    cases reading with
    | root _ zero =>
        rw [zero] at marked
        exact absurd marked (by decide)
    | label _ short _ _ =>
        rw [label_not_pointer _ short] at marked
        exact absurd marked (by decide)
    | pointer inside _ below rest => exact ⟨inside, rfl, below, _, _, rfl, rest⟩
  · rintro ⟨inside, rfl, below, rest, past, rfl, reading⟩
    exact .pointer inside marked below reading

theorem nameReading_label (nonempty : byteAt data cursor ≠ 0)
    (unmarked : byteAt data cursor &&& dnsPointerMask ≠ dnsPointerValue) :
    NameReading data cursor pointers labels stop ↔
      (byteAt data cursor).toNat ≤ 63 ∧
        cursor + 1 + (byteAt data cursor).toNat ≤ data.length ∧
        ∃ rest, labels = (data.drop (cursor + 1)).take (byteAt data cursor).toNat :: rest ∧
          NameReading data (cursor + 1 + (byteAt data cursor).toNat) pointers rest stop := by
  constructor
  · intro reading
    cases reading with
    | root _ zero => exact absurd zero nonempty
    | label _ short inside rest => exact ⟨short, inside, _, rfl, rest⟩
    | pointer _ marked _ _ => exact absurd marked unmarked
  · rintro ⟨short, inside, rest, rfl, reading⟩
    exact .label nonempty short inside reading

/-! ### Joined names -/

/-- A name with one more label. -/
def joinLabel (name label : List UInt8) : List UInt8 :=
  (if name.length ≠ 0 then name ++ ascii "." else name) ++ label

theorem appendDnsLabel_eq {name label : List UInt8} (nonempty : label ≠ []) :
    appendDnsLabel name label minisnifferAppTextLen =
      if (joinLabel name label).length ≤ dnsMaxNameLen then some (joinLabel name label)
      else none := by
  have positive := List.length_pos_iff.mpr nonempty
  have tooLong : ∀ length, dnsNameTooLong minisnifferAppTextLen length =
      decide (dnsMaxNameLen < length) := by
    intro length
    rw [Bool.eq_iff_iff, dnsNameTooLong, Bool.or_eq_true, decide_eq_true_iff, decide_eq_true_iff]
    unfold minisnifferAppTextLen dnsMaxNameLen
    omega
  have joinedLength : (joinLabel name label).length =
      (if name.length ≠ 0 then name ++ ascii "." else name).length + label.length :=
    List.length_append
  have separatedLength : name.length ≠ 0 →
      (if name.length ≠ 0 then name ++ ascii "." else name).length = name.length + 1 := by
    intro started
    rw [if_pos started, List.length_append]
    rfl
  unfold appendDnsLabel
  dsimp only
  rw [tooLong, tooLong, joinedLength]
  by_cases noDot : (decide (name.length ≠ 0) && decide (dnsMaxNameLen < name.length + 1)) = true
  · simp only [Bool.and_eq_true, decide_eq_true_eq] at noDot
    rw [if_pos (by simpa using noDot), if_neg (by rw [separatedLength noDot.1]; omega)]
  · rw [if_neg noDot]
    by_cases fits : (if name.length ≠ 0 then name ++ ascii "." else name).length + label.length ≤
        dnsMaxNameLen
    · rw [if_pos fits, if_neg (by rw [decide_eq_true_eq]; omega)]
      rfl
    · rw [if_neg fits, if_pos (by rw [decide_eq_true_eq]; omega)]

theorem joinLabel_eq_joinWith : joinLabel = joinWith (ascii ".") := by
  funext name label
  cases name with
  | nil => rfl
  | cons first others => simp [joinLabel, joinWith]

theorem foldl_joinLabel_length (name : List UInt8) (labels : List (List UInt8)) :
    name.length ≤ (labels.foldl joinLabel name).length := by
  rw [joinLabel_eq_joinWith]
  exact length_foldl_joinWith (ascii ".") name labels

theorem foldl_joinLabel (name : List UInt8) (labels : List (List UInt8)) (nonempty : name ≠ []) :
    labels.foldl joinLabel name = joinLabels (name :: labels) := by
  rw [joinLabel_eq_joinWith]
  exact foldl_joinWith_of_ne_nil nonempty (ascii ".") labels

theorem nameReading_labels_nonempty (reading : NameReading data cursor pointers labels stop) :
    ∀ label ∈ labels, label ≠ [] := by
  induction reading with
  | root => simp
  | pointer _ _ _ _ inductionHypothesis => exact inductionHypothesis
  | @label cursor pointers stop labels nonempty short inside rest inductionHypothesis =>
      rw [List.forall_mem_cons]
      refine ⟨?_, inductionHypothesis⟩
      have positive : 0 < (byteAt data cursor).toNat :=
        Nat.pos_of_ne_zero fun zero => nonempty (UInt8.toNat_inj.mp zero)
      apply List.ne_nil_of_length_pos
      rw [List.length_take, List.length_drop]
      omega

/-- The reader's text of a name is that of its labels. -/
theorem joinLabels_eq_foldl (nonempty : ∀ label ∈ labels, label ≠ []) :
    joinLabels labels = labels.foldl joinLabel [] := by
  cases labels with
  | nil => rfl
  | cons label labels =>
      rw [List.foldl_cons]
      exact (foldl_joinLabel _ _ (nonempty label List.mem_cons_self)).symm

/-! ### One pass -/

theorem dnsNamePass_outside (outside : ¬ state.cursor < data.length) :
    dnsNamePass data minisnifferAppTextLen state = .ends none := if_neg outside

theorem dnsNamePass_root (inside : state.cursor < data.length)
    (root : byteAt data state.cursor = 0) :
    dnsNamePass data minisnifferAppTextLen state =
      .ends (some (if state.name.length = 0 then ascii "." else state.name,
        state.resume.getD (state.cursor + 1))) := by
  rw [dnsNamePass, if_pos inside]
  dsimp only
  rw [if_pos root, if_neg (by simp [minisnifferAppTextLen])]

theorem dnsNamePass_pointer (inside : state.cursor < data.length)
    (marked : byteAt data state.cursor &&& dnsPointerMask = dnsPointerValue) :
    dnsNamePass data minisnifferAppTextLen state =
      if state.cursor + 1 < data.length ∧ state.depth < dnsMaxPointerDepth ∧
          (joinBytes (byteAt data state.cursor &&& dnsLabelMask)
            (byteAt data (state.cursor + 1))).toNat < data.length then
        .goesOn
          { cursor := (joinBytes (byteAt data state.cursor &&& dnsLabelMask)
              (byteAt data (state.cursor + 1))).toNat
            name := state.name
            resume := some (state.resume.getD (state.cursor + 2))
            depth := state.depth + 1 }
      else .ends none := by
  have notRoot : byteAt data state.cursor ≠ 0 := by
    intro zero
    rw [zero] at marked
    exact absurd marked (by decide)
  rw [dnsNamePass, if_pos inside]
  dsimp only
  rw [if_neg notRoot, if_pos marked]
  split_ifs with refused outside whole whole
  · simp only [Bool.or_eq_true, decide_eq_true_eq] at refused
    omega
  · rfl
  · omega
  · rfl
  · rfl
  · simp only [Bool.or_eq_true, decide_eq_true_eq] at refused
    omega

theorem dnsNamePass_label (inside : state.cursor < data.length)
    (nonempty : byteAt data state.cursor ≠ 0)
    (unmarked : byteAt data state.cursor &&& dnsPointerMask ≠ dnsPointerValue) :
    dnsNamePass data minisnifferAppTextLen state =
      if (byteAt data state.cursor).toNat ≤ 63 ∧
          state.cursor + 1 + (byteAt data state.cursor).toNat ≤ data.length ∧
          (joinLabel state.name ((data.drop (state.cursor + 1)).take
            (byteAt data state.cursor).toNat)).length ≤ dnsMaxNameLen then
        .goesOn
          { state with
            cursor := state.cursor + 1 + (byteAt data state.cursor).toNat
            name := joinLabel state.name ((data.drop (state.cursor + 1)).take
              (byteAt data state.cursor).toNat) }
      else .ends none := by
  have positive : 0 < (byteAt data state.cursor).toNat :=
    Nat.pos_of_ne_zero fun zero => nonempty (UInt8.toNat_inj.mp zero)
  have shortIff : (byteAt data state.cursor).toNat ≤ 63 ↔
      ¬ (byteAt data state.cursor &&& dnsPointerMask ≠ 0 || byteAt data state.cursor > 63) =
        true := by
    rw [Bool.or_eq_true, decide_eq_true_iff, decide_eq_true_iff, not_or, not_not, gt_iff_lt,
      UInt8.lt_iff_toNat_lt, Nat.not_lt]
    exact ⟨fun short => ⟨label_not_pointer _ short, short⟩, fun clear => clear.2⟩
  rw [dnsNamePass, if_pos inside]
  dsimp only
  rw [if_neg nonempty, if_neg unmarked]
  by_cases short : (byteAt data state.cursor).toNat ≤ 63
  · rw [if_neg (shortIff.mp short)]
    by_cases whole : state.cursor + 1 + (byteAt data state.cursor).toNat ≤ data.length
    · have someBytes : (data.drop (state.cursor + 1)).take (byteAt data state.cursor).toNat ≠
          [] := by
        apply List.ne_nil_of_length_pos
        rw [List.length_take, List.length_drop]
        omega
      rw [if_neg (by omega), appendDnsLabel_eq someBytes]
      by_cases fits : (joinLabel state.name ((data.drop (state.cursor + 1)).take
          (byteAt data state.cursor).toNat)).length ≤ dnsMaxNameLen
      · rw [if_pos fits, if_pos ⟨short, whole, fits⟩]
      · rw [if_neg fits, if_neg fun all => fits all.2.2]
    · rw [if_pos (by omega), if_neg fun all => whole all.2.1]
  · rw [if_pos (not_not.mp fun clear => short (shortIff.mpr clear)),
      if_neg fun all => short all.1]

/-- The reader accepts exactly the names that have a reading with the pointers and bytes that are
left. -/
theorem parseDnsNameLoop_iff {text : List UInt8} (enough : state.budget < passes)
    (nameLe : state.name.length ≤ dnsMaxNameLen) (depthLe : state.depth ≤ dnsMaxPointerDepth) :
    parseDnsNameLoop data minisnifferAppTextLen passes state.cursor state.name state.resume
        state.depth = some (text, stop) ↔
      ∃ pointers labels past, NameReading data state.cursor pointers labels past ∧
        state.depth + pointers ≤ dnsMaxPointerDepth ∧
        (labels.foldl joinLabel state.name).length ≤ dnsMaxNameLen ∧
        stop = state.resume.getD past ∧
        text = if labels.foldl joinLabel state.name = [] then ascii "."
          else labels.foldl joinLabel state.name := by
  induction passes generalizing state with
  | zero => omega
  | succ passes inductionHypothesis =>
      rw [parseDnsNameLoop_pass]
      by_cases inside : state.cursor < data.length
      swap
      · rw [dnsNamePass_outside inside]
        refine iff_of_false (by simp) ?_
        rintro ⟨_, _, _, reading, -⟩
        exact inside (nameReading_inside reading)
      by_cases root : byteAt data state.cursor = 0
      · rw [dnsNamePass_root inside root]
        simp only [nameReading_root inside root]
        rw [Option.some.injEq, Prod.mk.injEq]
        constructor
        · rintro ⟨rfl, rfl⟩
          exact ⟨0, [], state.cursor + 1, ⟨rfl, rfl, rfl⟩, depthLe, nameLe, rfl,
            if_congr List.length_eq_zero_iff rfl rfl⟩
        · rintro ⟨_, _, _, ⟨rfl, rfl, rfl⟩, -, -, rfl, rfl⟩
          exact ⟨if_congr List.length_eq_zero_iff rfl rfl, rfl⟩
      by_cases marked : byteAt data state.cursor &&& dnsPointerMask = dnsPointerValue
      · rw [dnsNamePass_pointer inside marked]
        by_cases follows : state.cursor + 1 < data.length ∧ state.depth < dnsMaxPointerDepth ∧
            (joinBytes (byteAt data state.cursor &&& dnsLabelMask)
              (byteAt data (state.cursor + 1))).toNat < data.length
        · have pass := dnsNamePass_pointer inside marked
          rw [if_pos follows] at pass ⊢
          have less := dnsNamePass_budget pass
          have after := inductionHypothesis (less.trans_le (Nat.lt_succ_iff.mp enough)) nameLe
            follows.2.1
          refine after.trans ⟨?_, ?_⟩
          · rintro ⟨pointers, labels, past, reading, total, lengthLe, rfl, rfl⟩
            exact ⟨pointers + 1, labels, state.cursor + 2, .pointer follows.1 marked follows.2.2
              reading, by dsimp only at total; omega, lengthLe, rfl, rfl⟩
          · rintro ⟨_, labels, past, reading, total, lengthLe, stopEq, textEq⟩
            rw [nameReading_pointer marked] at reading
            obtain ⟨-, rfl, -, rest, target, rfl, inner⟩ := reading
            exact ⟨rest, labels, target, inner, by dsimp only; omega, lengthLe, stopEq, textEq⟩
        · rw [if_neg follows]
          refine iff_of_false (by simp) ?_
          rintro ⟨_, _, _, reading, depthTotal, -⟩
          rw [nameReading_pointer marked] at reading
          obtain ⟨whole, -, below, rest, -, rfl, -⟩ := reading
          exact follows ⟨whole, by omega, below⟩
      · rw [dnsNamePass_label inside root marked]
        by_cases continues : (byteAt data state.cursor).toNat ≤ 63 ∧
            state.cursor + 1 + (byteAt data state.cursor).toNat ≤ data.length ∧
            (joinLabel state.name ((data.drop (state.cursor + 1)).take
              (byteAt data state.cursor).toNat)).length ≤ dnsMaxNameLen
        · have pass := dnsNamePass_label inside root marked
          rw [if_pos continues] at pass ⊢
          have less := dnsNamePass_budget pass
          have after := inductionHypothesis (less.trans_le (Nat.lt_succ_iff.mp enough))
            continues.2.2 depthLe
          refine after.trans ⟨?_, ?_⟩
          · rintro ⟨pointers, labels, past, reading, total, lengthLe, rfl, rfl⟩
            exact ⟨pointers, _ :: labels, past, .label root continues.1 continues.2.1 reading,
              total, lengthLe, rfl, rfl⟩
          · rintro ⟨pointers, _, past, reading, total, lengthLe, stopEq, textEq⟩
            rw [nameReading_label root marked] at reading
            obtain ⟨-, -, labels, rfl, inner⟩ := reading
            exact ⟨pointers, labels, past, inner, total, lengthLe, stopEq, textEq⟩
        · rw [if_neg continues]
          refine iff_of_false (by simp) ?_
          rintro ⟨_, _, _, reading, -, lengthLe, -⟩
          rw [nameReading_label root marked] at reading
          obtain ⟨short, whole, rest, rfl, -⟩ := reading
          exact continues ⟨short, whole, (foldl_joinLabel_length _ rest).trans lengthLe⟩

theorem joinLabels_eq_nil (nonempty : ∀ label ∈ labels, label ≠ []) :
    joinLabels labels = [] ↔ labels = [] := by
  rw [joinLabels_eq_foldl nonempty]
  cases labels with
  | nil => simp
  | cons label labels =>
      refine iff_of_false ?_ (by simp)
      intro empty
      have least := foldl_joinLabel_length (joinLabel [] label) labels
      have positive := List.length_pos_iff.mpr (nonempty label List.mem_cons_self)
      have first : (joinLabel [] label).length = label.length := rfl
      rw [List.foldl_cons] at empty
      rw [empty, List.length_nil] at least
      omega

/-- The name reader accepts exactly the names with a reading that stays within its bounds. -/
theorem parseDnsName_iff {text : List UInt8} {offset : Nat} :
    parseDnsName data offset minisnifferAppTextLen = some (text, stop) ↔
      ∃ labels, BoundedReading data offset labels stop ∧ text = nameText labels := by
  have sized : ¬ minisnifferAppTextLen = 0 := by decide
  unfold parseDnsName
  by_cases inside : offset < data.length
  · rw [if_neg (by simp [sized, inside])]
    have budget : (⟨offset, [], none, 0⟩ : DnsNameState).budget < dnsNamePasses := by
      simp [DnsNameState.budget, dnsNamePasses]
    refine (parseDnsNameLoop_iff budget (Nat.zero_le _) (Nat.zero_le _)).trans ⟨?_, ?_⟩
    · rintro ⟨pointers, labels, past, reading, total, lengthLe, rfl, rfl⟩
      have nonempty := nameReading_labels_nonempty reading
      rw [Nat.zero_add] at total
      refine ⟨labels, ⟨⟨pointers, total, reading⟩, ?_⟩, ?_⟩
      · rw [joinLabels_eq_foldl nonempty]
        exact lengthLe
      · rw [nameText, ← joinLabels_eq_foldl nonempty]
        exact if_congr (joinLabels_eq_nil nonempty) rfl rfl
    · rintro ⟨labels, ⟨⟨pointers, total, reading⟩, lengthLe⟩, rfl⟩
      have nonempty := nameReading_labels_nonempty reading
      refine ⟨pointers, labels, stop, reading, by rw [Nat.zero_add]; exact total, ?_, rfl, ?_⟩
      · rw [← joinLabels_eq_foldl nonempty]
        exact lengthLe
      · rw [nameText, ← joinLabels_eq_foldl nonempty]
        exact (if_congr (joinLabels_eq_nil nonempty) rfl rfl).symm
  · rw [if_pos (by simp [Nat.le_of_not_lt inside])]
    refine iff_of_false (by simp) ?_
    rintro ⟨labels, ⟨⟨pointers, -, reading⟩, -⟩, -⟩
    exact inside (nameReading_inside reading)

/-! ### The first question -/

/-- A question is accepted exactly if it has a reading, and is then decoded as the reading says. -/
theorem parseFirstQuestion_iff {out asked : AppInfo} :
    parseFirstQuestion data out = some asked ↔
      ∃ labels stop, QuestionReading data labels stop ∧ asked = { out with
        dnsQueryName := nameText labels
        dnsQueryType := readU16 data stop
        dnsQueryClass := readU16 data (stop + 2) } := by
  unfold parseFirstQuestion
  constructor
  · intro accepted
    split at accepted
    · contradiction
    next text stop parsed =>
      obtain ⟨labels, bounded, rfl⟩ := parseDnsName_iff.mp parsed
      split at accepted
      · contradiction
      next queryType reader readType =>
        split at accepted
        · contradiction
        next queryClass _ readClass =>
          obtain ⟨typeInside, rfl, rfl⟩ := brReadU16Be_bound readType
          obtain ⟨classInside, rfl, -⟩ := brReadU16Be_bound readClass
          exact ⟨labels, stop, ⟨bounded, classInside⟩, (Option.some.inj accepted).symm⟩
  · rintro ⟨labels, stop, ⟨bounded, follows⟩, rfl⟩
    rw [parseDnsName_iff.mpr ⟨labels, bounded, rfl⟩]
    dsimp only
    rw [brReadU16Be_inside (by omega)]
    dsimp only
    rw [brReadU16Be_inside (by omega)]

/-! ### The message -/

theorem dnsHeaderIsPlausible_iff :
    dnsHeaderIsPlausible (readU16 data 4) (readU16 data 6) (readU16 data 8) (readU16 data 10) =
      true ↔ CountsWithinLimits data := by
  simp only [dnsHeaderIsPlausible, Bool.and_eq_true, decide_eq_true_iff, UInt16.le_iff_toNat_le,
    and_assoc]
  exact Iff.rfl

/-- The metadata of a header, before its question. -/
def headerInfo (data : List UInt8) : AppInfo where
  protocol := .dns
  dnsTransactionId := readU16 data 0
  dnsQuestionCount := readU16 data 4
  dnsIsResponse := readU16 data 2 &&& 0x8000 != 0
  dnsOpcode := ((readU16 data 2 >>> 11) &&& 0x0f).toUInt8
  dnsRcode := (readU16 data 2 &&& 0x0f).toUInt8

theorem toNat_lowNibble (flags : UInt16) : (flags &&& 0x0f).toNat = flags.toNat % 16 := by
  rw [UInt16.toNat_and]
  exact Nat.and_two_pow_sub_one_eq_mod flags.toNat 4

theorem topBit_eq (flags : UInt16) : (flags &&& 0x8000 != 0) = decide (2 ^ 15 ≤ flags.toNat) := by
  have bound := flags.toNat_lt
  have masked : (flags &&& 0x8000).toNat = (flags.toNat.testBit 15).toNat * 2 ^ 15 := by
    rw [UInt16.toNat_and]
    exact Nat.and_two_pow flags.toNat 15
  rw [Bool.eq_iff_iff, bne_iff_ne, Ne, ← UInt16.toNat_inj, masked,
    Nat.testBit_eq_decide_div_mod_eq, decide_eq_true_iff]
  by_cases high : flags.toNat / 2 ^ 15 % 2 = 1
  · rw [decide_eq_true high]
    exact iff_of_true (by decide) (by omega)
  · rw [decide_eq_false high]
    exact iff_of_false (by decide) (by omega)

theorem headerInfo_decoded (data : List UInt8) : DnsHeaderDecoded data (headerInfo data) where
  transactionId := rfl
  isResponse := topBit_eq _
  opcode := by
    show (((readU16 data 2 >>> 11) &&& 0x0f).toUInt8).toNat = _
    rw [UInt16.toNat_toUInt8, toNat_lowNibble, UInt16.toNat_shiftRight]
    show (readU16 data 2).toNat >>> 11 % 16 % 2 ^ 8 = _
    rw [Nat.shiftRight_eq_div_pow]
    omega
  rcode := by
    show ((readU16 data 2 &&& 0x0f).toUInt8).toNat = _
    rw [UInt16.toNat_toUInt8, toNat_lowNibble]
    omega
  questionCount := rfl

/-- A whole header and what follows from its counts and its question. -/
theorem appDnsDecodeMessage_eq (long : dnsHeaderLen ≤ data.length) :
    appDnsDecodeMessage data =
      if ¬ CountsWithinLimits data then (.noMatch, {})
      else if readU16 data 4 = 0 then
        (.ok, { headerInfo data with summary := dnsSummary (ascii "DNS") (headerInfo data) })
      else
        match parseFirstQuestion data (headerInfo data) with
        | none => (.malformed, {})
        | some asked => (.ok, { asked with summary := dnsSummary (ascii "DNS") asked }) := by
  have header : dnsHeaderLen = 12 := rfl
  have noQuestion : readU16 data 4 > 0 ↔ ¬ readU16 data 4 = 0 := by
    rw [gt_iff_lt, UInt16.pos_iff_ne_zero]
  unfold appDnsDecodeMessage decodeDnsMessageAs
  rw [if_neg (by omega), if_neg (by omega), readDnsHeader_eq long]
  dsimp only
  by_cases limits : CountsWithinLimits data
  · rw [dnsHeaderIsPlausible_iff.mpr limits, if_neg (by simp), if_neg (not_not_intro limits)]
    by_cases none : readU16 data 4 = 0
    · rw [if_neg (by rw [noQuestion]; exact not_not_intro none), if_pos none]
      rfl
    · rw [if_pos (noQuestion.mpr none), if_neg none]
      rfl
  · rw [if_pos limits, if_pos]
    rw [Bool.not_eq_true', Bool.eq_false_iff, Ne, dnsHeaderIsPlausible_iff]
    exact limits

/-- The decoder ends on every message, accepts exactly plausible counts with no question or with
one that has a reading, and then decodes what the message encodes; otherwise the message is
malformed if its counts are plausible, and no match if not. -/
theorem dns_message_grammar (long : dnsHeaderLen ≤ data.length) :
    dnsNameEnds data minisnifferAppTextLen dnsNamePasses ⟨dnsHeaderLen, [], none, 0⟩ = true ∧
      ((appDnsDecodeMessage data).1 = .ok ↔ CountsWithinLimits data ∧
        (readU16 data 4 = 0 ∨ ∃ labels stop, QuestionReading data labels stop)) ∧
      ((appDnsDecodeMessage data).1 = .ok →
        DnsHeaderDecoded data (appDnsDecodeMessage data).2 ∧
          (readU16 data 4 ≠ 0 → ∀ labels stop, QuestionReading data labels stop →
            DnsQuestionDecoded data labels stop (appDnsDecodeMessage data).2)) ∧
      ((appDnsDecodeMessage data).1 ≠ .ok →
        (appDnsDecodeMessage data).1 = if CountsWithinLimits data then .malformed
          else .noMatch) := by
  refine ⟨dnsNameEnds_of_budget (by simp [DnsNameState.budget, dnsNamePasses]), ?_⟩
  rw [appDnsDecodeMessage_eq long]
  by_cases limits : CountsWithinLimits data
  · rw [if_neg (not_not_intro limits), if_pos limits]
    have decoded := headerInfo_decoded data
    by_cases none : readU16 data 4 = 0
    · rw [if_pos none]
      exact ⟨iff_of_true rfl ⟨limits, Or.inl none⟩,
        fun _ => ⟨⟨decoded.1, decoded.2, decoded.3, decoded.4, decoded.5⟩,
          fun some => absurd none some⟩, fun refused => absurd rfl refused⟩
    · rw [if_neg none]
      have accepts := fun asked => @parseFirstQuestion_iff data (headerInfo data) asked
      cases parsed : parseFirstQuestion data (headerInfo data) with
      | none =>
          refine ⟨iff_of_false (by simp) ?_, fun accepted => by contradiction, fun _ => rfl⟩
          rintro ⟨-, zero | ⟨labels, stop, reading⟩⟩
          · exact none zero
          · have accepted := (accepts _).mpr ⟨labels, stop, reading, rfl⟩
            rw [parsed] at accepted
            contradiction
      | some asked =>
          obtain ⟨labels, stop, reading, askedEq⟩ := (accepts asked).mp parsed
          refine ⟨iff_of_true rfl ⟨limits, Or.inr ⟨labels, stop, reading⟩⟩, fun _ => ⟨?_, ?_⟩,
            fun refused => absurd rfl refused⟩
          · rw [askedEq]
            exact ⟨decoded.1, decoded.2, decoded.3, decoded.4, decoded.5⟩
          · intro _ otherLabels otherStop otherReading
            -- any reading of the question is the one that was decoded
            have same := (accepts _).mpr ⟨otherLabels, otherStop, otherReading, rfl⟩
            rw [parsed] at same
            rw [Option.some.inj same]
            exact ⟨rfl, rfl, rfl⟩
  · rw [if_pos limits, if_neg limits]
    exact ⟨iff_of_false (by simp) fun accepted => limits accepted.1,
      fun accepted => by contradiction, fun _ => rfl⟩

/-- A query for `a`, whose name is a pointer to the end of the message. -/
def samplePointerQuery : List UInt8 :=
  [0, 7, 1, 0, 0, 1, 0, 0, 0, 0, 0, 0, 0xc0, 18, 0, 1, 0, 1, 1, 97, 0]

theorem dns_message_grammar_samplePointerQuery :
    dnsHeaderLen ≤ samplePointerQuery.length ∧
      ((appDnsDecodeMessage samplePointerQuery).1 = .ok ↔ CountsWithinLimits samplePointerQuery ∧
        (readU16 samplePointerQuery 4 = 0 ∨
          ∃ labels stop, QuestionReading samplePointerQuery labels stop)) :=
  ⟨by decide, (dns_message_grammar (by decide)).2.1⟩

example : (appDnsDecodeMessage samplePointerQuery).1 = .ok ∧
    (appDnsDecodeMessage samplePointerQuery).2.dnsQueryName = ascii "a" := by decide +kernel

/-- A pointer to itself is read sixteen times and refused. -/
example : (appDnsDecodeMessage
    [0, 7, 1, 0, 0, 1, 0, 0, 0, 0, 0, 0, 0xc0, 12, 0, 1, 0, 1]).1 = .malformed := by
  decide +kernel

end Names

end MiniSniffer
