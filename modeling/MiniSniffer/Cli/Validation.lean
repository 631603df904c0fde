import MiniSniffer.Capture.Loop
import MiniSniffer.Cli.Arguments
import MiniSniffer.Cli.Numbers

/-!
Contract: the command line and the tables agree on sizes.

Owns the limits that every option keeps, and that a configuration which the command line lets
through is one that the fragment table, the flow table and the parser take as it is.

Does not own what the tables do with their sizes: see `Flow.Table` and `Fragment.Table`.
-/

namespace MiniSniffer

open Foundation

/-! ### Limits -/

/-- What the checks read of a state. -/
structure CliLimits where
  payloadDecodeBytes : Nat
  maxFlows : Nat
  streamBufferBytes : Nat
  fragmentMaxDatagrams : Nat
  fragmentMaxBytes : Nat
  maxFlowsWasSet : Bool
  streamBufferWasSet : Bool

def CliState.limits (state : CliState) : CliLimits where
  payloadDecodeBytes := state.config.payloadDecodeBytes
  maxFlows := state.config.maxFlows
  streamBufferBytes := state.config.streamBufferBytes
  fragmentMaxDatagrams := state.config.ipv4FragmentMaxDatagrams
  fragmentMaxBytes := state.config.ipv4FragmentMaxBytes
  maxFlowsWasSet := state.maxFlowsWasSet
  streamBufferWasSet := state.streamBufferWasSet

/-- Sizes are positive, and default unless an option set them; no option reaches the fragment
table. -/
structure WithinLimits (state : CliState) : Prop where
  decodePositive : 0 < state.limits.payloadDecodeBytes
  decodeSmall : state.limits.payloadDecodeBytes ≤ minisnifferMaxPayloadDecodeBytes
  flowsPositive : 0 < state.limits.maxFlows
  bufferPositive : 0 < state.limits.streamBufferBytes
  flowsDefault : state.limits.maxFlowsWasSet = false →
    state.limits.maxFlows = configInitDefaults.maxFlows
  bufferDefault : state.limits.streamBufferWasSet = false →
    state.limits.streamBufferBytes = configInitDefaults.streamBufferBytes
  datagrams : state.limits.fragmentMaxDatagrams = configInitDefaults.ipv4FragmentMaxDatagrams
  bytes : state.limits.fragmentMaxBytes = configInitDefaults.ipv4FragmentMaxBytes

theorem withinLimits_defaults : WithinLimits { config := configInitDefaults } :=
  ⟨by decide, by decide, by decide, by decide, fun _ => rfl, fun _ => rfl, rfl, rfl⟩

section Options

variable {state next : CliState} {Value : Type}

theorem WithinLimits.of_limits (within : WithinLimits state) (same : next.limits = state.limits) :
    WithinLimits next := by
  constructor
  all_goals rw [same]
  · exact within.decodePositive
  · exact within.decodeSmall
  · exact within.flowsPositive
  · exact within.bufferPositive
  · exact within.flowsDefault
  · exact within.bufferDefault
  · exact within.datagrams
  · exact within.bytes

theorem flagOption_keeps {update : MiniSnifferConfig → MiniSnifferConfig}
    (same : ∀ state : CliState, (state.configure update).limits = state.limits) :
    (flagOption update).Keeps WithinLimits :=
  fun state within => within.of_limits (same state)

/-- An option keeps the limits if what it stores of a value that it parsed does. -/
theorem parsedOption_keeps {missing : List UInt8} {parse : List UInt8 → Option Value}
    {refused : List UInt8 → List UInt8} {store : Value → CliState → CliState}
    (kept : ∀ text value state, parse text = some value → WithinLimits state →
      WithinLimits (store value state)) :
    (parsedOption missing parse refused store).Keeps WithinLimits := by
  intro text state next within taken
  dsimp only at taken
  cases parsed : parse text with
  | none =>
      rw [parsed] at taken
      contradiction
  | some value =>
      rw [parsed] at taken
      obtain rfl := Except.ok.inj taken
      exact kept text value state parsed within

/-- An option of which nothing is checked afterwards keeps the limits. -/
theorem plainOption_keeps {missing : List UInt8} {parse : List UInt8 → Option Value}
    {refused : List UInt8 → List UInt8} {store : Value → CliState → CliState}
    (same : ∀ value (state : CliState), (store value state).limits = state.limits) :
    (parsedOption missing parse refused store).Keeps WithinLimits :=
  parsedOption_keeps fun _ value state _ within => within.of_limits (same value state)

theorem displayOptions_keep : ∀ entry ∈ displayOptions, entry.2.Keeps WithinLimits := by
  unfold displayOptions
  simp only [List.forall_mem_cons]
  refine ⟨?_, ?_, ?_, ?_, ?_, ?_, ?_, List.forall_mem_nil _⟩
  all_goals
    apply flagOption_keeps
    intro state
    rfl

theorem captureOptions_keep (build : CliBuild) :
    ∀ entry ∈ captureOptions build, entry.2.Keeps WithinLimits := by
  unfold captureOptions
  simp only [List.forall_mem_cons]
  refine ⟨?_, ?_, ?_, ?_, ?_, ?_, ?_, ?_, ?_, List.forall_mem_nil _⟩
  all_goals
    apply plainOption_keeps
    intro value state
    rfl

theorem atMost_some {largest value : Nat} {parsed : Option Nat}
    (taken : atMost largest parsed = some value) : parsed = some value ∧ value ≤ largest := by
  unfold atMost at taken
  split at taken
  next => contradiction
  next number =>
    split at taken
    next => contradiction
    next fits =>
      obtain rfl := Option.some.inj taken
      exact ⟨rfl, Nat.not_lt.mp fits⟩

theorem parsePositiveSize_pos {text : List UInt8} {value : Nat}
    (parsed : parsePositiveSize text = some value) : 0 < value := by
  obtain ⟨_, _, _, _, -, -, -, -, positive⟩ := parsePositiveSize_some_iff.mp parsed
  exact positive

theorem domainMatchOption_keeps (build : CliBuild) :
    (domainMatchOption build).Keeps WithinLimits := by
  intro text state next within taken
  dsimp only at taken
  split at taken
  next => contradiction
  next => contradiction
  next mode _ =>
    obtain rfl := Except.ok.inj taken
    exact within.of_limits rfl

theorem payloadOptions_keep (build : CliBuild) :
    ∀ entry ∈ payloadOptions build, entry.2.Keeps WithinLimits := by
  unfold payloadOptions
  simp only [List.forall_mem_cons]
  refine ⟨?_, ?_, ?_, domainMatchOption_keeps build, ?_, ?_, List.forall_mem_nil _⟩
  · apply flagOption_keeps
    intro state
    rfl
  · apply plainOption_keeps
    intro value state
    rfl
  · apply parsedOption_keeps
    intro text value state parsed within
    obtain ⟨size, fits⟩ := atMost_some parsed
    exact { within with
      decodePositive := parsePositiveSize_pos size
      decodeSmall := fits }
  · apply plainOption_keeps
    intro value state
    rfl
  · apply plainOption_keeps
    intro value state
    rfl

theorem appOptions_keep : ∀ entry ∈ appOptions, entry.2.Keeps WithinLimits := by
  unfold appOptions
  simp only [List.forall_mem_cons]
  refine ⟨?_, ?_, ?_, ?_, ?_, ?_, ?_, ?_, ?_, ?_, List.forall_mem_nil _⟩
  · apply flagOption_keeps
    intro state
    rfl
  all_goals
    apply plainOption_keeps
    intro value state
    rfl

theorem reassemblyOptions_keep : ∀ entry ∈ reassemblyOptions, entry.2.Keeps WithinLimits := by
  unfold reassemblyOptions
  simp only [List.forall_mem_cons]
  refine ⟨?_, ?_, ?_, ?_, ?_, List.forall_mem_nil _⟩
  · apply flagOption_keeps
    intro state
    rfl
  · apply parsedOption_keeps
    intro text value state parsed within
    exact { within with
      flowsPositive := parsePositiveSize_pos parsed
      flowsDefault := fun unset => absurd (show true = false from unset) (by decide) }
  · apply parsedOption_keeps
    intro text value state parsed within
    exact { within with
      bufferPositive := parsePositiveSize_pos parsed
      bufferDefault := fun unset => absurd (show true = false from unset) (by decide) }
  · apply plainOption_keeps
    intro value state
    rfl
  · apply flagOption_keeps
    intro state
    rfl

theorem cliOptions_keep (build : CliBuild) :
    ∀ entry ∈ (cliOptions build).options, entry.2.Keeps WithinLimits := by
  intro entry member
  simp only [cliOptions, List.mem_append] at member
  rcases member with (((display | capture) | payload) | app) | reassembly
  · exact displayOptions_keep entry display
  · exact captureOptions_keep build entry capture
  · exact payloadOptions_keep build entry payload
  · exact appOptions_keep entry app
  · exact reassemblyOptions_keep entry reassembly

end Options

/-! ### Checks -/

/-- A configuration that the tables and the parser take as it is. -/
structure TablesAgree (config : MiniSnifferConfig) : Prop where
  fragmentTable : (ipv4FragmentTableInit config.ipv4FragmentMaxDatagrams
    config.ipv4FragmentMaxBytes config.ipv4FragmentTimeoutSeconds).isSome = true
  appFilters : ∀ enabled ∈ [config.filterAppEnabled, config.filterHttpHostEnabled,
    config.filterHttpMethodEnabled, config.filterDnsQueryEnabled, config.filterDnsTypeEnabled,
    config.filterTlsSniEnabled, config.filterTlsAlpnEnabled, config.filterDhcpTypeEnabled,
    config.filterQuicVersionEnabled], enabled = true → config.decodeApp = true
  reassembly : config.reassemble = true → config.decodeApp = true
  decodeLimit : payloadDecodeLimit config.payloadDecodeBytes = config.payloadDecodeBytes
  flowTable : (flowTableInit config.maxFlows config.streamBufferBytes
    config.flowTimeoutSeconds).isSome = true

section Checks

variable {state : CliState}

/-- What has been checked of a state that is let through. -/
structure Checked (state : CliState) : Prop where
  reassembly : state.config.reassemble = true → state.config.decodeApp = true
  unset : state.config.reassemble = false →
    state.maxFlowsWasSet = false ∧ state.streamBufferWasSet = false
  flows : state.config.reassemble = true → state.config.maxFlows ≤ minisnifferMaxFlows
  buffer : state.config.reassemble = true →
    state.config.streamBufferBytes ≤ minisnifferMaxStreamBufferBytes
  aggregate : state.config.reassemble = true → state.config.maxFlows ≤
    minisnifferMaxTotalReassemblyBytes / 4 / state.config.streamBufferBytes
  filters : anyAppFilter state.config.toAppConfig = true → state.config.decodeApp = true

theorem divideSize_pos {divisor : Nat} (dividend : Nat) (positive : 0 < divisor) :
    divideSize dividend divisor = some (dividend / divisor) := by
  cases divisor with
  | zero => contradiction
  | succ divisor => rfl

/-- With a positive buffer size the checks divide by it or not at all, and let through only what
they have checked. -/
theorem checkSettings_spec (positive : 0 < state.config.streamBufferBytes) :
    (∃ line, checkSettings state = some (.failed line)) ∨
      (checkSettings state = some (.parsed state.config) ∧ Checked state) := by
  have divided : exceedsAggregate state.config.toAppConfig =
      some (state.config.reassemble && decide (state.config.maxFlows >
        minisnifferMaxTotalReassemblyBytes / 4 / state.config.streamBufferBytes)) := by
    rw [exceedsAggregate, divideSize_pos _ positive]
    cases state.config.reassemble <;> rfl
  rw [checkSettings, divided]
  by_cases undecoded : (state.config.reassemble && !state.config.decodeApp) = true
  · exact Or.inl ⟨_, if_pos undecoded⟩
  rw [if_neg undecoded]
  by_cases misplaced : (!state.config.reassemble && (state.maxFlowsWasSet ||
      state.streamBufferWasSet || state.flowTimeoutWasSet)) = true
  · exact Or.inl ⟨_, if_pos misplaced⟩
  rw [if_neg misplaced]
  by_cases flows :
      (state.config.reassemble && decide (state.config.maxFlows > minisnifferMaxFlows)) = true
  · exact Or.inl ⟨_, if_pos flows⟩
  rw [if_neg flows]
  by_cases buffer : (state.config.reassemble &&
      decide (state.config.streamBufferBytes > minisnifferMaxStreamBufferBytes)) = true
  · exact Or.inl ⟨_, if_pos buffer⟩
  rw [if_neg buffer]
  cases aggregate : state.config.reassemble && decide (state.config.maxFlows >
      minisnifferMaxTotalReassemblyBytes / 4 / state.config.streamBufferBytes) with
  | true => exact Or.inl ⟨_, rfl⟩
  | false =>
      by_cases filtered :
          (!state.config.decodeApp && anyAppFilter state.config.toAppConfig) = true
      · exact Or.inl ⟨_, if_pos filtered⟩
      refine Or.inr ⟨if_neg filtered, ?_⟩
      constructor
      · intro on
        simpa [on] using undecoded
      · intro off
        rw [off, Bool.not_false, Bool.true_and, Bool.not_eq_true, Bool.or_eq_false_iff,
          Bool.or_eq_false_iff] at misplaced
        exact misplaced.1
      · intro on
        simpa [on] using flows
      · intro on
        simpa [on] using buffer
      · intro on
        simpa [on] using aggregate
      · intro enabled
        simpa [enabled] using filtered

/-- A checked state within the limits is one that the tables take. -/
theorem Checked.tablesAgree (checked : Checked state) (within : WithinLimits state) :
    TablesAgree state.config := by
  have flows : state.config.maxFlows ≤ minisnifferMaxFlows ∧
      state.config.streamBufferBytes ≤ minisnifferMaxStreamBufferBytes ∧
      state.config.maxFlows ≤
        minisnifferMaxTotalReassemblyBytes / 4 / state.config.streamBufferBytes := by
    cases on : state.config.reassemble with
    | true => exact ⟨checked.flows on, checked.buffer on, checked.aggregate on⟩
    | false =>
        -- no option set a size, and the defaults fit
        obtain ⟨flowsUnset, bufferUnset⟩ := checked.unset on
        have defaultFlows : state.config.maxFlows = configInitDefaults.maxFlows :=
          within.flowsDefault flowsUnset
        have defaultBuffer : state.config.streamBufferBytes =
            configInitDefaults.streamBufferBytes := within.bufferDefault bufferUnset
        rw [defaultFlows, defaultBuffer]
        decide
  have flowsPositive : 0 < state.config.maxFlows := within.flowsPositive
  have bufferPositive : 0 < state.config.streamBufferBytes := within.bufferPositive
  have datagrams : state.config.ipv4FragmentMaxDatagrams =
    configInitDefaults.ipv4FragmentMaxDatagrams := within.datagrams
  have bytes : state.config.ipv4FragmentMaxBytes =
    configInitDefaults.ipv4FragmentMaxBytes := within.bytes
  constructor
  · rw [datagrams, bytes]
    rfl
  · intro enabled member on
    apply checked.filters
    subst on
    by_contra disabled
    rw [Bool.not_eq_true] at disabled
    simp only [anyAppFilter, Bool.or_eq_false_iff] at disabled
    simp [disabled] at member
  · exact checked.reassembly
  · have positive : 0 < state.config.payloadDecodeBytes := within.decodePositive
    have small : state.config.payloadDecodeBytes ≤ minisnifferMaxPayloadDecodeBytes :=
      within.decodeSmall
    rw [payloadDecodeLimit, if_neg]
    rw [Bool.or_eq_true, decide_eq_true_eq, decide_eq_true_eq]
    omega
  · rw [flowTableInit, if_neg]
    · rfl
    · simp only [Bool.or_eq_true, decide_eq_true_eq]
      omega

/-- A state within the limits fails a check, or it is let through and the tables take it. -/
theorem checkSettings_agrees (within : WithinLimits state) :
    (∃ line, checkSettings state = some (.failed line)) ∨
      (checkSettings state = some (.parsed state.config) ∧ TablesAgree state.config) := by
  have positive : 0 < state.config.streamBufferBytes := within.bufferPositive
  rcases checkSettings_spec positive with failed | ⟨passed, checked⟩
  · exact Or.inl failed
  · exact Or.inr ⟨passed, checked.tablesAgree within⟩

end Checks

/-! ### Whole command lines -/

section CommandLines

variable (build : CliBuild) (arguments : List (List UInt8))

/-- Reading from the defaults ends within the limits, whatever the options, their order and their
repetition. -/
theorem read_withinLimits :
    ((cliOptions build).read arguments { config := configInitDefaults }).Holds WithinLimits :=
  CommandLine.read_holds (cliOptions_keep build) withinLimits_defaults

/-- Whatever the arguments, nothing is divided by zero; a configuration that is let through is one
that the tables and the parser take as it is; usage is printed only for `--help`; and sizes that the
flow table would reject behind the last argument are rejected. -/
theorem command_line_agrees :
    ∃ outcome, cliParseArgs build arguments configInitDefaults = some outcome ∧
      (∀ config, outcome = .parsed config → TablesAgree config) ∧
      (∀ config, outcome = .help config → ascii "--help" ∈ arguments) ∧
      (∀ state, (cliOptions build).read arguments { config := configInitDefaults } =
          .finished state →
        flowTableInit state.config.maxFlows state.config.streamBufferBytes
          state.config.flowTimeoutSeconds = none →
        ∃ line, outcome = .failed line) := by
  have within := read_withinLimits build arguments
  unfold cliParseArgs
  cases ended : (cliOptions build).read arguments { config := configInitDefaults } with
  | failed line =>
      refine ⟨.failed line, rfl, ?_, ?_, ?_⟩
      · intro config parsed
        contradiction
      · intro config help
        contradiction
      · intro state finished
        contradiction
  | stopped state =>
      refine ⟨.help state.config, rfl, ?_, ?_, ?_⟩
      · intro config parsed
        contradiction
      · intro config help
        exact CommandLine.mem_of_stopped ended
      · intro last finished
        contradiction
  | finished state =>
      rw [ended] at within
      rcases checkSettings_agrees within with ⟨line, failed⟩ | ⟨passed, agreed⟩
      · refine ⟨.failed line, failed, ?_, ?_, ?_⟩
        · intro config parsed
          contradiction
        · intro config help
          contradiction
        · intro last finished rejected
          exact ⟨line, rfl⟩
      · refine ⟨.parsed state.config, passed, ?_, ?_, ?_⟩
        · intro config parsed
          obtain rfl := CliOutcome.parsed.inj parsed
          exact agreed
        · intro config help
          contradiction
        · intro last finished rejected
          -- the table takes these sizes
          obtain rfl := CommandEnd.finished.inj finished
          have taken := agreed.flowTable
          rw [rejected] at taken
          contradiction

/-- The configuration behind which `cli_parse_args` returns 0. -/
def CliOutcome.returned : CliOutcome → Option MiniSnifferConfig
  | .parsed config => some config
  | .help config => some config
  | .failed _ => none

/-- The checks follow the loop, which `--help` leaves early: sizes in front of it are not checked,
and 0 is returned. -/
theorem help_skips_checks :
    ¬∀ (build : CliBuild) (arguments : List (List UInt8)) (config : MiniSnifferConfig),
      (cliParseArgs build arguments configInitDefaults).bind CliOutcome.returned = some config →
      (flowTableInit config.maxFlows config.streamBufferBytes
        config.flowTimeoutSeconds).isSome = true := by
  intro agree
  have fits := agree ⟨false, ⟨fun _ => none, fun _ => none⟩⟩
    [ascii "--decode-app", ascii "--reassemble", ascii "--max-flows", ascii "5000",
      ascii "--help"]
    { decodeApp := true, reassemble := true, maxFlows := 5000 } (by decide +kernel)
  revert fits
  decide

variable {build arguments} {config : MiniSnifferConfig}

/-- The configuration behind the last argument is let through as it is. -/
theorem finished_of_parsed
    (parsed : cliParseArgs build arguments configInitDefaults = some (.parsed config)) :
    ∃ state, (cliOptions build).read arguments { config := configInitDefaults } =
      .finished state ∧ state.config = config ∧ TablesAgree config := by
  have within := read_withinLimits build arguments
  unfold cliParseArgs at parsed
  split at parsed
  next => cases parsed
  next => cases parsed
  next state ended =>
    rw [ended] at within
    refine ⟨state, ended, ?_⟩
    rcases checkSettings_agrees within with ⟨line, failed⟩ | ⟨passed, agreed⟩
    · rw [failed] at parsed
      cases parsed
    · rw [passed] at parsed
      obtain rfl := CliOutcome.parsed.inj (Option.some.inj parsed)
      exact ⟨rfl, agreed⟩

theorem tablesAgree_of_parsed
    (parsed : cliParseArgs build arguments configInitDefaults = some (.parsed config)) :
    TablesAgree config := by
  obtain ⟨state, -, -, agreed⟩ := finished_of_parsed parsed
  exact agreed

/-- A command line that is let through asks for no help. -/
theorem help_notMem_of_parsed
    (parsed : cliParseArgs build arguments configInitDefaults = some (.parsed config)) :
    ascii "--help" ∉ arguments := by
  obtain ⟨state, finished, -⟩ := finished_of_parsed parsed
  have told : (ascii "--").isPrefixOf (ascii "--help") = true := by decide
  exact CommandLine.stop_notMem_of_finished told finished

/-- The capture starts with every configuration that the command line lets through. -/
theorem captureInit_of_parsed
    (parsed : cliParseArgs build arguments configInitDefaults = some (.parsed config)) :
    ∃ state, captureInit config.toAppConfig = some state := by
  have agreed := tablesAgree_of_parsed parsed
  obtain ⟨fragmentTable, fragments⟩ := Option.isSome_iff_exists.mp agreed.fragmentTable
  obtain ⟨flowTable, flows⟩ := Option.isSome_iff_exists.mp agreed.flowTable
  rw [captureInit, fragments, flows]
  dsimp only
  cases config.reassemble with
  | false => exact ⟨_, rfl⟩
  | true => exact ⟨_, rfl⟩

end CommandLines

end MiniSniffer
