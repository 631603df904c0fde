import MiniSniffer.Capture.Observation
import MiniSniffer.Capture.Prefilter
import MiniSniffer.Cli.Validation
import MiniSniffer.DisplayFilters

/-!
Contract: the display filters that a command line asks for.

Owns which option sets which kind of filter and what it reads from its value, that the last option
of a kind decides it, and so which packets a configuration that was read from a command line lets
through.

Does not own the filters themselves: see `DisplayFilters`.
-/

namespace MiniSniffer

open Foundation

/-! ### Options -/

/-- The kind of filter that an option sets. -/
def FilterKind.ofName (name : List UInt8) : Option FilterKind :=
  [(ascii "--protocol", .protocol), (ascii "--port", .port), (ascii "--host", .host),
    (ascii "--payload-contains", .payloadText), (ascii "--payload-hex", .payloadHex),
    (ascii "--app", .app), (ascii "--http-host", .httpHost), (ascii "--http-method", .httpMethod),
    (ascii "--dns-query", .dnsQuery), (ascii "--dns-type", .dnsType), (ascii "--tls-sni", .tlsSni),
    (ascii "--tls-alpn", .tlsAlpn), (ascii "--dhcp-type", .dhcpType),
    (ascii "--quic-version", .quicVersion)].lookup name

/-- What a filter option reads from its value. -/
def FilterKind.read (inetPton : InetPton) (kind : FilterKind) (text : List UInt8) :
    Option DisplayFilter :=
  match kind with
  | .protocol => (protocolFromString text).map .protocol
  | .port => (atMost 65535 (parsePositiveInt text)).map fun port => .port (UInt16.ofNat port)
  | .host => (parseIpHost inetPton text).map .host
  | .payloadText => (parsePayloadText text).map .payload
  | .payloadHex => (parsePayloadHexPattern text).map .payload
  | .app => (parseAppProtocol text).map .app
  | .httpHost => (copyArg minisnifferAppTextLen text).map .httpHost
  | .httpMethod => (copyArg 16 text).map .httpMethod
  | .dnsQuery => (copyArg minisnifferAppTextLen text).map .dnsQuery
  | .dnsType => (parseDnsType text).map .dnsType
  | .tlsSni => (copyArg minisnifferAppTextLen text).map .tlsSni
  | .tlsAlpn => (copyArg minisnifferTlsAlpnLen text).map .tlsAlpn
  | .dhcpType => (parseDhcpType text).map .dhcpType
  | .quicVersion => (parseQuicVersion text).map .quicVersion

/-- The filter of a kind that one option among the arguments gives. -/
def filterGiven (inetPton : InetPton) (kind : FilterKind)
    (occurrence : List UInt8 × Option (List UInt8)) : Option DisplayFilter :=
  if FilterKind.ofName occurrence.1 = some kind then occurrence.2.bind (kind.read inetPton)
  else none

/-- The filter of a kind that a command line gives: the last one counts. -/
def givenFilter (build : CliBuild) (arguments : List (List UInt8)) (kind : FilterKind) :
    Option DisplayFilter :=
  lastValue (filterGiven build.inetPton kind) ((cliOptions build).occurrences arguments)

/-- The options that capturing reads, without the filters. -/
def AppConfig.unfiltered (config : AppConfig) : AppConfig where
  decodeApp := config.decodeApp
  reassemble := config.reassemble
  payloadDecodeBytes := config.payloadDecodeBytes
  maxFlows := config.maxFlows
  streamBufferBytes := config.streamBufferBytes
  flowTimeoutSeconds := config.flowTimeoutSeconds
  ipv4FragmentMaxDatagrams := config.ipv4FragmentMaxDatagrams
  ipv4FragmentMaxBytes := config.ipv4FragmentMaxBytes
  ipv4FragmentTimeoutSeconds := config.ipv4FragmentTimeoutSeconds
  maxPackets := config.maxPackets
  jsonOutput := config.jsonOutput
  noBpf := config.noBpf
  domainMatchMode := config.domainMatchMode

/-- The kinds of filter that the pre-filter is built from. -/
def FilterKind.prefiltered (kind : FilterKind) : Bool :=
  kind = .protocol || kind = .port || kind = .host

/-- The clauses that a filter adds to the pre-filter. -/
def DisplayFilter.bpfClauses (filter : DisplayFilter) : List BpfPrimitive :=
  match filter with
  | .protocol wanted => (protocolPrimitive wanted).toList
  | .port number => [.port number]
  | .host address => [.host address]
  | _ => []

/-- The option fills the filter that it is named for with what it is given, and leaves the other
filters; it leaves everything else if it is named for one. -/
structure FilterEntry (inetPton : InetPton) (entry : List UInt8 × CliOption) : Prop where
  stores : ∀ kind, entry.2.Stores (fun state => state.config.filter kind) fun value =>
    filterGiven inetPton kind (entry.1, value)
  keeps : FilterKind.ofName entry.1 ≠ none → ∀ base,
    entry.2.Keeps fun state => state.config.unfiltered = base

section Entries

variable {build : CliBuild} {inetPton : InetPton} {name : List UInt8} {kind : FilterKind}
variable {Value : Type}

theorem filterGiven_other (other : FilterKind.ofName name = none)
    (value : Option (List UInt8)) : filterGiven inetPton kind (name, value) = none := by
  rw [filterGiven, if_neg (by rw [other]; simp)]

theorem flagOption_filterEntry (other : FilterKind.ofName name = none)
    {update : MiniSnifferConfig → MiniSnifferConfig}
    (kept : ∀ kind config, (update config).filter kind = config.filter kind) :
    FilterEntry inetPton (name, flagOption update) := by
  refine ⟨fun kind state => ?_, fun named => absurd other named⟩
  show (update state.config).filter kind =
    (filterGiven inetPton kind (name, none)).or (state.config.filter kind)
  rw [filterGiven_other other, Option.none_or]
  exact kept kind state.config

/-- An option of another name leaves the filters alone. -/
theorem otherOption_filterEntry (other : FilterKind.ofName name = none) {missing : List UInt8}
    {parse : List UInt8 → Option Value} {refused : List UInt8 → List UInt8}
    {store : Value → CliState → CliState}
    (kept : ∀ kind value (state : CliState), (store value state).config.filter kind =
      state.config.filter kind) :
    FilterEntry inetPton (name, parsedOption missing parse refused store) := by
  refine ⟨fun kind text state next taken => ?_, fun named => absurd other named⟩
  dsimp only at taken
  split at taken
  · contradiction
  next value _ =>
    obtain rfl := Except.ok.inj taken
    show (store value state).config.filter kind =
      (filterGiven inetPton kind (name, some text)).or (state.config.filter kind)
    rw [filterGiven_other other, Option.none_or]
    exact kept kind value state

/-- A filter option fills its own kind and nothing else. -/
theorem filterOption_filterEntry {owner : FilterKind}
    (named : FilterKind.ofName name = some owner)
    {parse : List UInt8 → Option Value} {refused : List UInt8 → List UInt8}
    {update : Value → MiniSnifferConfig → MiniSnifferConfig} {filterOf : Value → DisplayFilter}
    (reads : ∀ text, owner.read inetPton text = (parse text).map filterOf)
    (fills : ∀ kind value config, (update value config).filter kind =
      if owner = kind then some (filterOf value) else config.filter kind)
    (kept : ∀ value config, (update value config).unfiltered = config.unfiltered) :
    FilterEntry inetPton (valueEntry name parse refused update) := by
  constructor
  · intro kind text state next taken
    dsimp only at taken
    split at taken
    · contradiction
    next value parsed =>
      obtain rfl := Except.ok.inj taken
      show (update value state.config).filter kind =
        (filterGiven inetPton kind (name, some text)).or (state.config.filter kind)
      rw [fills]
      by_cases own : owner = kind
      · have given : filterGiven inetPton kind (name, some text) = some (filterOf value) := by
          rw [filterGiven, if_pos (by rw [named, own]), Option.bind_some, ← own, reads, parsed]
          rfl
        rw [if_pos own, given]
        rfl
      · rw [if_neg own, filterGiven, if_neg (by rw [named]; simpa using own), Option.none_or]
  · intro _ base text state next same taken
    dsimp only at taken
    split at taken
    · contradiction
    next value _ =>
      obtain rfl := Except.ok.inj taken
      exact (kept value state.config).trans same

theorem displayOptions_filterEntries :
    ∀ entry ∈ displayOptions, FilterEntry inetPton entry := by
  unfold displayOptions
  simp only [List.forall_mem_cons]
  refine ⟨?_, ?_, ?_, ?_, ?_, ?_, ?_, List.forall_mem_nil _⟩
  all_goals
    apply flagOption_filterEntry (by decide)
    intro kind config
    cases kind <;> rfl

theorem captureOptions_filterEntries (build : CliBuild) :
    ∀ entry ∈ captureOptions build, FilterEntry build.inetPton entry := by
  unfold captureOptions
  simp only [List.forall_mem_cons]
  refine ⟨?_, ?_, ?_, ?_, ?_, ?_, ?_, ?_, ?_, List.forall_mem_nil _⟩
  case refine_3 | refine_4 | refine_5 =>
    apply filterOption_filterEntry rfl fun text => rfl
    · intro kind value config
      cases kind <;> rfl
    · intro value config
      rfl
  all_goals
    apply otherOption_filterEntry (by decide)
    intro kind value state
    cases kind <;> rfl

theorem domainMatchOption_filterEntry (build : CliBuild) :
    FilterEntry build.inetPton (ascii "--domain-match", domainMatchOption build) := by
  have other : FilterKind.ofName (ascii "--domain-match") = none := by decide
  refine ⟨fun kind text state next taken => ?_, fun named => absurd other named⟩
  dsimp only at taken
  split at taken
  next => contradiction
  next => contradiction
  next mode _ =>
    obtain rfl := Except.ok.inj taken
    dsimp only
    rw [filterGiven_other other, Option.none_or]
    cases kind <;> rfl

theorem payloadOptions_filterEntries (build : CliBuild) :
    ∀ entry ∈ payloadOptions build, FilterEntry build.inetPton entry := by
  unfold payloadOptions
  simp only [List.forall_mem_cons]
  refine ⟨?_, ?_, ?_, domainMatchOption_filterEntry build, ?_, ?_, List.forall_mem_nil _⟩
  case refine_1 =>
    apply flagOption_filterEntry (by decide)
    intro kind config
    cases kind <;> rfl
  case refine_2 | refine_3 =>
    apply otherOption_filterEntry (by decide)
    intro kind value state
    cases kind <;> rfl
  all_goals
    apply filterOption_filterEntry rfl fun text => rfl
    · intro kind value config
      cases kind <;> rfl
    · intro value config
      rfl

theorem appOptions_filterEntries :
    ∀ entry ∈ appOptions, FilterEntry inetPton entry := by
  unfold appOptions
  simp only [List.forall_mem_cons]
  refine ⟨?_, ?_, ?_, ?_, ?_, ?_, ?_, ?_, ?_, ?_, List.forall_mem_nil _⟩
  case refine_1 =>
    apply flagOption_filterEntry (by decide)
    intro kind config
    cases kind <;> rfl
  all_goals
    apply filterOption_filterEntry rfl fun text => rfl
    · intro kind value config
      cases kind <;> rfl
    · intro value config
      rfl

theorem reassemblyOptions_filterEntries :
    ∀ entry ∈ reassemblyOptions, FilterEntry inetPton entry := by
  unfold reassemblyOptions
  simp only [List.forall_mem_cons]
  refine ⟨?_, ?_, ?_, ?_, ?_, List.forall_mem_nil _⟩
  case refine_1 | refine_5 =>
    apply flagOption_filterEntry (by decide)
    intro kind config
    cases kind <;> rfl
  all_goals
    apply otherOption_filterEntry (by decide)
    intro kind value state
    cases kind <;> rfl

/-- No option fills a filter other than the one it is named for. -/
theorem cliOptions_filterEntries (build : CliBuild) :
    ∀ entry ∈ (cliOptions build).options, FilterEntry build.inetPton entry := by
  intro entry member
  simp only [cliOptions, List.mem_append] at member
  rcases member with (((display | capture) | payload) | app) | reassembly
  · exact displayOptions_filterEntries entry display
  · exact captureOptions_filterEntries build entry capture
  · exact payloadOptions_filterEntries build entry payload
  · exact appOptions_filterEntries entry app
  · exact reassemblyOptions_filterEntries entry reassembly

end Entries

/-! ### Captures -/

section Captures

variable {build : CliBuild} {arguments : List (List UInt8)} {config : MiniSnifferConfig}
variable {initial : CaptureState}

/-- Every filter that the command line gives selects the packet. -/
def GivenFiltersSelect (idna : IdnaLookup) (build : CliBuild) (arguments : List (List UInt8))
    (config : AppConfig) (context : FilterContext) : Prop :=
  ∀ kind, ∀ filter ∈ givenFilter build arguments kind,
    filter.Selects (SameName idna config.domainMatchMode) context.packet
      (context.shownApp config.reassemble)

/-- The filters of a configuration are those that the arguments gave. -/
theorem filter_eq_givenFilter
    (parsed : cliParseArgs build arguments configInitDefaults = some (.parsed config))
    (kind : FilterKind) : config.filter kind = givenFilter build arguments kind := by
  obtain ⟨state, finished, rfl, -⟩ := finished_of_parsed parsed
  have defaults : configInitDefaults.filter kind = none := by cases kind <;> rfl
  have stored := CommandLine.read_lastValue
    (fun entry member => (cliOptions_filterEntries build entry member).stores kind) finished
  rw [givenFilter, stored]
  dsimp only
  rw [defaults, Option.or_none]

theorem filtersMatch_iff_given (idna : IdnaLookup) (context : FilterContext)
    (parsed : cliParseArgs build arguments configInitDefaults = some (.parsed config)) :
    filtersMatch idna config.toAppConfig context = true ↔
      GivenFiltersSelect idna build arguments config.toAppConfig context := by
  rw [filtersMatch_iff_selects]
  unfold AppConfig.Selects GivenFiltersSelect
  simp only [filter_eq_givenFilter parsed]

/-- The pre-filter is built from the filters of its kinds. -/
theorem buildBpfFilterExpression_eq (config : AppConfig) :
    buildBpfFilterExpression config = [FilterKind.protocol, .port, .host].flatMap fun kind =>
      (config.filter kind).toList.flatMap DisplayFilter.bpfClauses := by
  unfold buildBpfFilterExpression AppConfig.filter whenEnabled DisplayFilter.bpfClauses
  cases config.filterProtocolEnabled <;> cases config.filterPortEnabled <;>
    cases config.filterHostEnabled <;> simp

theorem installBpfFilter_of_filters {first second : AppConfig} (noBpf : first.noBpf = second.noBpf)
    (alike : first.noBpf = true ∨
      ∀ kind, kind.prefiltered = true → first.filter kind = second.filter kind) :
    installBpfFilter first = installBpfFilter second := by
  unfold installBpfFilter
  rcases alike with off | filters
  · rw [← noBpf, off]
    rfl
  · have built : buildBpfFilterExpression first = buildBpfFilterExpression second := by
      rw [buildBpfFilterExpression_eq, buildBpfFilterExpression_eq]
      simp only [List.flatMap_cons, List.flatMap_nil, filters .protocol rfl, filters .port rfl,
        filters .host rfl]
    rw [noBpf, built]

open Classical in
/-- From the arguments to the display: a capture starts with what the command line let through, and
displays, up to its limit, the packets that the last filter of each kind among the arguments
selects. -/
theorem command_line_displays
    (parsed : cliParseArgs build arguments configInitDefaults = some (.parsed config)) :
    ∃ initial, captureInit config.toAppConfig = some initial ∧
      ∀ (idna : IdnaLookup) (datalink : Datalink) (packets : List CapturedPacket),
        ((captureLoop idna config.toAppConfig datalink).outputs initial packets).reduceOption.map
            DisplayedPacket.unannounced =
          Machine.withinQuota
            (if config.maxPackets = 0 then none else some config.maxPackets.toNat)
            ((((observer config.toAppConfig datalink).outputs initial.observerState packets).filter
              fun capture => GivenFiltersSelect idna build arguments config.toAppConfig
                capture.filterContext).map DecodedCapture.shown) := by
  obtain ⟨initial, started⟩ := captureInit_of_parsed parsed
  refine ⟨initial, started, fun idna datalink packets => ?_⟩
  have passes : DecodedCapture.passes idna config.toAppConfig = fun capture => decide
      (GivenFiltersSelect idna build arguments config.toAppConfig capture.filterContext) := by
    funext capture
    rw [Bool.eq_iff_iff, decide_eq_true_iff]
    exact filtersMatch_iff_given idna capture.filterContext parsed
  rw [← captureInit_quota started, ← passes]
  exact (captureInit_observes started).displays idna datalink packets

def sampleBuild : CliBuild where
  withLibidn2 := false
  inetPton := ⟨fun _ => none, fun _ => none⟩

/-- The second port replaces the first. -/
def sampleFilterArguments : List (List UInt8) :=
  [ascii "--decode-app", ascii "--port", ascii "80", ascii "--app", ascii "dns", ascii "--port",
    ascii "53"]

def sampleFilterConfig : MiniSnifferConfig :=
  { decodeApp := true, filterPortEnabled := true, filterPort := 53, filterAppEnabled := true,
    filterAppProtocol := .dns }

open Classical in
theorem command_line_displays_sampleFilterArguments :
    ∃ initial, captureInit sampleFilterConfig.toAppConfig = some initial ∧
      ∀ (idna : IdnaLookup) (datalink : Datalink) (packets : List CapturedPacket),
        ((captureLoop idna sampleFilterConfig.toAppConfig datalink).outputs initial
            packets).reduceOption.map DisplayedPacket.unannounced =
          Machine.withinQuota none
            ((((observer sampleFilterConfig.toAppConfig datalink).outputs initial.observerState
              packets).filter fun capture => GivenFiltersSelect idna sampleBuild
                sampleFilterArguments sampleFilterConfig.toAppConfig
                capture.filterContext).map DecodedCapture.shown) :=
  command_line_displays
    (show cliParseArgs sampleBuild sampleFilterArguments configInitDefaults =
      some (.parsed sampleFilterConfig) by decide +kernel)

/-! ### More filters -/

variable {more : List (List UInt8)} {narrowed : MiniSnifferConfig}

theorem sameTracking_of_unfiltered {first second : AppConfig}
    (same : first.unfiltered = second.unfiltered) : SameTracking first second := by
  have both : SameTracking first.unfiltered second.unfiltered := by
    rw [same]
    exact ⟨rfl, rfl, rfl, rfl, rfl, rfl, rfl, rfl, rfl⟩
  exact { both with }

/-- Filter options behind the other arguments leave everything but the filters, and fill those of
their kinds. -/
theorem narrowed_options
    (parsed : cliParseArgs build arguments configInitDefaults = some (.parsed config))
    (stricter : cliParseArgs build (arguments ++ more) configInitDefaults =
      some (.parsed narrowed))
    (onlyFilters : ∀ occurrence ∈ (cliOptions build).occurrences more,
      FilterKind.ofName occurrence.1 ≠ none) :
    narrowed.unfiltered = config.unfiltered ∧
      ∀ kind, narrowed.filter kind = (givenFilter build more kind).or (config.filter kind) := by
  obtain ⟨state, finished, rfl, -⟩ := finished_of_parsed parsed
  obtain ⟨last, ended, rfl, -⟩ := finished_of_parsed stricter
  rw [CommandLine.read_append finished] at ended
  have entries := cliOptions_filterEntries build
  constructor
  · have kept := CommandLine.read_holds_occurrences
      (fun occurrence member option entry =>
        (entries (occurrence.1, option) entry).keeps (onlyFilters occurrence member)
          state.config.unfiltered)
      (show state.config.unfiltered = state.config.unfiltered from rfl)
    rw [ended] at kept
    exact kept
  · intro kind
    exact CommandLine.read_lastValue (fun entry member => (entries entry member).stores kind) ended

/-- Filter options added to a command line only hide packets, as long as they replace none of its
filters and leave the pre-filter alone: what is then displayed of the same traffic is part of what
was displayed before, in the same order and decoded alike, and the tables end the same. -/
theorem more_filters_hide
    (parsed : cliParseArgs build arguments configInitDefaults = some (.parsed config))
    (stricter : cliParseArgs build (arguments ++ more) configInitDefaults =
      some (.parsed narrowed))
    (onlyFilters : ∀ occurrence ∈ (cliOptions build).occurrences more,
      FilterKind.ofName occurrence.1 ≠ none)
    (unreplaced : ∀ kind, ∀ filter ∈ givenFilter build arguments kind,
      ∀ added ∈ givenFilter build more kind, added = filter)
    (alike : config.noBpf = true ∨
      ∀ kind, kind.prefiltered = true → givenFilter build more kind = none)
    (unlimited : config.maxPackets = 0) :
    ∃ initial, captureInit config.toAppConfig = some initial ∧
      captureInit narrowed.toAppConfig = some initial ∧
      ∀ (idna : IdnaLookup) (datalink : Datalink)
        (kernel : List BpfPrimitive → CapturedPacket → Bool) (traffic : List CapturedPacket),
        let fewer := handedOver kernel narrowed.toAppConfig traffic
        let packets := handedOver kernel config.toAppConfig traffic
        (((captureLoop idna narrowed.toAppConfig datalink).outputs initial
          fewer).reduceOption.map DisplayedPacket.unannounced).Sublist
            (((captureLoop idna config.toAppConfig datalink).outputs initial
              packets).reduceOption.map DisplayedPacket.unannounced) ∧
        ((captureLoop idna narrowed.toAppConfig datalink).run initial fewer).fragmentTable =
          ((captureLoop idna config.toAppConfig datalink).run initial packets).fragmentTable ∧
        ((captureLoop idna narrowed.toAppConfig datalink).run initial fewer).flowTable.map
            FlowTable.unannounced =
          ((captureLoop idna config.toAppConfig datalink).run initial packets).flowTable.map
            FlowTable.unannounced := by
  obtain ⟨same, filters⟩ := narrowed_options parsed stricter onlyFilters
  have tracking := sameTracking_of_unfiltered same
  have mode : narrowed.domainMatchMode = config.domainMatchMode :=
    (congrArg AppConfig.domainMatchMode same :)
  have limit : narrowed.maxPackets = config.maxPackets := (congrArg AppConfig.maxPackets same :)
  have hides : ∀ idna context, filtersMatch idna narrowed.toAppConfig context = true →
      filtersMatch idna config.toAppConfig context = true := by
    intro idna context passes
    rw [filtersMatch_iff_selects] at passes ⊢
    intro kind filter enabled
    have wanted : filter ∈ narrowed.filter kind := by
      have given : filter ∈ givenFilter build arguments kind :=
        filter_eq_givenFilter parsed kind ▸ enabled
      rw [filters]
      cases added : givenFilter build more kind with
      | none => exact enabled
      | some other => exact congrArg some (unreplaced kind filter given other added)
    have selected := passes kind filter wanted
    rw [mode, tracking.reassemble_eq] at selected
    exact selected
  obtain ⟨initial, started⟩ := captureInit_of_parsed parsed
  have narrowedStarted : captureInit narrowed.toAppConfig = some initial :=
    tracking.captureInit_eq.trans started
  have installed : installBpfFilter narrowed.toAppConfig = installBpfFilter config.toAppConfig := by
    have noBpf : narrowed.noBpf = config.noBpf := (congrArg AppConfig.noBpf same :)
    apply installBpfFilter_of_filters noBpf
    rcases alike with off | ungiven
    · exact Or.inl (noBpf.trans off)
    · refine Or.inr fun kind prefiltered => ?_
      rw [filters, ungiven kind prefiltered, Option.none_or]
  refine ⟨initial, started, narrowedStarted, fun idna datalink kernel traffic => ?_⟩
  have delivered : handedOver kernel narrowed.toAppConfig traffic =
      handedOver kernel config.toAppConfig traffic := by
    simp only [handedOver, installed]
  dsimp only
  rw [delivered]
  refine ⟨?_, ?_⟩
  · exact tracking.displays_sublist unlimited (hides idna) narrowedStarted datalink _
  · exact tracking.run_tables (limit.trans unlimited) unlimited narrowedStarted idna datalink _

/-- A question type is no matter of the pre-filter. -/
def sampleMoreArguments : List (List UInt8) := [ascii "--dns-type", ascii "AAAA"]

def sampleNarrowedConfig : MiniSnifferConfig :=
  { sampleFilterConfig with filterDnsTypeEnabled := true, filterDnsType := 28 }

theorem more_filters_hide_sampleFilterArguments :
    ∃ initial, captureInit sampleFilterConfig.toAppConfig = some initial ∧
      captureInit sampleNarrowedConfig.toAppConfig = some initial := by
  have ungiven : ∀ kind, kind ≠ .dnsType →
      givenFilter sampleBuild sampleMoreArguments kind = none := by
    intro kind other
    have only : (cliOptions sampleBuild).occurrences sampleMoreArguments =
      [(ascii "--dns-type", some (ascii "AAAA"))] := by decide +kernel
    have named : FilterKind.ofName (ascii "--dns-type") = some .dnsType := by decide
    have silent : filterGiven sampleBuild.inetPton kind
        (ascii "--dns-type", some (ascii "AAAA")) = none :=
      if_neg (by rw [named]; exact fun same => other (Option.some.inj same).symm)
    rw [givenFilter, only, lastValue_cons, silent]
    rfl
  obtain ⟨initial, started, narrowedStarted, -⟩ := @more_filters_hide sampleBuild
    sampleFilterArguments sampleFilterConfig sampleMoreArguments sampleNarrowedConfig
    (by decide +kernel) (by decide +kernel) (by decide +kernel)
    (by
      intro kind filter given added wanted
      by_cases own : kind = .dnsType
      · have absent : givenFilter sampleBuild sampleFilterArguments .dnsType = none := by
          decide +kernel
        rw [own, absent] at given
        contradiction
      · rw [ungiven kind own] at wanted
        contradiction)
    (Or.inr fun kind prefiltered => ungiven kind (by rintro rfl; contradiction))
    rfl
  exact ⟨initial, started, narrowedStarted⟩

end Captures

end MiniSniffer
