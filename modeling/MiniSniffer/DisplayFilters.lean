import MiniSniffer.App.AlpnFilter
import MiniSniffer.Filters

/-!
Contract: what the display filters stand for.

Owns the filters that a configuration enables, as a map from kinds of filters to what they ask for;
what a packet and its metadata have to be like for each of them; and that a packet passes
`filters_match` exactly if every enabled filter selects it.

Does not own how filters are computed: see `Filters`.
-/

namespace MiniSniffer

open Foundation

/-! ### Filters -/

/-- The kinds of filters, one for each option. -/
inductive FilterKind where
  | protocol
  | port
  | host
  | payloadText
  | payloadHex
  | app
  | httpHost
  | httpMethod
  | dnsQuery
  | dnsType
  | tlsSni
  | tlsAlpn
  | dhcpType
  | quicVersion
deriving DecidableEq, Repr

/-- What a filter asks for. -/
inductive DisplayFilter where
  | protocol (protocol : Protocol)
  | port (number : UInt16)
  | host (address : IpText)
  | payload (bytes : List UInt8)
  | app (protocol : AppProtocol)
  | httpHost (name : List UInt8)
  | httpMethod (method : List UInt8)
  | dnsQuery (name : List UInt8)
  | dnsType (type : UInt16)
  | tlsSni (name : List UInt8)
  | tlsAlpn (protocol : List UInt8)
  | dhcpType (type : UInt8)
  | quicVersion (version : UInt32)
deriving DecidableEq, Repr

def whenEnabled (enabled : Bool) (filter : DisplayFilter) : Option DisplayFilter :=
  if enabled then some filter else none

/-- The filter of each kind that is enabled. -/
def AppConfig.filter (config : AppConfig) (kind : FilterKind) : Option DisplayFilter :=
  match kind with
  | .protocol => whenEnabled config.filterProtocolEnabled (.protocol config.filterProtocol)
  | .port => whenEnabled config.filterPortEnabled (.port config.filterPort)
  | .host => whenEnabled config.filterHostEnabled (.host config.filterHost)
  | .payloadText => whenEnabled config.filterPayloadTextEnabled (.payload config.filterPayloadText)
  | .payloadHex => whenEnabled config.filterPayloadHexEnabled (.payload config.filterPayloadHex)
  | .app => whenEnabled config.filterAppEnabled (.app config.filterAppProtocol)
  | .httpHost => whenEnabled config.filterHttpHostEnabled (.httpHost config.filterHttpHost)
  | .httpMethod => whenEnabled config.filterHttpMethodEnabled (.httpMethod config.filterHttpMethod)
  | .dnsQuery => whenEnabled config.filterDnsQueryEnabled (.dnsQuery config.filterDnsQuery)
  | .dnsType => whenEnabled config.filterDnsTypeEnabled (.dnsType config.filterDnsType)
  | .tlsSni => whenEnabled config.filterTlsSniEnabled (.tlsSni config.filterTlsSni)
  | .tlsAlpn => whenEnabled config.filterTlsAlpnEnabled (.tlsAlpn config.filterTlsAlpn)
  | .dhcpType => whenEnabled config.filterDhcpTypeEnabled (.dhcpType config.filterDhcpType)
  | .quicVersion =>
      whenEnabled config.filterQuicVersionEnabled (.quicVersion config.filterQuicVersion)

/-! ### Selection -/

/-- A host name up to case and a trailing dot. -/
def canonicalHost (name : List UInt8) : List UInt8 :=
  (trimTrailingDot (cString name)).map asciiLower

/-- Two names that a mode does not tell apart. -/
def SameName (idna : IdnaLookup) (mode : DomainMatchMode) (left right : List UInt8) : Prop :=
  match mode, idna with
  | .exact, _ => cString left = cString right
  | .idna, some lookupName => ∃ leftAscii rightAscii, lookupName (cString left) = some leftAscii ∧
      lookupName (cString right) = some rightAscii ∧
        canonicalHost leftAscii = canonicalHost rightAscii
  | _, _ => canonicalHost left = canonicalHost right

/-- There is metadata, of one of the protocols, with the property. -/
def HasMetadata (protocols : List AppProtocol) (holds : AppInfo → Prop) (app : Option AppInfo) :
    Prop :=
  ∃ decoded, app = some decoded ∧ decoded.protocol ∈ protocols ∧ holds decoded

/-- The packets that a filter selects, by what was parsed and decoded of them. -/
def DisplayFilter.Selects (sameName : List UInt8 → List UInt8 → Prop) (packet : PacketInfo)
    (app : Option AppInfo) (filter : DisplayFilter) : Prop :=
  match filter with
  | .protocol wanted => packet.protocol = wanted
  | .port number => packet.hasPorts = true ∧ (packet.srcPort = number ∨ packet.dstPort = number)
  | .host address => packet.srcIp = address ∨ packet.dstIp = address
  | .payload bytes => packet.hasPayload = true ∧ bytes ≠ [] ∧ bytes <:+: packet.decodeWindow
  | .app wanted => wanted ≠ .unknown ∧ HasMetadata [wanted] (fun _ => True) app
  | .httpHost name => HasMetadata [.http] (fun decoded => sameName decoded.httpHost name) app
  | .httpMethod method =>
      HasMetadata [.http] (fun decoded => cString decoded.httpMethod = cString method) app
  | .dnsQuery name =>
      HasMetadata [.dns, .mdns] (fun decoded => sameName decoded.dnsQueryName name) app
  | .dnsType type => HasMetadata [.dns, .mdns] (fun decoded => decoded.dnsQueryType = type) app
  | .tlsSni name => HasMetadata [.tls] (fun decoded => sameName decoded.tlsSni name) app
  | .tlsAlpn wanted =>
      HasMetadata [.tls] (fun decoded => cString wanted ≠ [] ∧
        cString wanted ∈ (cString decoded.tlsAlpn).splitOn 44) app
  | .dhcpType type => HasMetadata [.dhcp] (fun decoded => decoded.dhcpMessageType = type) app
  | .quicVersion version => HasMetadata [.quic] (fun decoded => decoded.quicVersion = version) app

/-- The metadata that application filters read: with reassembly, that of a flow which an earlier
packet classified. -/
def FilterContext.shownApp (reassemble : Bool) (context : FilterContext) : Option AppInfo :=
  if reassemble then if context.flowIsClassified then context.flowApp else none
  else context.packetApp

/-- Every enabled filter selects the packet. -/
def AppConfig.Selects (idna : IdnaLookup) (config : AppConfig) (context : FilterContext) : Prop :=
  ∀ kind, ∀ filter ∈ config.filter kind,
    filter.Selects (SameName idna config.domainMatchMode) context.packet
      (context.shownApp config.reassemble)

/-! ### Exactness -/

section Exactness

variable {idna : IdnaLookup} {config : AppConfig} {context : FilterContext} {info : PacketInfo}
variable {decoded : AppInfo} {app : Option AppInfo}

theorem forall_whenEnabled {holds : DisplayFilter → Prop} {enabled : Bool}
    {filter : DisplayFilter} :
    (∀ given ∈ whenEnabled enabled filter, holds given) ↔ (enabled = true → holds filter) := by
  cases enabled <;> simp [whenEnabled]

theorem FilterKind.forall {holds : FilterKind → Prop} :
    (∀ kind, holds kind) ↔
      (holds .protocol ∧ holds .port ∧ holds .host ∧ holds .payloadText ∧ holds .payloadHex) ∧
        holds .app ∧ holds .httpHost ∧ holds .httpMethod ∧ holds .dnsQuery ∧ holds .dnsType ∧
          holds .tlsSni ∧ holds .tlsAlpn ∧ holds .dhcpType ∧ holds .quicVersion := by
  constructor
  · intro all
    exact ⟨⟨all _, all _, all _, all _, all _⟩, all _, all _, all _, all _, all _, all _, all _,
      all _, all _⟩
  · rintro ⟨⟨protocol, port, host, text, hex⟩, app, httpHost, httpMethod, dnsQuery, dnsType,
      tlsSni, tlsAlpn, dhcpType, quicVersion⟩ kind
    cases kind <;> assumption

/-! #### Names -/

theorem domainNameMatches_iff (left right : List UInt8) :
    domainNameMatches idna config left right = true ↔
      SameName idna config.domainMatchMode left right := by
  have normalized : ∀ left right, domainNameEqualsNormalized left right = true ↔
      canonicalHost left = canonicalHost right := fun _ _ => decide_eq_true_iff
  unfold domainNameMatches SameName
  cases config.domainMatchMode with
  | exact => exact decide_eq_true_iff
  | normalized => exact normalized left right
  | idna =>
      cases idna with
      | none => exact normalized left right
      | some lookupName =>
          dsimp only [domainNameEqualsIdna]
          cases lookupName (cString left) with
          | none => simp
          | some leftAscii =>
              cases lookupName (cString right) with
              | none => simp
              | some rightAscii => simpa using normalized leftAscii rightAscii

theorem appHasAlpn_iff_splitOn (list needle : List UInt8) :
    appHasAlpn list needle = true ↔
      cString needle ≠ [] ∧ cString needle ∈ (cString list).splitOn 44 := by
  unfold appHasAlpn
  split
  next empty => simp [empty]
  next nonempty =>
    rw [alpnListHas_iff]
    cases (cString list).splitOn 44 <;> simp [nonempty]

/-! #### Packet filters -/

theorem payloadContains_iff (payload needle : List UInt8) :
    payloadContains payload needle = true ↔ needle ≠ [] ∧ needle <:+: payload := by
  unfold payloadContains
  split
  next empty => simp [List.eq_nil_of_length_eq_zero empty]
  next nonempty =>
    have someByte : needle ≠ [] := fun empty => nonempty (by rw [empty]; rfl)
    rw [Option.isSome_iff_ne_none, ne_eq, firstMatch_eq_none_iff someByte, not_not]
    exact (and_iff_right someByte).symm

theorem payloadFilterMatches_iff (enabled : Bool) (needle : List UInt8) :
    payloadFilterMatches enabled needle info = true ↔ (enabled = true →
      info.hasPayload = true ∧ needle ≠ [] ∧ needle <:+: info.decodeWindow) := by
  unfold payloadFilterMatches
  cases enabled with
  | false => simp
  | true => cases payload : info.hasPayload <;> simp [payloadContains_iff]

theorem packetFiltersMatch_iff :
    packetFiltersMatch config info = true ↔
      (config.filterProtocolEnabled = true → info.protocol = config.filterProtocol) ∧
      (config.filterPortEnabled = true → info.hasPorts = true ∧
        (info.srcPort = config.filterPort ∨ info.dstPort = config.filterPort)) ∧
      (config.filterHostEnabled = true →
        info.srcIp = config.filterHost ∨ info.dstIp = config.filterHost) ∧
      (config.filterPayloadTextEnabled = true → info.hasPayload = true ∧
        config.filterPayloadText ≠ [] ∧ config.filterPayloadText <:+: info.decodeWindow) ∧
      (config.filterPayloadHexEnabled = true → info.hasPayload = true ∧
        config.filterPayloadHex ≠ [] ∧ config.filterPayloadHex <:+: info.decodeWindow) := by
  have protocol : protocolFilterMatches config info = true ↔
      (config.filterProtocolEnabled = true → info.protocol = config.filterProtocol) := by
    unfold protocolFilterMatches
    cases config.filterProtocolEnabled <;> simp
  have port : portFilterMatches config info = true ↔ (config.filterPortEnabled = true →
      info.hasPorts = true ∧
        (info.srcPort = config.filterPort ∨ info.dstPort = config.filterPort)) := by
    unfold portFilterMatches
    cases config.filterPortEnabled <;> cases info.hasPorts <;> simp
  have host : hostFilterMatches config info = true ↔ (config.filterHostEnabled = true →
      info.srcIp = config.filterHost ∨ info.dstIp = config.filterHost) := by
    unfold hostFilterMatches
    cases config.filterHostEnabled <;> simp
  simp only [packetFiltersMatch, Bool.and_eq_true, protocol, port, host,
    payloadTextFilterMatches, payloadHexFilterMatches, payloadFilterMatches_iff, and_assoc]

/-! #### Application filters -/

theorem appFieldMatches_iff (enabled : Bool) (protocols : List AppProtocol) (holds : Bool) :
    appFieldMatches enabled protocols decoded holds = true ↔
      (enabled = true → decoded.protocol ∈ protocols ∧ holds = true) := by
  unfold appFieldMatches
  cases enabled <;> simp

/-- One metadata record against all enabled application filters. -/
theorem appFilterMatchesOne_iff :
    appFilterMatchesOne idna config app = true ↔
      ∃ decoded, app = some decoded ∧ decoded.protocol ≠ .unknown ∧
        (config.filterAppEnabled = true → decoded.protocol = config.filterAppProtocol) ∧
        (config.filterHttpHostEnabled = true → decoded.protocol ∈ [AppProtocol.http] ∧
          SameName idna config.domainMatchMode decoded.httpHost config.filterHttpHost) ∧
        (config.filterHttpMethodEnabled = true → decoded.protocol ∈ [AppProtocol.http] ∧
          cString decoded.httpMethod = cString config.filterHttpMethod) ∧
        (config.filterDnsQueryEnabled = true → decoded.protocol ∈ [AppProtocol.dns, .mdns] ∧
          SameName idna config.domainMatchMode decoded.dnsQueryName config.filterDnsQuery) ∧
        (config.filterDnsTypeEnabled = true → decoded.protocol ∈ [AppProtocol.dns, .mdns] ∧
          decoded.dnsQueryType = config.filterDnsType) ∧
        (config.filterTlsSniEnabled = true → decoded.protocol ∈ [AppProtocol.tls] ∧
          SameName idna config.domainMatchMode decoded.tlsSni config.filterTlsSni) ∧
        (config.filterTlsAlpnEnabled = true → decoded.protocol ∈ [AppProtocol.tls] ∧
          cString config.filterTlsAlpn ≠ [] ∧
            cString config.filterTlsAlpn ∈ (cString decoded.tlsAlpn).splitOn 44) ∧
        (config.filterDhcpTypeEnabled = true → decoded.protocol ∈ [AppProtocol.dhcp] ∧
          decoded.dhcpMessageType = config.filterDhcpType) ∧
        (config.filterQuicVersionEnabled = true → decoded.protocol ∈ [AppProtocol.quic] ∧
          decoded.quicVersion = config.filterQuicVersion) := by
  cases app with
  | none => simp [appFilterMatchesOne]
  | some decoded =>
      have named : (!config.filterAppEnabled || decide (decoded.protocol =
          config.filterAppProtocol)) = true ↔ (config.filterAppEnabled = true →
            decoded.protocol = config.filterAppProtocol) := by
        cases config.filterAppEnabled <;> simp
      simp only [appFilterMatchesOne, Bool.and_eq_true, decide_eq_true_eq, named,
        appFieldMatches_iff, domainNameMatches_iff, appHasAlpn_iff_splitOn, and_assoc,
        Option.some.injEq, exists_eq_left']

theorem hasMetadata_some {protocols : List AppProtocol} {holds : AppInfo → Prop} :
    HasMetadata protocols holds (some decoded) ↔ decoded.protocol ∈ protocols ∧ holds decoded := by
  simp [HasMetadata]

theorem HasMetadata.known {protocols : List AppProtocol} {holds : AppInfo → Prop}
    (metadata : HasMetadata protocols holds app) (named : AppProtocol.unknown ∉ protocols) :
    ∃ decoded, app = some decoded ∧ decoded.protocol ≠ .unknown := by
  obtain ⟨decoded, same, member, -⟩ := metadata
  exact ⟨decoded, same, fun unknown => named (unknown ▸ member)⟩

/-- The application filters read the metadata that is shown for the packet. -/
theorem appFiltersMatch_eq : appFiltersMatch idna config context =
    (!appFiltersEnabled config ||
      appFilterMatchesOne idna config (context.shownApp config.reassemble)) := by
  unfold appFiltersMatch FilterContext.shownApp
  cases appFiltersEnabled config <;> cases config.reassemble <;>
    cases context.flowIsClassified <;> rfl

/-- A packet passes the filters exactly if every enabled filter selects it. -/
theorem filtersMatch_iff_selects :
    filtersMatch idna config context = true ↔ config.Selects idna context := by
  simp only [filtersMatch, Bool.and_eq_true, AppConfig.Selects, FilterKind.forall,
    AppConfig.filter, forall_whenEnabled]
  refine and_congr packetFiltersMatch_iff ?_
  rw [appFiltersMatch_eq, Bool.or_eq_true, appFilterMatchesOne_iff, Bool.not_eq_true']
  generalize context.shownApp config.reassemble = app
  cases enabled : appFiltersEnabled config with
  | false =>
      simp only [appFiltersEnabled, Bool.or_eq_false_iff] at enabled
      simp [enabled]
  | true =>
      simp only [appFiltersEnabled, Bool.or_eq_true] at enabled
      constructor
      · rintro (disabled | ⟨decoded, rfl, known, named, httpHost, httpMethod, dnsQuery, dnsType,
          tlsSni, tlsAlpn, dhcpType, quicVersion⟩)
        · contradiction
        · refine ⟨fun on => ?_, fun on => hasMetadata_some.mpr (httpHost on),
            fun on => hasMetadata_some.mpr (httpMethod on),
            fun on => hasMetadata_some.mpr (dnsQuery on),
            fun on => hasMetadata_some.mpr (dnsType on),
            fun on => hasMetadata_some.mpr (tlsSni on), fun on => hasMetadata_some.mpr (tlsAlpn on),
            fun on => hasMetadata_some.mpr (dhcpType on),
            fun on => hasMetadata_some.mpr (quicVersion on)⟩
          rw [DisplayFilter.Selects, ← named on]
          exact ⟨known, hasMetadata_some.mpr ⟨List.mem_singleton_self _, trivial⟩⟩
      · rintro ⟨named, httpHost, httpMethod, dnsQuery, dnsType, tlsSni, tlsAlpn, dhcpType,
          quicVersion⟩
        -- any filter that is on asks for metadata of a known protocol
        obtain ⟨decoded, rfl, known⟩ : ∃ decoded, app = some decoded ∧
            decoded.protocol ≠ .unknown := by
          rcases enabled with (((((((on | on) | on) | on) | on) | on) | on) | on) | on
          · exact (named on).2.known (by simpa using (named on).1.symm)
          · exact (httpHost on).known (by decide)
          · exact (httpMethod on).known (by decide)
          · exact (dnsQuery on).known (by decide)
          · exact (dnsType on).known (by decide)
          · exact (tlsSni on).known (by decide)
          · exact (tlsAlpn on).known (by decide)
          · exact (dhcpType on).known (by decide)
          · exact (quicVersion on).known (by decide)
        refine .inr ⟨decoded, rfl, known, fun on => ?_, fun on => hasMetadata_some.mp (httpHost on),
          fun on => hasMetadata_some.mp (httpMethod on),
          fun on => hasMetadata_some.mp (dnsQuery on), fun on => hasMetadata_some.mp (dnsType on),
          fun on => hasMetadata_some.mp (tlsSni on), fun on => hasMetadata_some.mp (tlsAlpn on),
          fun on => hasMetadata_some.mp (dhcpType on),
          fun on => hasMetadata_some.mp (quicVersion on)⟩
        exact List.mem_singleton.mp (hasMetadata_some.mp (named on).2).1

end Exactness

end MiniSniffer
