import MiniSniffer.Config
import MiniSniffer.Foundation.PatternSearch

/-!
Contract: the display filters (`src/filters.c`).

Owns the packet filters (protocol, port, host, payload patterns), the application filters over one
`AppInfo`, and the choice of the `AppInfo` they read: the packet's own, or with reassembly the one
of a flow that was classified before.

Does not own where a packet's context comes from: see `Capture.Loop`.
-/

namespace MiniSniffer

open Foundation

/-! ### Packet filters -/

def protocolFilterMatches (config : AppConfig) (info : PacketInfo) : Bool :=
  if !config.filterProtocolEnabled then true else info.protocol = config.filterProtocol

def portFilterMatches (config : AppConfig) (info : PacketInfo) : Bool :=
  if !config.filterPortEnabled then true
  else if !info.hasPorts then false
  else info.srcPort = config.filterPort || info.dstPort = config.filterPort

def hostFilterMatches (config : AppConfig) (info : PacketInfo) : Bool :=
  if !config.filterHostEnabled then true
  else info.srcIp = config.filterHost || info.dstIp = config.filterHost

/-- An empty pattern is never found. -/
def payloadContains (payload needle : List UInt8) : Bool :=
  if needle.length = 0 then false else (firstMatch needle payload).isSome

/-- The text and the hex filter: a pattern searched for in the decode window. -/
def payloadFilterMatches (enabled : Bool) (needle : List UInt8) (info : PacketInfo) : Bool :=
  if !enabled then true
  else if !info.hasPayload then false
  else payloadContains info.decodeWindow needle

def payloadTextFilterMatches (config : AppConfig) (info : PacketInfo) : Bool :=
  payloadFilterMatches config.filterPayloadTextEnabled config.filterPayloadText info

def payloadHexFilterMatches (config : AppConfig) (info : PacketInfo) : Bool :=
  payloadFilterMatches config.filterPayloadHexEnabled config.filterPayloadHex info

/-! ### Names -/

/-- `token` holds the bytes of the list element read so far. -/
def alpnListHas (needle : List UInt8) : List UInt8 → List UInt8 → Bool
  | token, [] => token = needle
  | token, byte :: rest =>
      if byte = 44 then token = needle || alpnListHas needle [] rest
      else alpnListHas needle (token ++ [byte]) rest

/-- Whole elements of a comma-separated list. -/
def appHasAlpn (list needle : List UInt8) : Bool :=
  if cString needle = [] then false else alpnListHas (cString needle) [] (cString list)

def asciiLower (value : UInt8) : UInt8 := if 65 ≤ value && value ≤ 90 then value + 32 else value

/-- A name of more than one byte loses its trailing dot. -/
def trimTrailingDot (name : List UInt8) : List UInt8 :=
  if name.length > 1 && name.getLast? = some 46 then name.dropLast else name

def domainNameEqualsNormalized (left right : List UInt8) : Bool :=
  (trimTrailingDot (cString left)).map asciiLower = (trimTrailingDot (cString right)).map asciiLower

/-- `idn2_lookup_u8`; a build without libidn2 has none. -/
abbrev IdnaLookup := Option (List UInt8 → Option (List UInt8))

def domainNameEqualsIdna (lookupName : List UInt8 → Option (List UInt8))
    (left right : List UInt8) : Bool :=
  match lookupName (cString left), lookupName (cString right) with
  | some leftAscii, some rightAscii => domainNameEqualsNormalized leftAscii rightAscii
  | _, _ => false

/-- Without libidn2 the IDNA mode falls back to normalized names. -/
def domainNameMatches (idna : IdnaLookup) (config : AppConfig) (left right : List UInt8) : Bool :=
  match config.domainMatchMode, idna with
  | .exact, _ => cString left = cString right
  | .idna, some lookupName => domainNameEqualsIdna lookupName left right
  | _, _ => domainNameEqualsNormalized left right

/-! ### Application filters -/

/-- One enabled filter: the metadata is of a protocol it reads, and the field matches. -/
def appFieldMatches (enabled : Bool) (protocols : List AppProtocol) (app : AppInfo)
    (fieldMatches : Bool) : Bool :=
  !enabled || (protocols.contains app.protocol && fieldMatches)

def appFilterMatchesOne (idna : IdnaLookup) (config : AppConfig) (app : Option AppInfo) : Bool :=
  match app with
  | none => false
  | some app =>
      app.protocol ≠ .unknown &&
      (!config.filterAppEnabled || app.protocol = config.filterAppProtocol) &&
      appFieldMatches config.filterHttpHostEnabled [.http] app
        (domainNameMatches idna config app.httpHost config.filterHttpHost) &&
      appFieldMatches config.filterHttpMethodEnabled [.http] app
        (cString app.httpMethod = cString config.filterHttpMethod) &&
      appFieldMatches config.filterDnsQueryEnabled [.dns, .mdns] app
        (domainNameMatches idna config app.dnsQueryName config.filterDnsQuery) &&
      appFieldMatches config.filterDnsTypeEnabled [.dns, .mdns] app
        (app.dnsQueryType = config.filterDnsType) &&
      appFieldMatches config.filterTlsSniEnabled [.tls] app
        (domainNameMatches idna config app.tlsSni config.filterTlsSni) &&
      appFieldMatches config.filterTlsAlpnEnabled [.tls] app
        (appHasAlpn app.tlsAlpn config.filterTlsAlpn) &&
      appFieldMatches config.filterDhcpTypeEnabled [.dhcp] app
        (app.dhcpMessageType = config.filterDhcpType) &&
      appFieldMatches config.filterQuicVersionEnabled [.quic] app
        (app.quicVersion = config.filterQuicVersion)

def appFiltersEnabled (config : AppConfig) : Bool :=
  config.filterAppEnabled || config.filterHttpHostEnabled || config.filterHttpMethodEnabled ||
    config.filterDnsQueryEnabled || config.filterDnsTypeEnabled || config.filterTlsSniEnabled ||
    config.filterTlsAlpnEnabled || config.filterDhcpTypeEnabled || config.filterQuicVersionEnabled

/-! ### All filters -/

structure FilterContext where
  packet : PacketInfo
  packetApp : Option AppInfo := none
  flowApp : Option AppInfo := none
  flowIsClassified : Bool := false
deriving DecidableEq, Repr

def appFiltersMatch (idna : IdnaLookup) (config : AppConfig) (context : FilterContext) : Bool :=
  if !appFiltersEnabled config then true
  else if config.reassemble then
    context.flowIsClassified && appFilterMatchesOne idna config context.flowApp
  else appFilterMatchesOne idna config context.packetApp

def packetFiltersMatch (config : AppConfig) (info : PacketInfo) : Bool :=
  protocolFilterMatches config info && portFilterMatches config info &&
    hostFilterMatches config info && payloadTextFilterMatches config info &&
    payloadHexFilterMatches config info

def filtersMatch (idna : IdnaLookup) (config : AppConfig) (context : FilterContext) : Bool :=
  packetFiltersMatch config context.packet && appFiltersMatch idna config context

end MiniSniffer
