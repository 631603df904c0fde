import MiniSniffer.App.Verdicts

/-!
Contract: what a decode call leaves in the caller's `AppInfo`.

Owns the law of every decoder and dispatcher: a failed call leaves a cleared `AppInfo`, a successful
one leaves its own protocol and nothing in the fields of another. Every decoder keeps it except
TLS, which records the version of a record header before the three verdicts that stop there; the
dispatchers break it exactly where they hand such a verdict on.

Does not own which call is made for a packet or stream: see `App.Decoder`.
-/

namespace MiniSniffer

open Foundation

/-! ### Calls -/

inductive AppDecoder where
  | http
  | tls
  | dns
  | mdns
  | dnsTcp
  | dhcp
  | quic
deriving DecidableEq, Repr

namespace AppDecoder

def decode : AppDecoder → List UInt8 → AppDecodeResult × AppInfo
  | .http => appHttpDecode
  | .tls => appTlsDecodeClientHello
  | .dns => appDnsDecodeMessage
  | .mdns => appDnsDecodeMdnsMessage
  | .dnsTcp => appDnsDecodeTcpFrame
  | .dhcp => appDhcpDecodeUdp
  | .quic => appQuicDecodeInitial

def protocol : AppDecoder → AppProtocol
  | .http => .http
  | .tls => .tls
  | .dns => .dns
  | .mdns => .mdns
  | .dnsTcp => .dns
  | .dhcp => .dhcp
  | .quic => .quic

end AppDecoder

/-- A decoder or a dispatcher with its arguments; `none` is a `NULL` buffer. -/
inductive DecodeCall where
  | decoder (chosen : AppDecoder) (data : Option (List UInt8))
  | buffer (preferred : AppProtocol) (data : Option (List UInt8))
  | packet (packet : PacketInfo)
  | stream (packet : PacketInfo) (data : Option (List UInt8))
deriving DecidableEq, Repr

namespace DecodeCall

/-- The verdict and what the caller's `AppInfo` holds afterwards. Every call clears it before
anything else (`clear_app_info`, `app_info_clear`), so what it held before is no argument: the
defaults of `AppInfo` are the cleared structure, and each decoder starts from them. -/
def result (call : DecodeCall) : AppDecodeResult × AppInfo :=
  match call with
  | .decoder _ none => (.noMatch, {})
  | .decoder chosen (some data) => chosen.decode data
  | .buffer preferred data => appDecodeBuffer preferred data
  | .packet captured => appDecodePacket captured
  | .stream captured data => appDecodeStream captured data

/-- The protocols that a successful call may report. -/
def protocols : DecodeCall → List AppProtocol
  | .decoder chosen _ => [chosen.protocol]
  | .buffer .unknown _ => [.http, .tls, .dns]
  | .buffer preferred _ => [preferred]
  | .packet _ => [.http, .tls, .dns, .mdns, .dhcp, .quic]
  | .stream _ _ => [.http, .tls, .dns]

end DecodeCall

/-! ### Own fields -/

/-- The metadata of one protocol: everything else is cleared. -/
def AppInfo.ownFields (protocol : AppProtocol) (app : AppInfo) : AppInfo :=
  match protocol with
  | .unknown => {}
  | .http =>
      { protocol := .http
        summary := app.summary
        httpMethod := app.httpMethod
        httpPath := app.httpPath
        httpVersion := app.httpVersion
        httpHost := app.httpHost
        httpUserAgent := app.httpUserAgent
        httpStatusCode := app.httpStatusCode
        httpReason := app.httpReason
        httpContentType := app.httpContentType }
  | .dns | .mdns =>
      { protocol := protocol
        summary := app.summary
        dnsTransactionId := app.dnsTransactionId
        dnsIsResponse := app.dnsIsResponse
        dnsOpcode := app.dnsOpcode
        dnsRcode := app.dnsRcode
        dnsQuestionCount := app.dnsQuestionCount
        dnsQueryName := app.dnsQueryName
        dnsQueryType := app.dnsQueryType
        dnsQueryClass := app.dnsQueryClass }
  | .tls =>
      { protocol := .tls
        summary := app.summary
        tlsRecordVersion := app.tlsRecordVersion
        tlsHandshakeType := app.tlsHandshakeType
        tlsClientVersion := app.tlsClientVersion
        tlsSni := app.tlsSni
        tlsAlpn := app.tlsAlpn }
  | .dhcp =>
      { protocol := .dhcp
        summary := app.summary
        dhcpMessageType := app.dhcpMessageType
        dhcpTransactionId := app.dhcpTransactionId
        dhcpClientMac := app.dhcpClientMac
        dhcpClientIp := app.dhcpClientIp
        dhcpYourIp := app.dhcpYourIp
        dhcpServerIp := app.dhcpServerIp
        dhcpRequestedIp := app.dhcpRequestedIp }
  | .quic =>
      { protocol := .quic
        summary := app.summary
        quicVersion := app.quicVersion
        quicDcid := app.quicDcid
        quicScid := app.quicScid }

/-- The metadata names the protocol and holds nothing of another one. -/
def AppInfo.BelongsTo (protocol : AppProtocol) (app : AppInfo) : Prop :=
  app.ownFields protocol = app

/-- Nothing stale: a cleared `AppInfo`, or one that belongs to one of the protocols. -/
def LeavesClean (protocols : List AppProtocol) (decoded : AppDecodeResult × AppInfo) : Prop :=
  if decoded.1 = .ok then ∃ protocol ∈ protocols, decoded.2.BelongsTo protocol
  else decoded.2 = {}

section Clean

variable {verdict : AppDecodeResult} {decoded : AppDecodeResult × AppInfo} {app : AppInfo}
variable {protocol : AppProtocol} {protocols others : List AppProtocol}

theorem leavesClean_failed (failed : verdict ≠ .ok) : LeavesClean protocols (verdict, {}) := by
  rw [LeavesClean, if_neg failed]

theorem leavesClean_ok (belongs : app.BelongsTo protocol) : LeavesClean [protocol] (.ok, app) := by
  rw [LeavesClean, if_pos rfl]
  exact ⟨protocol, List.mem_singleton_self _, belongs⟩

theorem LeavesClean.mono (clean : LeavesClean protocols decoded) (among : protocols ⊆ others) :
    LeavesClean others decoded := by
  unfold LeavesClean at clean ⊢
  split_ifs at clean ⊢
  · rcases clean with ⟨protocol, member, belongs⟩
    exact ⟨protocol, among member, belongs⟩
  · exact clean

/-- A preference only turns one failure into another. -/
theorem leavesClean_preferredResult (preferred : AppProtocol) :
    LeavesClean protocols (preferredResult decoded preferred) ↔ LeavesClean protocols decoded := by
  unfold preferredResult
  split_ifs with turned
  · simp only [Bool.and_eq_true, decide_eq_true_eq] at turned
    simp [LeavesClean, turned.1]
  · exact Iff.rfl

end Clean

/-! ### HTTP, DNS, DHCP and QUIC -/

section Decoders

variable {data line bytes : List UInt8} {out filled : AppInfo} {protocol : AppProtocol}

theorem parseRequestLine_belongs (belongs : out.BelongsTo .http)
    (parsed : parseRequestLine line out = some filled) : filled.BelongsTo .http := by
  unfold parseRequestLine at parsed
  split at parsed
  · contradiction
  · split_ifs at parsed
    simp only at parsed
    split at parsed
    · contradiction
    · split_ifs at parsed
      rw [← Option.some.inj parsed, ← belongs]
      rfl

theorem parseStatusLine_belongs (belongs : out.BelongsTo .http)
    (parsed : parseStatusLine line out = some filled) : filled.BelongsTo .http := by
  unfold parseStatusLine at parsed
  split_ifs at parsed
  split at parsed
  · contradiction
  · split_ifs at parsed
    simp only at parsed
    split_ifs at parsed
    · rw [← Option.some.inj parsed, ← belongs]
      rfl
    · rw [← Option.some.inj parsed, ← belongs]
      rfl

theorem parseHeader_belongs (belongs : out.BelongsTo .http) (line : List UInt8) :
    (parseHeader line out).BelongsTo .http := by
  unfold parseHeader
  split
  · exact belongs
  · rw [← belongs]
    simp only
    split_ifs <;> rfl

theorem parseHeadersLoop_belongs {passes : Nat} (belongs : out.BelongsTo .http) :
    (parseHeadersLoop passes bytes out).BelongsTo .http := by
  induction passes generalizing bytes out with
  | zero => exact belongs
  | succ passes inductionHypothesis =>
      rw [parseHeadersLoop]
      split
      · exact belongs
      · split_ifs
        · exact belongs
        · exact inductionHypothesis (parseHeader_belongs belongs _)

theorem appHttpDecode_clean (data : List UInt8) : LeavesClean [.http] (appHttpDecode data) := by
  unfold appHttpDecode
  split_ifs
  · exact leavesClean_failed (by decide)
  · exact leavesClean_failed (by decide)
  split
  · exact leavesClean_failed (by decide)
  unfold decodeHttpBlock
  split
  · exact leavesClean_failed (by decide)
  simp only
  split
  · exact leavesClean_failed (by decide)
  next parsed =>
    apply leavesClean_ok
    apply parseHeadersLoop_belongs
    have fresh : AppInfo.BelongsTo .http { protocol := .http } := rfl
    split_ifs at parsed
    · exact parseStatusLine_belongs fresh parsed
    · exact parseRequestLine_belongs fresh parsed

theorem parseFirstQuestion_belongs (isDns : protocol = .dns ∨ protocol = .mdns)
    (belongs : out.BelongsTo protocol) (parsed : parseFirstQuestion data out = some filled) :
    filled.BelongsTo protocol := by
  unfold parseFirstQuestion at parsed
  split at parsed
  · contradiction
  split at parsed
  · contradiction
  split at parsed
  · contradiction
  rw [← Option.some.inj parsed, ← belongs]
  rcases isDns with rfl | rfl <;> rfl

theorem decodeDnsMessageAs_clean (isDns : protocol = .dns ∨ protocol = .mdns)
    (label data : List UInt8) :
    LeavesClean [protocol] (decodeDnsMessageAs protocol label data) := by
  unfold decodeDnsMessageAs
  split_ifs
  · exact leavesClean_failed (by decide)
  · exact leavesClean_failed (by decide)
  split
  · exact leavesClean_failed (by decide)
  simp only
  split_ifs
  · exact leavesClean_failed (by decide)
  · split
    · exact leavesClean_failed (by decide)
    next parsed =>
      have asked := parseFirstQuestion_belongs isDns (by rcases isDns with rfl | rfl <;> rfl) parsed
      apply leavesClean_ok
      rw [← asked]
      rcases isDns with rfl | rfl <;> rfl
  · apply leavesClean_ok
    rcases isDns with rfl | rfl <;> rfl

theorem appDnsDecodeTcpFrame_clean (data : List UInt8) :
    LeavesClean [.dns] (appDnsDecodeTcpFrame data) := by
  unfold appDnsDecodeTcpFrame
  simp only
  split_ifs
  · exact leavesClean_failed (by decide)
  · exact leavesClean_failed (by decide)
  · exact leavesClean_failed (by decide)
  · exact leavesClean_failed (by decide)
  · exact decodeDnsMessageAs_clean (Or.inl rfl) _ _

theorem scanDhcpOptionsLoop_belongs {passes offset : Nat} (belongs : out.BelongsTo .dhcp) :
    (scanDhcpOptionsLoop data passes offset out).BelongsTo .dhcp := by
  have keeps : ∀ (tag : UInt8) (value : List UInt8) (out : AppInfo), out.BelongsTo .dhcp →
      (keepDhcpOption tag value out).BelongsTo .dhcp := by
    intro tag value out belongs
    rw [← belongs]
    unfold keepDhcpOption
    split_ifs <;> rfl
  induction passes generalizing offset out with
  | zero => exact belongs
  | succ passes inductionHypothesis =>
      rw [scanDhcpOptionsLoop]
      simp only
      split_ifs
      · exact belongs
      · exact inductionHypothesis belongs
      · exact belongs
      · exact belongs
      · exact inductionHypothesis (keeps _ _ _ belongs)
      · exact belongs

theorem appDhcpDecodeUdp_clean (data : List UInt8) :
    LeavesClean [.dhcp] (appDhcpDecodeUdp data) := by
  unfold appDhcpDecodeUdp
  split_ifs
  · exact leavesClean_failed (by decide)
  · exact leavesClean_failed (by decide)
  · exact leavesClean_failed (by decide)
  split
  · exact leavesClean_failed (by decide)
  simp only
  split
  · exact leavesClean_failed (by decide)
  · apply leavesClean_ok
    rw [scanDhcpOptions, ← scanDhcpOptionsLoop_belongs]
    · rfl
    · rfl

theorem appQuicDecodeInitial_clean (data : List UInt8) :
    LeavesClean [.quic] (appQuicDecodeInitial data) := by
  have failed : ∀ {offset verdict}, readConnectionId data offset = .error verdict →
      verdict ≠ .ok := by
    intro offset verdict read
    unfold readConnectionId at read
    split at read
    · cases read
      decide
    · split_ifs at read <;> cases read <;> decide
  unfold appQuicDecodeInitial
  split_ifs
  · exact leavesClean_failed (by decide)
  split
  · exact leavesClean_failed (by decide)
  split_ifs
  · exact leavesClean_failed (by decide)
  · exact leavesClean_failed (by decide)
  split
  · exact leavesClean_failed (by decide)
  split_ifs
  · exact leavesClean_failed (by decide)
  split
  next read => exact leavesClean_failed (failed read)
  split
  next read => exact leavesClean_failed (failed read)
  exact leavesClean_ok rfl

end Decoders

/-! ### TLS -/

/-- A complete record header of version 3.x that announces a handshake. -/
def announcesHandshake (data : List UInt8) : Prop :=
  tlsRecordHeaderLen ≤ data.length ∧ byteAt data 0 = tlsRecordHandshake ∧
    readU16 data 1 >>> 8 = 0x03

/-- Another record, with a version that is not zero. -/
def refusedAtRecord (data : List UInt8) : Prop :=
  tlsRecordHeaderLen ≤ data.length ∧ readU16 data 1 ≠ 0 ∧ ¬ announcesHandshake data

/-- A handshake record that has not arrived whole. -/
def pendingAtRecord (data : List UInt8) : Prop :=
  announcesHandshake data ∧ data.length < tlsRecordHeaderLen + (readU16 data 3).toNat

/-- A handshake record without room for a handshake header. -/
def malformedAtRecord (data : List UInt8) : Prop :=
  announcesHandshake data ∧ ¬ data.length < tlsRecordHeaderLen + (readU16 data 3).toNat ∧
    (readU16 data 3).toNat < tlsHandshakeHeaderLen

/-- The TLS decoder stops at the record header. -/
def stopsAtRecord (data : List UInt8) : Prop :=
  refusedAtRecord data ∨ pendingAtRecord data ∨ malformedAtRecord data

section Tls

variable {data extensionData : List UInt8} {out filled : AppInfo}

theorem parseSniNames_belongs {listEnd passes offset : Nat} (belongs : out.BelongsTo .tls)
    (parsed : parseSniNames data listEnd passes offset out = some filled) :
    filled.BelongsTo .tls := by
  induction passes generalizing offset out with
  | zero => contradiction
  | succ passes inductionHypothesis =>
      rw [parseSniNames] at parsed
      split_ifs at parsed with inside last
      · split at parsed
        · contradiction
        split at parsed
        · contradiction
        simp only at parsed
        split_ifs at parsed
        · refine inductionHypothesis ?_ parsed
          rw [← belongs]
          rfl
        · exact inductionHypothesis belongs parsed
      · rw [← Option.some.inj parsed]
        exact belongs

theorem parseAlpnProtocols_belongs {listEnd passes offset : Nat} (belongs : out.BelongsTo .tls)
    (parsed : parseAlpnProtocols data listEnd passes offset out = some filled) :
    filled.BelongsTo .tls := by
  induction passes generalizing offset out with
  | zero => contradiction
  | succ passes inductionHypothesis =>
      rw [parseAlpnProtocols] at parsed
      split_ifs at parsed with inside last
      · split at parsed
        · contradiction
        split_ifs at parsed
        simp only at parsed
        split at parsed
        · contradiction
        refine inductionHypothesis ?_ parsed
        rw [← belongs]
        rfl
      · rw [← Option.some.inj parsed]
        exact belongs

theorem parseExtension_belongs {extensionType : UInt16} (belongs : out.BelongsTo .tls)
    (parsed : parseExtension extensionType extensionData out = some filled) :
    filled.BelongsTo .tls := by
  unfold parseExtension parseSniExtension parseAlpnExtension at parsed
  split_ifs at parsed
  · split at parsed
    · contradiction
    split_ifs at parsed
    exact parseSniNames_belongs belongs parsed
  · split at parsed
    · contradiction
    split_ifs at parsed
    exact parseAlpnProtocols_belongs belongs parsed
  · rw [← Option.some.inj parsed]
    exact belongs

theorem parseExtensionList_belongs {extensionsEnd passes offset : Nat}
    (belongs : out.BelongsTo .tls)
    (parsed : parseExtensionList data extensionsEnd passes offset out = some filled) :
    filled.BelongsTo .tls := by
  induction passes generalizing offset out with
  | zero => contradiction
  | succ passes inductionHypothesis =>
      rw [parseExtensionList] at parsed
      split_ifs at parsed with inside last
      · split at parsed
        · contradiction
        split at parsed
        · contradiction
        split_ifs at parsed
        simp only at parsed
        split at parsed
        · contradiction
        next kept =>
          exact inductionHypothesis (parseExtension_belongs belongs kept) parsed
      · rw [← Option.some.inj parsed]
        exact belongs

theorem parseClientHelloBody_clean (belongs : out.BelongsTo .tls) (body : List UInt8) :
    LeavesClean [.tls] (parseClientHelloBody body out) := by
  unfold parseClientHelloBody
  split
  · exact leavesClean_failed (by decide)
  next clientVersion offset _ =>
    split
    · exact leavesClean_failed (by decide)
    next filled parsed =>
      have versioned : AppInfo.BelongsTo .tls { out with tlsClientVersion := clientVersion } := by
        rw [← belongs]
        rfl
      have kept : filled.BelongsTo .tls := by
        unfold parseExtensions at parsed
        split_ifs at parsed
        · rw [← Option.some.inj parsed]
          exact versioned
        · split at parsed
          · contradiction
          split_ifs at parsed
          exact parseExtensionList_belongs versioned parsed
      apply leavesClean_ok
      rw [← kept]
      rfl

theorem decodeHandshake_clean (recordVersion recordLength : UInt16) :
    LeavesClean [.tls] (decodeHandshake data recordVersion recordLength) := by
  unfold decodeHandshake
  split
  · exact leavesClean_failed (by decide)
  split
  · exact leavesClean_failed (by decide)
  split_ifs
  · exact leavesClean_failed (by decide)
  · exact leavesClean_failed (by decide)
  · apply parseClientHelloBody_clean
    rfl

/-- A failed verdict that keeps a record version is clean only if the version is zero. -/
theorem leavesClean_version {verdict : AppDecodeResult} {version : UInt16}
    {protocols : List AppProtocol} (failed : verdict ≠ .ok) :
    LeavesClean protocols (verdict, { tlsRecordVersion := version }) ↔ version = 0 := by
  rw [LeavesClean, if_neg failed]
  simp

theorem announcesHandshake_version (announces : announcesHandshake data) :
    readU16 data 1 ≠ 0 := by
  intro zero
  have version := announces.2.2
  rw [zero] at version
  contradiction

/-- Once the record header is there: what stops the decoder at it, and otherwise the handshake. -/
theorem appTlsDecodeClientHello_cases (long : tlsRecordHeaderLen ≤ data.length) :
    (¬ announcesHandshake data ∧ appTlsDecodeClientHello data =
      (.noMatch, { tlsRecordVersion := readU16 data 1 })) ∨
    (pendingAtRecord data ∧ appTlsDecodeClientHello data =
      (.needMore, { tlsRecordVersion := readU16 data 1 })) ∨
    (malformedAtRecord data ∧ appTlsDecodeClientHello data =
      (.malformed, { tlsRecordVersion := readU16 data 1 })) ∨
    (announcesHandshake data ∧ ¬ stopsAtRecord data ∧ appTlsDecodeClientHello data =
      decodeHandshake data (readU16 data 1) (readU16 data 3)) := by
  rw [appTlsDecodeClientHello_eq long]
  by_cases announces : announcesHandshake data
  · rw [if_neg (by simp [announces.2])]
    by_cases short : data.length < tlsRecordHeaderLen + (readU16 data 3).toNat
    · rw [if_pos short]
      exact Or.inr (Or.inl ⟨⟨announces, short⟩, rfl⟩)
    rw [if_neg short]
    by_cases tiny : (readU16 data 3).toNat < tlsHandshakeHeaderLen
    · rw [if_pos tiny]
      exact Or.inr (Or.inr (Or.inl ⟨⟨announces, short, tiny⟩, rfl⟩))
    · rw [if_neg tiny]
      refine Or.inr (Or.inr (Or.inr ⟨announces, ?_, rfl⟩))
      rintro (refused | pending | malformed)
      · exact refused.2.2 announces
      · exact short pending.2
      · exact tiny malformed.2.2
  · left
    refine ⟨announces, ?_⟩
    rw [if_pos]
    simp only [Bool.or_eq_true, decide_eq_true_eq]
    by_contra neither
    simp only [not_or, not_not] at neither
    exact announces ⟨long, neither⟩

/-- The TLS decoder leaves something stale exactly where it stops at a record header. -/
theorem appTlsDecodeClientHello_clean (data : List UInt8) :
    LeavesClean [.tls] (appTlsDecodeClientHello data) ↔ ¬ stopsAtRecord data := by
  by_cases long : tlsRecordHeaderLen ≤ data.length
  · rcases appTlsDecodeClientHello_cases long with
      ⟨refused, decoded⟩ | ⟨pending, decoded⟩ | ⟨malformed, decoded⟩ | ⟨_, passes, decoded⟩
    · rw [decoded, leavesClean_version (by decide)]
      constructor
      · rintro zero (other | pending | malformed)
        · exact other.2.1 zero
        · exact refused pending.1
        · exact refused malformed.1
      · intro passes
        by_contra version
        exact passes (Or.inl ⟨long, version, refused⟩)
    · rw [decoded, leavesClean_version (by decide)]
      exact iff_of_false (announcesHandshake_version pending.1)
        (not_not_intro (Or.inr (Or.inl pending)))
    · rw [decoded, leavesClean_version (by decide)]
      exact iff_of_false (announcesHandshake_version malformed.1)
        (not_not_intro (Or.inr (Or.inr malformed)))
    · rw [decoded]
      exact iff_of_true (decodeHandshake_clean _ _) passes
  · refine iff_of_true ?_ ?_
    · unfold appTlsDecodeClientHello
      rw [if_pos (Nat.lt_of_not_le long)]
      split_ifs
      · exact leavesClean_failed (by decide)
      · exact leavesClean_failed (by decide)
      · exact leavesClean_failed (by decide)
    · rintro (refused | pending | malformed)
      · exact long refused.1
      · exact long pending.1.1
      · exact long malformed.1.1

theorem appTlsDecodeClientHello_pending (pending : pendingAtRecord data) :
    (appTlsDecodeClientHello data).1 = .needMore := by
  rcases pending with ⟨announces, short⟩
  rw [appTlsDecodeClientHello_eq announces.1, if_neg (by simp [announces.2]), if_pos short]

theorem appTlsDecodeClientHello_malformed (malformed : malformedAtRecord data) :
    (appTlsDecodeClientHello data).1 = .malformed := by
  rcases malformed with ⟨announces, complete, tiny⟩
  rw [appTlsDecodeClientHello_eq announces.1, if_neg (by simp [announces.2]), if_neg complete,
    if_pos tiny]

theorem appTlsDecodeClientHello_refused (refused : refusedAtRecord data) :
    (appTlsDecodeClientHello data).1 = .noMatch := by
  rcases appTlsDecodeClientHello_cases refused.1 with
    ⟨_, decoded⟩ | ⟨pending, _⟩ | ⟨malformed, _⟩ | ⟨announces, _⟩
  · rw [decoded]
  · exact absurd pending.1 refused.2.2
  · exact absurd malformed.1 refused.2.2
  · exact absurd announces refused.2.2

end Tls

/-! ### Dispatchers -/

/-- The decoder that a packet's ports name. -/
def hintedDecoder (packet : PacketInfo) : Option AppDecoder :=
  if hintsHttp packet then some .http
  else if hintsTls packet then some .tls
  else if packet.protocol = .udp && portMatches packet dnsPort then some .dns
  else if hintsDnsTcp packet then some .dnsTcp
  else if packet.protocol = .udp && portMatches packet mdnsPort then some .mdns
  else if packet.protocol = .udp &&
      (portMatches packet dhcpServerPort || portMatches packet dhcpClientPort) then some .dhcp
  else if packet.protocol = .udp &&
      (portMatches packet quicPort || portMatches packet quicAltPort) then some .quic
  else none

/-- Streams are hinted for the three protocols over TCP. -/
def hintedStreamDecoder (packet : PacketInfo) : Option AppDecoder :=
  if hintsHttp packet then some .http
  else if hintsTls packet then some .tls
  else if hintsDnsTcp packet then some .dnsTcp
  else none

/-- The decoder leaves a record version behind on these bytes. -/
def AppDecoder.LeavesVersion (decoder : AppDecoder) (data : List UInt8) : Prop :=
  decoder = .tls ∧ stopsAtRecord data

/-- The call leaves a record version behind: it hands on the verdict of a TLS decoder that stopped
at a record header. Sniffing hands on less, since it goes on after the verdicts it does not take. -/
def DecodeCall.LeavesVersion : DecodeCall → Prop
  | .decoder _ none => False
  | .decoder chosen (some data) => chosen.LeavesVersion data
  | .buffer .tls (some data) => stopsAtRecord data
  | .buffer .unknown (some data) => pendingAtRecord data
  | .buffer _ _ => False
  | .packet captured =>
      captured.hasPayload = true ∧
        match hintedDecoder captured with
        | some chosen => chosen.LeavesVersion captured.decodeWindow
        | none =>
            pendingAtRecord captured.decodeWindow ∨ malformedAtRecord captured.decodeWindow
  | .stream _ none => False
  | .stream captured (some data) =>
      match hintedStreamDecoder captured with
      | some chosen => chosen.LeavesVersion data
      | none => pendingAtRecord data

section Dispatch

variable {data : List UInt8} {packet : PacketInfo} {decoded : AppDecodeResult × AppInfo}
variable {protocols : List AppProtocol}

theorem leavesClean_failed_iff (failed : decoded.1 ≠ .ok) :
    LeavesClean protocols decoded ↔ decoded.2 = {} := by
  rw [LeavesClean, if_neg failed]

theorem stopsAtRecord_failed (stops : stopsAtRecord data) :
    (appTlsDecodeClientHello data).1 ≠ .ok := by
  rcases stops with refused | pending | malformed
  · rw [appTlsDecodeClientHello_refused refused]
    decide
  · rw [appTlsDecodeClientHello_pending pending]
    decide
  · rw [appTlsDecodeClientHello_malformed malformed]
    decide

theorem AppDecoder.leavesClean (decoder : AppDecoder) (other : decoder ≠ .tls)
    (data : List UInt8) : LeavesClean [decoder.protocol] (decoder.decode data) := by
  cases decoder with
  | http => exact appHttpDecode_clean data
  | tls => contradiction
  | dns => exact decodeDnsMessageAs_clean (Or.inl rfl) _ _
  | mdns => exact decodeDnsMessageAs_clean (Or.inr rfl) _ _
  | dnsTcp => exact appDnsDecodeTcpFrame_clean data
  | dhcp => exact appDhcpDecodeUdp_clean data
  | quic => exact appQuicDecodeInitial_clean data

/-- A decoder is clean exactly unless it is TLS and stops at a record header. -/
theorem AppDecoder.clean_iff (decoder : AppDecoder) (member : decoder.protocol ∈ protocols)
    (data : List UInt8) :
    LeavesClean protocols (decoder.decode data) ↔ ¬ decoder.LeavesVersion data := by
  have among : [decoder.protocol] ⊆ protocols := by
    intro protocol single
    rw [List.mem_singleton.mp single]
    exact member
  by_cases tls : decoder = .tls
  · rw [tls] at among ⊢
    rw [LeavesVersion, eq_self, true_and]
    constructor
    · intro clean stops
      have failed := stopsAtRecord_failed stops
      rw [decode, leavesClean_failed_iff failed] at clean
      exact (appTlsDecodeClientHello_clean data).mp ((leavesClean_failed_iff failed).mpr clean)
        stops
    · intro passes
      exact ((appTlsDecodeClientHello_clean data).mpr passes).mono among
  · refine iff_of_true ((decoder.leavesClean tls data).mono among) ?_
    exact fun leaves => tls leaves.1

/-- A TLS verdict that sniffing takes. -/
theorem appTlsDecodeClientHello_taken (member : .tls ∈ protocols)
    (taken : (appTlsDecodeClientHello data).1 ≠ .noMatch) :
    LeavesClean protocols (appTlsDecodeClientHello data) ↔
      ¬ (pendingAtRecord data ∨ malformedAtRecord data) := by
  have clean : LeavesClean protocols (appTlsDecodeClientHello data) ↔
      ¬ AppDecoder.LeavesVersion .tls data := AppDecoder.clean_iff .tls member data
  have notRefused : ¬ refusedAtRecord data := fun refused =>
    taken (appTlsDecodeClientHello_refused refused)
  rw [clean, AppDecoder.LeavesVersion, stopsAtRecord]
  simp [notRefused]

theorem announcesHandshake_notHttp (announces : announcesHandshake data) :
    (appHttpDecode data).1 = .noMatch := appHttpDecode_of_handshake announces.2.1

theorem sniffBuffer_clean (data : List UInt8) :
    LeavesClean [.http, .tls, .dns] (sniffBuffer data) ↔ ¬ pendingAtRecord data := by
  unfold sniffBuffer
  simp only
  by_cases http : (decide ((appHttpDecode data).1 = .ok) ||
      decide ((appHttpDecode data).1 = .needMore)) = true
  · rw [if_pos http]
    refine iff_of_true ((appHttpDecode_clean data).mono (by simp)) ?_
    intro pending
    rw [announcesHandshake_notHttp pending.1] at http
    contradiction
  rw [if_neg http]
  by_cases tls : (decide ((appTlsDecodeClientHello data).1 = .ok) ||
      decide ((appTlsDecodeClientHello data).1 = .needMore)) = true
  · rw [if_pos tls, appTlsDecodeClientHello_taken (by simp)]
    · have notMalformed : ¬ malformedAtRecord data := by
        intro malformed
        rw [appTlsDecodeClientHello_malformed malformed] at tls
        contradiction
      simp [notMalformed]
    · intro refused
      rw [refused] at tls
      contradiction
  · rw [if_neg tls]
    refine iff_of_true ?_ ?_
    · split_ifs
      · exact (decodeDnsMessageAs_clean (Or.inl rfl) _ data).mono (by simp)
      · exact leavesClean_failed (by decide)
    · intro pending
      rw [appTlsDecodeClientHello_pending pending] at tls
      exact tls rfl

theorem payloadStartsWithTls_of_announces (announces : announcesHandshake data) :
    payloadStartsWithTls data = true := by
  cases data with
  | nil => exact absurd announces.1 (by decide)
  | cons first rest =>
      have firstByte : first = tlsRecordHandshake := announces.2.1
      simp [payloadStartsWithTls, firstByte]

theorem sniffPacket_clean (data : List UInt8) :
    LeavesClean [.http, .tls, .dns, .mdns, .dhcp, .quic] (sniffPacket data) ↔
      ¬ (pendingAtRecord data ∨ malformedAtRecord data) := by
  have announced : pendingAtRecord data ∨ malformedAtRecord data → announcesHandshake data := by
    rintro (pending | malformed)
    · exact pending.1
    · exact malformed.1
  unfold sniffPacket
  simp only
  by_cases http : (payloadStartsWithHttp data &&
      decide ((appHttpDecode data).1 ≠ .noMatch)) = true
  · rw [if_pos http]
    refine iff_of_true ((appHttpDecode_clean data).mono (by simp)) ?_
    intro stops
    simp [announcesHandshake_notHttp (announced stops)] at http
  rw [if_neg http]
  by_cases tls : (payloadStartsWithTls data &&
      decide ((appTlsDecodeClientHello data).1 ≠ .noMatch)) = true
  · rw [if_pos tls]
    simp only [Bool.and_eq_true, decide_eq_true_eq] at tls
    exact appTlsDecodeClientHello_taken (by simp) tls.2
  · rw [if_neg tls]
    refine iff_of_true ?_ ?_
    · split_ifs
      · exact (decodeDnsMessageAs_clean (Or.inl rfl) _ data).mono (by simp)
      · exact leavesClean_failed (by decide)
    · intro stops
      rw [payloadStartsWithTls_of_announces (announced stops), Bool.true_and,
        decide_eq_true_eq, not_not] at tls
      rcases stops with pending | malformed
      · rw [appTlsDecodeClientHello_pending pending] at tls
        contradiction
      · rw [appTlsDecodeClientHello_malformed malformed] at tls
        contradiction

theorem stopsAtRecord_length (stops : stopsAtRecord data) : tlsRecordHeaderLen ≤ data.length := by
  rcases stops with refused | pending | malformed
  · exact refused.1
  · exact pending.1.1
  · exact malformed.1.1

theorem appDecodeBuffer_clean (preferred : AppProtocol) (data : Option (List UInt8)) :
    LeavesClean (DecodeCall.buffer preferred data).protocols (appDecodeBuffer preferred data) ↔
      ¬ (DecodeCall.buffer preferred data).LeavesVersion := by
  cases data with
  | none =>
      refine iff_of_true (leavesClean_failed (by decide)) ?_
      cases preferred <;> exact id
  | some data =>
      by_cases empty : data.length = 0
      · simp only [appDecodeBuffer, if_pos empty]
        refine iff_of_true (leavesClean_failed (by split_ifs <;> decide)) ?_
        have short : ¬ stopsAtRecord data := by
          intro stops
          have long := stopsAtRecord_length stops
          rw [empty] at long
          contradiction
        cases preferred with
        | tls => exact short
        | unknown => exact fun pending => short (Or.inr (Or.inl pending))
        | _ => exact id
      · simp only [appDecodeBuffer, if_neg empty]
        cases preferred with
        | unknown => exact sniffBuffer_clean data
        | http =>
            refine iff_of_true ?_ id
            exact (leavesClean_preferredResult _).mpr (appHttpDecode_clean data)
        | tls =>
            rw [leavesClean_preferredResult]
            exact appTlsDecodeClientHello_clean data
        | dns =>
            refine iff_of_true ?_ id
            exact (leavesClean_preferredResult _).mpr (decodeDnsMessageAs_clean (Or.inl rfl) _ _)
        | mdns =>
            refine iff_of_true ?_ id
            exact (leavesClean_preferredResult _).mpr (decodeDnsMessageAs_clean (Or.inr rfl) _ _)
        | dhcp =>
            refine iff_of_true ?_ id
            exact (leavesClean_preferredResult _).mpr (appDhcpDecodeUdp_clean data)
        | quic =>
            refine iff_of_true ?_ id
            exact (leavesClean_preferredResult _).mpr (appQuicDecodeInitial_clean data)

/-- A packet with a readable payload is decoded as its ports say, or sniffed. -/
theorem appDecodePacket_eq (readable : ¬ (!packet.hasPayload || packet.payload = none ||
      packet.payloadDecodeLength = 0) = true) :
    appDecodePacket packet =
      match hintedDecoder packet with
      | some chosen => preferredResult (chosen.decode packet.decodeWindow) chosen.protocol
      | none => sniffPacket packet.decodeWindow := by
  rw [appDecodePacket, if_neg readable, hintedDecoder]
  split_ifs <;> rfl

theorem appDecodePacket_clean (packet : PacketInfo) :
    LeavesClean (DecodeCall.packet packet).protocols (appDecodePacket packet) ↔
      ¬ (DecodeCall.packet packet).LeavesVersion := by
  by_cases readable : (!packet.hasPayload || decide (packet.payload = none) ||
      decide (packet.payloadDecodeLength = 0)) = true
  · rw [appDecodePacket, if_pos readable]
    refine iff_of_true (leavesClean_failed (by decide)) ?_
    rintro ⟨payload, stops⟩
    -- without a payload pointer or a length the window is empty
    have window : packet.decodeWindow = [] := by
      simp only [payload, Bool.not_true, Bool.false_or, Bool.or_eq_true, decide_eq_true_eq]
        at readable
      rw [PacketInfo.decodeWindow]
      rcases readable with noPointer | noLength
      · rw [PacketInfo.payloadBytes, noPointer]
        exact List.take_nil
      · rw [noLength, List.take_zero]
    have short : ¬ stopsAtRecord packet.decodeWindow := by
      intro stops
      have long := stopsAtRecord_length stops
      rw [window] at long
      contradiction
    split at stops
    · exact short stops.2
    · exact short (Or.inr stops)
  · have hasPayload : packet.hasPayload = true := by
      simp only [Bool.or_eq_true, Bool.not_eq_true', not_or, Bool.not_eq_false] at readable
      exact readable.1.1
    rw [appDecodePacket_eq readable, DecodeCall.LeavesVersion, hasPayload, eq_self, true_and]
    cases hinted : hintedDecoder packet with
    | none => exact sniffPacket_clean _
    | some chosen =>
        simp only
        rw [leavesClean_preferredResult]
        apply chosen.clean_iff
        cases chosen <;> simp [DecodeCall.protocols, AppDecoder.protocol]

theorem appDecodeStream_clean (packet : PacketInfo) (data : Option (List UInt8)) :
    LeavesClean (DecodeCall.stream packet data).protocols (appDecodeStream packet data) ↔
      ¬ (DecodeCall.stream packet data).LeavesVersion := by
  cases data with
  | none => exact iff_of_true (leavesClean_failed (by decide)) id
  | some data =>
      by_cases empty : data.length = 0
      · rw [appDecodeStream, if_pos empty]
        refine iff_of_true (leavesClean_failed (by decide)) ?_
        have short : ¬ stopsAtRecord data := by
          intro stops
          have long := stopsAtRecord_length stops
          rw [empty] at long
          contradiction
        intro stops
        rw [DecodeCall.LeavesVersion] at stops
        split at stops
        · exact short stops.2
        · exact short (Or.inr (Or.inl stops))
      · rw [appDecodeStream, if_neg empty, DecodeCall.LeavesVersion, hintedStreamDecoder]
        split_ifs
        · rw [leavesClean_preferredResult]
          exact AppDecoder.clean_iff .http List.mem_cons_self data
        · rw [leavesClean_preferredResult]
          exact AppDecoder.clean_iff .tls (List.mem_cons_of_mem _ List.mem_cons_self) data
        · rw [leavesClean_preferredResult]
          apply AppDecoder.clean_iff .dnsTcp
          simp [DecodeCall.protocols, AppDecoder.protocol]
        · simp only [appDecodeBuffer, if_neg empty]
          exact sniffBuffer_clean data

/-- Whatever the caller's `AppInfo` held, a call leaves nothing stale in it exactly unless it hands
on the verdict of a TLS decoder that stopped at a record header. -/
theorem decode_leaves_clean_iff (call : DecodeCall) :
    LeavesClean call.protocols call.result ↔ ¬ call.LeavesVersion := by
  cases call with
  | decoder chosen data =>
      cases data with
      | none => exact iff_of_true (leavesClean_failed (by decide)) id
      | some data => exact chosen.clean_iff (List.mem_singleton_self _) data
  | buffer preferred data => exact appDecodeBuffer_clean preferred data
  | packet captured => exact appDecodePacket_clean captured
  | stream captured data => exact appDecodeStream_clean captured data

/-- An alert record of TLS 1.2 is refused, and its version stays. -/
theorem decode_leaves_stale_version :
    ¬ ∀ call : DecodeCall, LeavesClean call.protocols call.result := by
  intro always
  have clean := always (.decoder .tls (some [0x15, 3, 3, 0, 2]))
  rw [leavesClean_failed_iff (by decide +kernel)] at clean
  exact absurd clean (by decide +kernel)

end Dispatch

end MiniSniffer
