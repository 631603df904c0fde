import MiniSniffer.App.Dhcp
import MiniSniffer.App.Dns
import MiniSniffer.App.Http
import MiniSniffer.App.Quic
import MiniSniffer.App.Tls

/-!
Contract: choosing a decoder (`src/app_decoder.c`).

Owns the port hints, the sniffing order of unhinted bytes, and the status that a
verdict is reported as. Every entry point starts from a cleared `AppInfo`.
-/

namespace MiniSniffer

open Foundation

def httpPort : UInt16 := 80

def httpAltPort : UInt16 := 8080

def httpDevPort : UInt16 := 8000

def dnsPort : UInt16 := 53

def tlsPort : UInt16 := 443

def tlsAltPort : UInt16 := 8443

def dhcpServerPort : UInt16 := 67

def dhcpClientPort : UInt16 := 68

def mdnsPort : UInt16 := 5353

def quicPort : UInt16 := 443

def quicAltPort : UInt16 := 8443

def portMatches (packet : PacketInfo) (port : UInt16) : Bool :=
  packet.hasPorts && (packet.srcPort == port || packet.dstPort == port)

def hintsHttp (packet : PacketInfo) : Bool :=
  packet.protocol = .tcp &&
    (portMatches packet httpPort || portMatches packet httpAltPort ||
      portMatches packet httpDevPort)

def hintsTls (packet : PacketInfo) : Bool :=
  packet.protocol = .tcp && (portMatches packet tlsPort || portMatches packet tlsAltPort)

def hintsDnsTcp (packet : PacketInfo) : Bool :=
  packet.protocol = .tcp && portMatches packet dnsPort

/-! ### Signatures -/

def httpPrefixes : List (List UInt8) :=
  [ascii "GET ", ascii "POST ", ascii "PUT ", ascii "DELETE ", ascii "HEAD ", ascii "OPTIONS ",
    ascii "PATCH ", ascii "TRACE ", ascii "CONNECT ", ascii "HTTP/"]

def payloadStartsWithHttp (data : List UInt8) : Bool := httpPrefixes.any (startsWith data)

def payloadStartsWithTls (data : List UInt8) : Bool := data.head? = some tlsRecordHandshake

/-- A DNS question with a name. -/
def dnsDecodeResultIsStrongMatch (decoded : AppDecodeResult × AppInfo) : Bool :=
  decoded.1 = .ok && decoded.2.protocol = .dns && decoded.2.dnsQuestionCount > 0 &&
    cString decoded.2.dnsQueryName ≠ []

/-- With a protocol preferred, a payload of another shape is malformed. -/
def preferredResult (decoded : AppDecodeResult × AppInfo) (preferred : AppProtocol) :
    AppDecodeResult × AppInfo :=
  if decoded.1 = .noMatch && preferred ≠ .unknown then (.malformed, decoded.2) else decoded

/-! ### Buffers -/

/-- The conservative sniffing order of unhinted bytes: HTTP, TLS, then a strong DNS question. -/
def sniffBuffer (data : List UInt8) : AppDecodeResult × AppInfo :=
  let http := appHttpDecode data
  if http.1 = .ok || http.1 = .needMore then http
  else
    let tls := appTlsDecodeClientHello data
    if tls.1 = .ok || tls.1 = .needMore then tls
    else
      let dns := appDnsDecodeMessage data
      if dnsDecodeResultIsStrongMatch dns then dns else (.noMatch, {})

def appDecodeBuffer (preferred : AppProtocol) (data : Option (List UInt8)) :
    AppDecodeResult × AppInfo :=
  match data with
  | none => (.noMatch, {})
  | some data =>
      if data.length = 0 then (if preferred = .unknown then .noMatch else .needMore, {})
      else
        match preferred with
        | .http => preferredResult (appHttpDecode data) preferred
        | .tls => preferredResult (appTlsDecodeClientHello data) preferred
        | .dns => preferredResult (appDnsDecodeMessage data) preferred
        | .mdns => preferredResult (appDnsDecodeMdnsMessage data) preferred
        | .dhcp => preferredResult (appDhcpDecodeUdp data) preferred
        | .quic => preferredResult (appQuicDecodeInitial data) preferred
        | .unknown => sniffBuffer data

/-! ### Packets -/

/-- The end of `app_decode_packet`: signatures of unhinted payloads. -/
def sniffPacket (data : List UInt8) : AppDecodeResult × AppInfo :=
  let http := appHttpDecode data
  if payloadStartsWithHttp data && http.1 ≠ .noMatch then http
  else
    let tls := appTlsDecodeClientHello data
    if payloadStartsWithTls data && tls.1 ≠ .noMatch then tls
    else
      let dns := appDnsDecodeMessage data
      if dnsDecodeResultIsStrongMatch dns then dns else (.noMatch, {})

def appDecodePacket (packet : PacketInfo) : AppDecodeResult × AppInfo :=
  let data := packet.decodeWindow
  if !packet.hasPayload || packet.payload = none || packet.payloadDecodeLength = 0 then
    (.noMatch, {})
  else if hintsHttp packet then preferredResult (appHttpDecode data) .http
  else if hintsTls packet then preferredResult (appTlsDecodeClientHello data) .tls
  else if packet.protocol = .udp && portMatches packet dnsPort then
    preferredResult (appDnsDecodeUdp data) .dns
  else if hintsDnsTcp packet then preferredResult (appDnsDecodeTcpFrame data) .dns
  else if packet.protocol = .udp && portMatches packet mdnsPort then
    preferredResult (appDnsDecodeMdnsUdp data) .mdns
  else if packet.protocol = .udp &&
      (portMatches packet dhcpServerPort || portMatches packet dhcpClientPort) then
    preferredResult (appDhcpDecodeUdp data) .dhcp
  else if packet.protocol = .udp &&
      (portMatches packet quicPort || portMatches packet quicAltPort) then
    preferredResult (appQuicDecodeInitial data) .quic
  else sniffPacket data

/-! ### Streams -/

/-- `data` is `NULL`, that is `none`, while the stream holds nothing. -/
def appDecodeStream (packet : PacketInfo) (data : Option (List UInt8)) :
    AppDecodeResult × AppInfo :=
  match data with
  | none => (.noMatch, {})
  | some bytes =>
      if bytes.length = 0 then (.noMatch, {})
      else if hintsHttp packet then preferredResult (appHttpDecode bytes) .http
      else if hintsTls packet then preferredResult (appTlsDecodeClientHello bytes) .tls
      else if hintsDnsTcp packet then preferredResult (appDnsDecodeTcpFrame bytes) .dns
      else appDecodeBuffer .unknown data

/-- Decoded metadata that classifies a flow. -/
def Recognised (decoded : AppDecodeResult × AppInfo) : Prop :=
  decoded.1 = .ok ∧ decoded.2.protocol ≠ .unknown

instance (decoded : AppDecodeResult × AppInfo) : Decidable (Recognised decoded) :=
  inferInstanceAs (Decidable (_ ∧ _))

/-- `NULL` arguments are not values of the model. -/
def appDecodeStatusFromResult (result : AppDecodeResult) (packet : PacketInfo) (app : AppInfo) :
    AppDecodeStatus :=
  if result = .ok && app.protocol ≠ .unknown then .decoded
  else if result = .needMore then
    if packet.hasPayload && packet.payloadCaptureLength > packet.payloadDecodeLength then .truncated
    else .needMore
  else if result = .malformed then .malformed
  else .noMatch

end MiniSniffer
