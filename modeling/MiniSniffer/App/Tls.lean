import MiniSniffer.App.ByteReader

/-!
Contract: TLS ClientHello decoding (`src/app_tls.c`).

Owns the record and handshake headers, the ClientHello vectors, and the two
extensions whose content is kept. A vector handed on as a pointer and a length
is the list of its bytes; offsets inside it stay explicit.

Does not own records other than handshakes.
-/

namespace MiniSniffer

open Foundation

def tlsRecordHandshake : UInt8 := 0x16

def tlsHandshakeClientHello : UInt8 := 0x01

def tlsRecordHeaderLen : Nat := 5

def tlsHandshakeHeaderLen : Nat := 4

def tlsExtServerName : UInt16 := 0x0000

def tlsExtAlpn : UInt16 := 0x0010

/-- `copy_text`: raw bytes, cut to the array. -/
def copyText (destinationSize : Nat) (bytes : List UInt8) : List UInt8 :=
  fitText destinationSize bytes

/-! ### Server name -/

/-- The first host name is kept; an entry that starts with NUL still reads as empty. Every pass
moves past at least three bytes. -/
def parseSniNames (data : List UInt8) (listEnd : Nat) : Nat → Nat → AppInfo → Option AppInfo
  | 0, _, _ => none
  | passes + 1, offset, out =>
      if offset < listEnd then
        match readU8At data listEnd offset with
        | none => none
        | some (nameType, afterType) =>
            match readU16At data listEnd afterType with
            | none => none
            | some (nameLength, start) =>
                if nameLength = 0 || nameLength.toNat > listEnd - start then none
                else
                  let name := (data.drop start).take nameLength.toNat
                  let kept :=
                    if nameType = 0 && cString out.tlsSni = [] then
                      { out with tlsSni := copyText minisnifferAppTextLen name }
                    else out
                  parseSniNames data listEnd passes (start + nameLength.toNat) kept
      else if offset = listEnd then some out
      else none

def parseSniExtension (data : List UInt8) (out : AppInfo) : Option AppInfo :=
  match readU16At data data.length 0 with
  | none => none
  | some (listLength, offset) =>
      if listLength.toNat ≠ data.length - offset then none
      else parseSniNames data (offset + listLength.toNat) (data.length + 1) offset out

/-! ### Application protocols -/

/-- `none` when not even the separating comma fits. The new text starts where a reader of the old
one stops. -/
def appendAlpn (destination : List UInt8) (destinationSize : Nat) (bytes : List UInt8) :
    Option (List UInt8) :=
  let current := cString destination
  if current.length ≠ 0 then
    if current.length + 1 ≥ destinationSize then none
    else
      let separated := current ++ ascii ","
      some (separated ++ bytes.take (destinationSize - separated.length - 1))
  else some (bytes.take (destinationSize - 1))

/-- Every pass moves past at least two bytes. -/
def parseAlpnProtocols (data : List UInt8) (listEnd : Nat) : Nat → Nat → AppInfo → Option AppInfo
  | 0, _, _ => none
  | passes + 1, offset, out =>
      if offset < listEnd then
        match readU8At data listEnd offset with
        | none => none
        | some (protocolLength, start) =>
            if protocolLength = 0 || protocolLength.toNat > listEnd - start then none
            else
              let name := (data.drop start).take protocolLength.toNat
              match appendAlpn out.tlsAlpn minisnifferTlsAlpnLen name with
              | none => none
              | some alpn =>
                  parseAlpnProtocols data listEnd passes (start + protocolLength.toNat)
                    { out with tlsAlpn := alpn }
      else if offset = listEnd then some out
      else none

def parseAlpnExtension (data : List UInt8) (out : AppInfo) : Option AppInfo :=
  match readU16At data data.length 0 with
  | none => none
  | some (listLength, offset) =>
      if listLength.toNat ≠ data.length - offset then none
      else parseAlpnProtocols data (offset + listLength.toNat) (data.length + 1) offset out

/-! ### Extensions -/

/-- One extension; types that are not kept are skipped. -/
def parseExtension (extensionType : UInt16) (extensionData : List UInt8) (out : AppInfo) :
    Option AppInfo :=
  if extensionType = tlsExtServerName then parseSniExtension extensionData out
  else if extensionType = tlsExtAlpn then parseAlpnExtension extensionData out
  else some out

/-- Every pass moves past at least four bytes. -/
def parseExtensionList (data : List UInt8) (extensionsEnd : Nat) :
    Nat → Nat → AppInfo → Option AppInfo
  | 0, _, _ => none
  | passes + 1, offset, out =>
      if offset < extensionsEnd then
        match readU16At data extensionsEnd offset with
        | none => none
        | some (extensionType, afterType) =>
            match readU16At data extensionsEnd afterType with
            | none => none
            | some (extensionLength, start) =>
                if extensionLength.toNat > extensionsEnd - start then none
                else
                  let extensionData := (data.drop start).take extensionLength.toNat
                  match parseExtension extensionType extensionData out with
                  | none => none
                  | some kept =>
                      parseExtensionList data extensionsEnd passes
                        (start + extensionLength.toNat) kept
      else if offset = extensionsEnd then some out
      else none

/-- A ClientHello without extensions ends right after its compression methods. -/
def parseExtensions (data : List UInt8) (offset : Nat) (out : AppInfo) : Option AppInfo :=
  if offset = data.length then some out
  else
    match readU16At data data.length offset with
    | none => none
    | some (extensionsLength, start) =>
        if extensionsLength.toNat > data.length - start then none
        else parseExtensionList data (start + extensionsLength.toNat) (data.length + 1) start out

/-! ### ClientHello -/

/-- A vector with a one-byte length: the offset past it. -/
def skipVector8 (data : List UInt8) (offset : Nat) : Option (UInt8 × Nat) :=
  match readU8At data data.length offset with
  | none => none
  | some (vectorLength, start) =>
      if !remaining data.length start vectorLength.toNat then none
      else some (vectorLength, start + vectorLength.toNat)

/-- The offset of the extensions and the client version; `none` when a vector is cut short or
empty where it may not be. -/
def clientHelloVectors (data : List UInt8) : Option (UInt16 × Nat) :=
  match readU16At data data.length 0 with
  | none => none
  | some (clientVersion, random) =>
      if !remaining data.length random 32 then none
      else
        match skipVector8 data (random + 32) with
        | none => none
        | some (_, cipherSuites) =>
            match readU16At data data.length cipherSuites with
            | none => none
            | some (vectorLength, start) =>
                if vectorLength = 0 || vectorLength % 2 ≠ 0 ||
                    !remaining data.length start vectorLength.toNat then none
                else
                  match skipVector8 data (start + vectorLength.toNat) with
                  | none => none
                  | some (methodsLength, extensions) =>
                      if methodsLength = 0 then none else some (clientVersion, extensions)

/-- A malformed body leaves nothing in `out`: its caller clears it. -/
def parseClientHelloBody (data : List UInt8) (out : AppInfo) : AppDecodeResult × AppInfo :=
  match clientHelloVectors data with
  | none => (.malformed, {})
  | some (clientVersion, offset) =>
      match parseExtensions data offset { out with tlsClientVersion := clientVersion } with
      | none => (.malformed, {})
      | some filled =>
          (.ok, { filled with
            summary := fitText minisnifferAppSummaryLen
              (ascii "TLS ClientHello sni=" ++ cString filled.tlsSni ++ ascii " alpn=" ++
                cString filled.tlsAlpn) })

/-! ### The decoder -/

/-- The record header: content type, version and length. -/
def readRecordHeader (data : List UInt8) : Option (UInt8 × UInt16 × UInt16) :=
  match brReadU8 (brInit data) with
  | none => none
  | some (contentType, afterType) =>
      match brReadU16Be afterType with
      | none => none
      | some (version, afterVersion) =>
          match brReadU16Be afterVersion with
          | none => none
          | some (recordLength, _) => some (contentType, version, recordLength)

/-- A complete handshake record: its own header, then the ClientHello body. -/
def decodeHandshake (data : List UInt8) (recordVersion recordLength : UInt16) :
    AppDecodeResult × AppInfo :=
  match readU8At data data.length tlsRecordHeaderLen with
  | none => (.needMore, {})
  | some (handshakeType, afterType) =>
      match readU24At data data.length afterType with
      | none => (.needMore, {})
      | some (handshakeLength, offset) =>
          if handshakeType ≠ tlsHandshakeClientHello then (.noMatch, {})
          else if handshakeLength > recordLength.toNat - tlsHandshakeHeaderLen then (.needMore, {})
          else
            parseClientHelloBody ((data.drop offset).take handshakeLength)
              { protocol := .tls, tlsRecordVersion := recordVersion,
                tlsHandshakeType := handshakeType }

/-- Verdicts reached before the handshake is read leave the record version behind. -/
def appTlsDecodeClientHello (data : List UInt8) : AppDecodeResult × AppInfo :=
  if data.length = 0 then (.noMatch, {})
  else if data.length < tlsRecordHeaderLen then
    (if byteAt data 0 = tlsRecordHandshake then .needMore else .noMatch, {})
  else
    match readRecordHeader data with
    | none => (.needMore, {})
    | some (contentType, version, recordLength) =>
        let out : AppInfo := { tlsRecordVersion := version }
        if contentType ≠ tlsRecordHandshake || version >>> 8 ≠ 0x03 then (.noMatch, out)
        else if data.length < tlsRecordHeaderLen + recordLength.toNat then (.needMore, out)
        else if recordLength.toNat < tlsHandshakeHeaderLen then (.malformed, out)
        else decodeHandshake data version recordLength

end MiniSniffer
