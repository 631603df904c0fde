import MiniSniffer.App.ByteReader
import MiniSniffer.Foundation.PatternSearch

/-!
Contract: HTTP/1.x header decoding (`src/app_http.c`).

Owns the start-line signature, CRLF framing, request and status lines, and the
three headers that are kept. The source walks the header block with pointers
`start` and `end`; here a pointer pair is the list of bytes between them.

Does not own which bytes are given to the decoder.
-/

namespace MiniSniffer

open Foundation

def httpMethods : List (List UInt8) :=
  [ascii "GET", ascii "POST", ascii "PUT", ascii "DELETE", ascii "HEAD", ascii "OPTIONS",
    ascii "PATCH", ascii "TRACE", ascii "CONNECT"]

/-! ### Signatures -/

/-- `length >= prefix_length && memcmp(data, prefix, prefix_length) == 0`. -/
def startsWith (data expected : List UInt8) : Bool := expected.isPrefixOf data

/-- A whole method at the front, or so few bytes that they are only the head of one. -/
def maybeHttpRequestPrefix (data : List UInt8) : Bool :=
  httpMethods.any fun method =>
    startsWith data method ||
      (data.length > 0 && data.length < method.length && data.isPrefixOf method)

def looksLikeHttp (data : List UInt8) : Bool :=
  startsWith data (ascii "HTTP/") || maybeHttpRequestPrefix data

/-! ### Framing -/

/-- Offset of the first CRLF. -/
def findCrlf (bytes : List UInt8) : Option Nat := firstMatch [13, 10] bytes

/-- Offset just past the first CRLFCRLF. -/
def findHeaderEnd (bytes : List UInt8) : Option Nat :=
  (firstMatch [13, 10, 13, 10] bytes).map (· + 4)

/-! ### Fields -/

/-- `isspace` in the C locale. -/
def isSpace (byte : UInt8) : Bool := byte == 32 || (9 ≤ byte && byte ≤ 13)

def isDigit (byte : UInt8) : Bool := 48 ≤ byte && byte ≤ 57

/-- `tolower` in the C locale. -/
def toLower (byte : UInt8) : UInt8 := if 65 ≤ byte && byte ≤ 90 then byte + 32 else byte

/-- The text copied to an array of `destinationSize` bytes: trimmed on both sides, then cut. -/
def copyTrimmed (destinationSize : Nat) (bytes : List UInt8) : List UInt8 :=
  let trimmedFront := bytes.dropWhile isSpace
  let trimmed := (trimmedFront.reverse.dropWhile isSpace).reverse
  fitText destinationSize trimmed

def headerNameEquals (bytes name : List UInt8) : Bool :=
  bytes.length == name.length && bytes.map toLower == name.map toLower

/-- `memchr`. -/
def memchr (bytes : List UInt8) (wanted : UInt8) : Option Nat := bytes.findIdx? (· == wanted)

/-! ### Start lines -/

/-- `METHOD SP path SP HTTP/version`; `none` when the line has another shape. -/
def parseRequestLine (line : List UInt8) (out : AppInfo) : Option AppInfo :=
  match memchr line 32 with
  | none => none
  | some methodEnd =>
      if methodEnd = 0 then none
      else
        let afterMethod := line.drop (methodEnd + 1)
        match memchr afterMethod 32 with
        | none => none
        | some pathEnd =>
            if pathEnd = 0 then none
            else
              let version := afterMethod.drop (pathEnd + 1)
              if version.length < 8 || !startsWith version (ascii "HTTP/") then none
              else
                let method := copyTrimmed 16 (line.take methodEnd)
                let path := copyTrimmed minisnifferAppTextLen (afterMethod.take pathEnd)
                some { out with
                  httpMethod := method
                  httpPath := path
                  httpVersion := copyTrimmed 16 version
                  summary := fitText minisnifferAppSummaryLen
                    (ascii "HTTP request " ++ cString method ++ ascii " " ++ cString path) }

/-- `HTTP/version SP ddd [SP reason]`; `none` when the line has another shape. -/
def parseStatusLine (line : List UInt8) (out : AppInfo) : Option AppInfo :=
  if line.length < 12 || !startsWith line (ascii "HTTP/") then none
  else
    match memchr line 32 with
    | none => none
    | some space =>
        if line.length - space < 4 then none
        else
          let status := line.drop (space + 1)
          if !isDigit (byteAt status 0) || !isDigit (byteAt status 1) ||
              !isDigit (byteAt status 2) then none
          else
            let code := ((byteAt status 0).toNat - 48) * 100 + ((byteAt status 1).toNat - 48) * 10 +
              ((byteAt status 2).toNat - 48)
            let versioned :=
              { out with
                httpVersion := copyTrimmed 16 (line.take space)
                httpStatusCode := UInt16.ofNat code }
            let reason := status.drop 3
            let withReason :=
              if reason.head? = some 32 then
                { versioned with
                  httpReason := copyTrimmed minisnifferAppTextLen (reason.drop 1) }
              else versioned
            some { withReason with
              summary := fitText minisnifferAppSummaryLen
                (ascii "HTTP response " ++ decimalText code) }

/-! ### Headers -/

/-- One header line: kept when its name is one of the three the product reads. -/
def parseHeader (line : List UInt8) (out : AppInfo) : AppInfo :=
  match memchr line 58 with
  | none => out
  | some colon =>
      let name := line.take colon
      let value := line.drop (colon + 1)
      if headerNameEquals name (ascii "Host") then
        { out with httpHost := copyTrimmed minisnifferAppTextLen value }
      else if headerNameEquals name (ascii "User-Agent") then
        { out with httpUserAgent := copyTrimmed minisnifferAppTextLen value }
      else if headerNameEquals name (ascii "Content-Type") then
        { out with httpContentType := copyTrimmed minisnifferAppTextLen value }
      else out

/-- Stops at the blank line. Every pass drops a line and its CRLF, so as many passes as there are
bytes suffice. -/
def parseHeadersLoop : Nat → List UInt8 → AppInfo → AppInfo
  | 0, _, out => out
  | passes + 1, bytes, out =>
      match findCrlf bytes with
      | none => out
      | some lineEnd =>
          if lineEnd = 0 then out
          else
            parseHeadersLoop passes (bytes.drop (lineEnd + 2))
              (parseHeader (bytes.take lineEnd) out)

def parseHeaders (bytes : List UInt8) (out : AppInfo) : AppInfo :=
  parseHeadersLoop bytes.length bytes out

/-! ### The decoder -/

/-- `block` is the header block up to and including its blank line. -/
def decodeHttpBlock (block : List UInt8) : AppDecodeResult × AppInfo :=
  match findCrlf block with
  | none => (.malformed, {})
  | some lineEnd =>
      let line := block.take lineEnd
      let out : AppInfo := { protocol := .http }
      let parsed :=
        if startsWith line (ascii "HTTP/") then parseStatusLine line out
        else parseRequestLine line out
      match parsed with
      | none => (.malformed, {})
      | some filled => (.ok, parseHeaders (block.drop (lineEnd + 2)) filled)

def appHttpDecode (data : List UInt8) : AppDecodeResult × AppInfo :=
  if data.length = 0 then (.noMatch, {})
  else if !looksLikeHttp data then (.noMatch, {})
  else
    match findHeaderEnd data with
    | none => (.needMore, {})
    | some headerEnd => decodeHttpBlock (data.take headerEnd)

end MiniSniffer
