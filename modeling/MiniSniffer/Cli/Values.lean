import MiniSniffer.App.Http
import MiniSniffer.Config
import MiniSniffer.Foundation.NumberText

/-!
Contract: the values of command-line options (`src/cli.c`).

Owns the parsers of option values as the source computes them, in the C locale, with `long` and
`size_t` of 64 bits. A text is the bytes in front of its terminator, and `none` is a refusal.

The address conversions of the socket library are parameters. Null pointers are no values of the
model.
-/

namespace MiniSniffer

open Foundation

/-- The locale of a program that sets none. -/
def cLocale : TextLocale where
  isSpace := isSpace
  noPlus := by decide
  noMinus := by decide
  noDigit := forall_byte (by decide +kernel)

def intMax : Nat := 2147483647

def sizeMax : Nat := 2 ^ 64 - 1

def uint32Max : Nat := 2 ^ 32 - 1

/-! ### Numbers -/

def parsePositiveInt (text : List UInt8) : Option Nat :=
  if text = [] then none
  else
    let parsed := strtol cLocale text .ten
    if parsed.rangeError = true ∨ parsed.consumed = 0 ∨ text.drop parsed.consumed ≠ [] ∨
        parsed.value ≤ 0 ∨ parsed.value > intMax then none
    else some parsed.value.toNat

def parsePositiveSize (text : List UInt8) : Option Nat :=
  if text = [] ∨ text.head? = some 45 then none
  else
    let parsed := strtoull cLocale text .ten
    if parsed.rangeError = true ∨ parsed.consumed = 0 ∨ text.drop parsed.consumed ≠ [] ∨
        parsed.value = 0 ∨ parsed.value > sizeMax then none
    else some parsed.value

def parsePositiveUint32 (text : List UInt8) : Option UInt32 :=
  match parsePositiveSize text with
  | none => none
  | some parsed => if parsed > uint32Max then none else some (UInt32.ofNat parsed)

def parseQuicVersion (text : List UInt8) : Option UInt32 :=
  if text = [] then none
  else
    let parsed := strtoul cLocale text .detected
    if parsed.rangeError = true ∨ parsed.consumed = 0 ∨ text.drop parsed.consumed ≠ [] ∨
        parsed.value > uint32Max then none
    else some (UInt32.ofNat parsed.value)

/-! ### Texts -/

/-- `none` when the text and its terminator do not fit. -/
def copyArg (destinationSize : Nat) (value : List UInt8) : Option (List UInt8) :=
  if destinationSize = 0 ∨ value.length ≥ destinationSize then none else some value

/-- The conversions of `inet_pton` for the two families, to the bytes of an address. -/
structure InetPton where
  ipv4 : List UInt8 → Option (List UInt8)
  ipv6 : List UInt8 → Option (List UInt8)

/-- The text that `inet_ntop` prints is kept as its address. -/
def parseIpHost (inetPton : InetPton) (text : List UInt8) : Option IpText :=
  match inetPton.ipv4 text with
  | some address => some (.ipv4 address)
  | none =>
      match inetPton.ipv6 text with
      | some address => some (.ipv6 address)
      | none => none

/-! ### Names -/

inductive LogFlushMode where
  | always
  | line
  | exit
deriving DecidableEq, Repr

/-- A chain of `strcmp` tests: the value of the first name that is the text. -/
def named {Value : Type} (names : List (List UInt8 × Value)) (text : List UInt8) : Option Value :=
  names.lookup text

/-- `src/common.c` -/
def protocolFromString : List UInt8 → Option Protocol :=
  named [(ascii "tcp", .tcp), (ascii "udp", .udp), (ascii "icmp", .icmp), (ascii "arp", .arp),
    (ascii "other", .other)]

def parseLogFlushMode : List UInt8 → Option LogFlushMode :=
  named [(ascii "always", .always), (ascii "line", .line), (ascii "exit", .exit)]

def parseAppProtocol : List UInt8 → Option AppProtocol :=
  named [(ascii "http", .http), (ascii "dns", .dns), (ascii "tls", .tls), (ascii "dhcp", .dhcp),
    (ascii "mdns", .mdns), (ascii "quic", .quic)]

/-- A name, or else a number up to `largest`. -/
def parseNamedNumber (names : List (List UInt8 × Nat)) (largest : Nat) (text : List UInt8) :
    Option Nat :=
  match named names text with
  | some type => some type
  | none =>
      match parsePositiveInt text with
      | none => none
      | some numericType => if numericType > largest then none else some numericType

def parseDhcpType (text : List UInt8) : Option UInt8 :=
  (parseNamedNumber [(ascii "discover", 1), (ascii "offer", 2), (ascii "request", 3),
    (ascii "decline", 4), (ascii "ack", 5), (ascii "nak", 6), (ascii "release", 7),
    (ascii "inform", 8)] 255 text).map UInt8.ofNat

def parseDnsType (text : List UInt8) : Option UInt16 :=
  (parseNamedNumber [(ascii "A", 1), (ascii "a", 1), (ascii "NS", 2), (ascii "ns", 2),
    (ascii "CNAME", 5), (ascii "cname", 5), (ascii "AAAA", 28), (ascii "aaaa", 28)] 65535
    text).map UInt16.ofNat

/-- The three returns of `parse_domain_match_mode`. -/
inductive DomainMatchParse where
  | parsed (mode : DomainMatchMode)
  | unknown
  | unavailable
deriving DecidableEq, Repr

/-- `idna` needs a build with `MINISNIFFER_WITH_LIBIDN2`. -/
def parseDomainMatchMode (withLibidn2 : Bool) (text : List UInt8) : DomainMatchParse :=
  if text = ascii "normalized" then .parsed .normalized
  else if text = ascii "exact" then .parsed .exact
  else if text = ascii "idna" then if withLibidn2 then .parsed .idna else .unavailable
  else .unknown

/-! ### Payload bytes -/

def minisnifferMaxPayloadPatternBytes : Nat := 128

def hexValue (value : UInt8) : Option Nat :=
  if 48 ≤ value && value ≤ 57 then some (value.toNat - 48)
  else if 97 ≤ value && value ≤ 102 then some (value.toNat - 97 + 10)
  else if 65 ≤ value && value ≤ 70 then some (value.toNat - 65 + 10)
  else none

def isSeparator (byte : UInt8) : Bool := isSpace byte || byte == 58 || byte == 45

/-- The loop of `parse_payload_hex_pattern`: the first digit of a byte waits for its second one,
also across separators. -/
def parsePayloadHexLoop : List UInt8 → Option Nat → List UInt8 → Option (List UInt8)
  | [], highNibble, bytes => if highNibble.isSome ∨ bytes.length = 0 then none else some bytes
  | byte :: text, highNibble, bytes =>
      if isSeparator byte then parsePayloadHexLoop text highNibble bytes
      else
        match hexValue byte with
        | none => none
        | some value =>
            match highNibble with
            | none => parsePayloadHexLoop text (some value) bytes
            | some high =>
                if bytes.length ≥ minisnifferMaxPayloadPatternBytes then none
                else
                  parsePayloadHexLoop text none
                    (bytes ++ [UInt8.ofNat ((high <<< 4) ||| value)])

def parsePayloadHexPattern (text : List UInt8) : Option (List UInt8) :=
  if text = [] then none else parsePayloadHexLoop text none []

end MiniSniffer
