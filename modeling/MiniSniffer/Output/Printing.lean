import MiniSniffer.Common
import MiniSniffer.Foundation.Digits
import MiniSniffer.Foundation.Separated

/-!
Contract: what every writer of packets shares.

Owns packets with the number and the time text that only printing reads, the texts of enumerations,
which application source is reported, and the hexadecimal payload preview.

Does not own the layout of any output line.
-/

namespace MiniSniffer

open Foundation

structure StampedPacket extends PacketInfo where
  packetNumber : UInt32 := 0
  timestamp : List UInt8 := []
deriving DecidableEq, Repr

def protocolToString : Protocol → List UInt8
  | .tcp => ascii "TCP"
  | .udp => ascii "UDP"
  | .icmp => ascii "ICMP"
  | .arp => ascii "ARP"
  | .other => ascii "OTHER"

/-- The writers differ in what they call an undecoded payload. -/
def appProtocolText (unknownText : List UInt8) : AppProtocol → List UInt8
  | .unknown => unknownText
  | .http => ascii "http"
  | .dns => ascii "dns"
  | .tls => ascii "tls"
  | .dhcp => ascii "dhcp"
  | .mdns => ascii "mdns"
  | .quic => ascii "quic"

def arpOperationText (operation : UInt16) : List UInt8 :=
  if operation = 1 then ascii "request" else if operation = 2 then ascii "reply" else ascii "other"

/-- `normalized_app_source` and its copy for JSON lines; `none` is a null pointer. -/
def normalizedAppSource (app : Option AppInfo) (appSource : Option (List UInt8)) : List UInt8 :=
  match app with
  | none => ascii "none"
  | some decoded =>
      if decoded.protocol = .unknown then ascii "none"
      else
        match appSource with
        | none => ascii "none"
        | some source =>
            if source = ascii "packet" || source = ascii "flow" then source else ascii "none"

/-- Two digits a byte, with blanks between. -/
def payloadHex (preview : List UInt8) : List UInt8 :=
  (ascii " ").intercalate (preview.map fun byte => hexText 2 byte.toNat)

/-- `inet_ntop` on IPv4 addresses. -/
def dottedDecimal : IpText → List UInt8
  | .ipv4 bytes => (ascii ".").intercalate (bytes.map fun byte => decimalText byte.toNat)
  | _ => []

theorem payloadHex_digitOrBlank {preview : List UInt8} :
    ∀ byte ∈ payloadHex preview, lowerHexDigit byte = true ∨ byte = 32 := by
  refine forall_mem_intercalate (fun byte member => .inr (List.mem_singleton.mp member)) ?_
  intro piece member byte inside
  obtain ⟨shown, -, rfl⟩ := List.mem_map.mp member
  exact .inl (lowerHexDigit_of_mem_hexText inside)

theorem normalizedAppSource_cases (app : Option AppInfo) (appSource : Option (List UInt8)) :
    normalizedAppSource app appSource = ascii "none" ∨
      normalizedAppSource app appSource = ascii "packet" ∨
        normalizedAppSource app appSource = ascii "flow" := by
  unfold normalizedAppSource
  split
  · exact .inl rfl
  · split_ifs
    · exact .inl rfl
    · split
      · exact .inl rfl
      · split_ifs with known
        · rw [Bool.or_eq_true, decide_eq_true_eq, decide_eq_true_eq] at known
          exact .inr known
        · exact .inl rfl

end MiniSniffer
