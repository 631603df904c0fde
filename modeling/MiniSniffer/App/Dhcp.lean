import MiniSniffer.App.ByteReader

/-!
Contract: DHCP decoding over UDP 67/68 (`src/app_dhcp.c`).

Owns the BOOTP fixed header, the magic cookie and the option walk.
-/

namespace MiniSniffer

open Foundation

def bootpFixedHeaderLen : Nat := 236

def dhcpMagicCookie : List UInt8 := [0x63, 0x82, 0x53, 0x63]

def dhcpMinMessageLen : Nat := 240

def bootpCiaddrOffset : Nat := 12

def bootpYiaddrOffset : Nat := 16

def bootpSiaddrOffset : Nat := 20

def bootpChaddrOffset : Nat := 28

def dhcpOptionPad : UInt8 := 0

def dhcpOptionEnd : UInt8 := 255

def dhcpOptionRequestedIp : UInt8 := 50

def dhcpOptionMessageType : UInt8 := 53

def dhcpMessageTypeName (type : UInt8) : List UInt8 :=
  match type.toNat with
  | 1 => ascii "discover"
  | 2 => ascii "offer"
  | 3 => ascii "request"
  | 4 => ascii "decline"
  | 5 => ascii "ack"
  | 6 => ascii "nak"
  | 7 => ascii "release"
  | 8 => ascii "inform"
  | _ => ascii "unknown"

/-- `inet_ntop(AF_INET, data + offset)`. -/
def ipv4TextAt (data : List UInt8) (offset : Nat) : IpText := .ipv4 ((data.drop offset).take 4)

/-- `"%02x:%02x:%02x:%02x:%02x:%02x"` of six bytes. -/
def macText (bytes : List UInt8) : List UInt8 :=
  hexText 2 (byteAt bytes 0).toNat ++ ascii ":" ++ hexText 2 (byteAt bytes 1).toNat ++
    ascii ":" ++ hexText 2 (byteAt bytes 2).toNat ++ ascii ":" ++
    hexText 2 (byteAt bytes 3).toNat ++ ascii ":" ++ hexText 2 (byteAt bytes 4).toNat ++
    ascii ":" ++ hexText 2 (byteAt bytes 5).toNat

/-- The two options that are kept. -/
def keepDhcpOption (tag : UInt8) (value : List UInt8) (out : AppInfo) : AppInfo :=
  if tag = dhcpOptionMessageType && value.length = 1 then
    { out with dhcpMessageType := byteAt value 0 }
  else if tag = dhcpOptionRequestedIp && value.length = 4 then
    { out with dhcpRequestedIp := .ipv4 value }
  else out

/-- An option cut short ends the walk. Every pass moves forward. -/
def scanDhcpOptionsLoop (data : List UInt8) : Nat → Nat → AppInfo → AppInfo
  | 0, _, out => out
  | passes + 1, offset, out =>
      if offset < data.length then
        let tag := byteAt data offset
        if tag = dhcpOptionEnd then out
        else if tag = dhcpOptionPad then scanDhcpOptionsLoop data passes (offset + 1) out
        else if offset + 1 ≥ data.length then out
        else
          let optionLength := (byteAt data (offset + 1)).toNat
          if offset + 2 + optionLength > data.length then out
          else
            let value := (data.drop (offset + 2)).take optionLength
            scanDhcpOptionsLoop data passes (offset + 2 + optionLength)
              (keepDhcpOption tag value out)
      else out

def scanDhcpOptions (data : List UInt8) (out : AppInfo) : AppInfo :=
  scanDhcpOptionsLoop data data.length dhcpMinMessageLen out

/-- Operation, hardware type and length, and transaction id. -/
def readBootpHeader (data : List UInt8) : Option (UInt8 × UInt8 × UInt8 × UInt32) := do
  let (op, reader) ← brReadU8 (brInit data)
  let (htype, reader) ← brReadU8 reader
  let (hlen, reader) ← brReadU8 reader
  let reader ← brSkip reader 1
  let (transactionId, _) ← brReadU32Be reader
  pure (op, htype, hlen, transactionId)

def appDhcpDecodeUdp (data : List UInt8) : AppDecodeResult × AppInfo :=
  if data.length = 0 then (.noMatch, {})
  else if data.length < dhcpMinMessageLen then (.needMore, {})
  else if (data.drop bootpFixedHeaderLen).take 4 ≠ dhcpMagicCookie then (.noMatch, {})
  else
    match readBootpHeader data with
    | none => (.needMore, {})
    | some (op, htype, hlen, transactionId) =>
        if op ≠ 1 && op ≠ 2 then (.noMatch, {})
        else
          let out : AppInfo :=
            { protocol := .dhcp
              dhcpTransactionId := transactionId
              dhcpClientIp := ipv4TextAt data bootpCiaddrOffset
              dhcpYourIp := ipv4TextAt data bootpYiaddrOffset
              dhcpServerIp := ipv4TextAt data bootpSiaddrOffset
              dhcpClientMac :=
                if htype = 1 && hlen = 6 then macText (data.drop bootpChaddrOffset) else [] }
          let scanned := scanDhcpOptions data out
          (.ok, { scanned with
            summary := fitText minisnifferAppSummaryLen
              (ascii "DHCP " ++ dhcpMessageTypeName scanned.dhcpMessageType ++ ascii " xid=0x" ++
                hexText 8 scanned.dhcpTransactionId.toNat) })

end MiniSniffer
