import MiniSniffer.App.ByteReader

/-!
Contract: the visible header of QUIC Initial packets (`src/app_quic.c`).

Owns the first byte, the version and the two connection ids.
-/

namespace MiniSniffer

open Foundation

def quicHeaderFormLongMask : UInt8 := 0xc0

def quicHeaderFormLongValue : UInt8 := 0xc0

def quicLongPacketTypeMask : UInt8 := 0x30

def quicLongPacketTypeInitial : UInt8 := 0x00

/-- Stops before a byte whose two digits would not leave room for the terminator. -/
def formatHex (outSize : Nat) (bytes : List UInt8) : List UInt8 :=
  bytes.foldl
    (fun text byte => if text.length + 2 ≥ outSize then text else text ++ hexText 2 byte.toNat) []

/-- The id as text and the offset past it, or the verdict that stops the decoder. -/
def readConnectionId (data : List UInt8) (offset : Nat) :
    Except AppDecodeResult (List UInt8 × Nat) :=
  match readU8At data data.length offset with
  | none => .error .needMore
  | some (idLength, start) =>
      if idLength.toNat > minisnifferQuicCidMaxBytes then .error .malformed
      else if !remaining data.length start idLength.toNat then .error .needMore
      else
        .ok (formatHex minisnifferQuicCidTextLen ((data.drop start).take idLength.toNat),
          start + idLength.toNat)

def quicSummary (out : AppInfo) : List UInt8 :=
  fitText minisnifferAppSummaryLen
    (ascii "QUIC Initial version=0x" ++ hexText 8 out.quicVersion.toNat ++ ascii " dcid=" ++
      cString out.quicDcid ++ ascii " scid=" ++ cString out.quicScid)

/-- A version of zero is recorded before it is rejected, and zero is what was there. -/
def appQuicDecodeInitial (data : List UInt8) : AppDecodeResult × AppInfo :=
  if data.length = 0 then (.noMatch, {})
  else
    match readU8At data data.length 0 with
    | none => (.needMore, {})
    | some (firstByte, afterFirst) =>
        if firstByte &&& quicHeaderFormLongMask ≠ quicHeaderFormLongValue then (.noMatch, {})
        else if firstByte &&& quicLongPacketTypeMask ≠ quicLongPacketTypeInitial then
          (.noMatch, {})
        else
          match readU32At data data.length afterFirst with
          | none => (.needMore, {})
          | some (version, afterVersion) =>
              if version = 0 then (.noMatch, {})
              else
                match readConnectionId data afterVersion with
                | .error verdict => (verdict, {})
                | .ok (dcid, afterDcid) =>
                    match readConnectionId data afterDcid with
                    | .error verdict => (verdict, {})
                    | .ok (scid, _) =>
                        let out : AppInfo :=
                          { protocol := .quic, quicVersion := version, quicDcid := dcid,
                            quicScid := scid }
                        (.ok, { out with summary := quicSummary out })

end MiniSniffer
