import MiniSniffer.App.ByteReader

/-!
Contract: DNS, DNS-over-TCP and mDNS decoding (`src/app_dns.c`).

Owns the bounded name reader with its compression pointers, the message header
and first question, and the two-byte frame of DNS over TCP.

Every pass of the name reader that goes on adds a byte to the name or follows a
pointer, and both are capped, so a fixed number of passes suffices
(`parseDnsNameLoop_passes`).
-/

namespace MiniSniffer

open Foundation

def dnsHeaderLen : Nat := 12

def dnsPointerMask : UInt8 := 0xc0

def dnsPointerValue : UInt8 := 0xc0

def dnsLabelMask : UInt8 := 0x3f

def dnsMaxPointerDepth : Nat := 16

def dnsMaxNameLen : Nat := 253

/-! ### Names -/

/-- A name may not grow to `length` bytes. -/
def dnsNameTooLong (outSize length : Nat) : Bool := length ≥ outSize || length > dnsMaxNameLen

/-- The name with one more label, after a dot unless it is the first. -/
def appendDnsLabel (name label : List UInt8) (outSize : Nat) : Option (List UInt8) :=
  if name.length ≠ 0 && dnsNameTooLong outSize (name.length + 1) then none
  else
    let separated := if name.length ≠ 0 then name ++ ascii "." else name
    if dnsNameTooLong outSize (separated.length + label.length) then none
    else some (separated ++ label)

/-- `resume` is the offset after the first pointer, once one was followed; the name and the offset
after it are returned. -/
def parseDnsNameLoop (data : List UInt8) (outSize : Nat) :
    Nat → Nat → List UInt8 → Option Nat → Nat → Option (List UInt8 × Nat)
  | 0, _, _, _, _ => none
  | passes + 1, cursor, name, resume, depth =>
      if cursor < data.length then
        let labelLen := byteAt data cursor
        if labelLen = 0 then
          if name.length = 0 && outSize < 2 then none
          else some (if name.length = 0 then ascii "." else name, resume.getD (cursor + 1))
        else if labelLen &&& dnsPointerMask = dnsPointerValue then
          if cursor + 1 ≥ data.length || depth ≥ dnsMaxPointerDepth then none
          else
            let pointer := (joinBytes (labelLen &&& dnsLabelMask) (byteAt data (cursor + 1))).toNat
            if pointer ≥ data.length then none
            else
              parseDnsNameLoop data outSize passes pointer name (some (resume.getD (cursor + 2)))
                (depth + 1)
        else if labelLen &&& dnsPointerMask ≠ 0 || labelLen > 63 then none
        else if cursor + 1 + labelLen.toNat > data.length then none
        else
          match appendDnsLabel name ((data.drop (cursor + 1)).take labelLen.toNat) outSize with
          | none => none
          | some longer =>
              parseDnsNameLoop data outSize passes (cursor + 1 + labelLen.toNat) longer resume depth
      else none

/-- Bytes of a name, pointers, and the final pass. -/
def dnsNamePasses : Nat := dnsMaxNameLen + dnsMaxPointerDepth + 1

theorem appendDnsLabel_length {name label longer : List UInt8} {outSize : Nat}
    (appended : appendDnsLabel name label outSize = some longer) :
    name.length + label.length ≤ longer.length ∧ longer.length ≤ dnsMaxNameLen := by
  unfold appendDnsLabel at appended
  by_cases noDot : (decide (name.length ≠ 0) && dnsNameTooLong outSize (name.length + 1)) = true
  · rw [if_pos noDot] at appended
    contradiction
  rw [if_neg noDot] at appended
  generalize separatedEq : (if name.length ≠ 0 then name ++ ascii "." else name) = separated
    at appended
  have kept : name.length ≤ separated.length := by
    rw [← separatedEq]
    split <;> simp
  dsimp only at appended
  by_cases tooLong : dnsNameTooLong outSize (separated.length + label.length) = true
  · rw [if_pos tooLong] at appended
    contradiction
  rw [if_neg tooLong] at appended
  obtain rfl := Option.some.inj appended
  simp only [dnsNameTooLong, Bool.or_eq_true, decide_eq_true_eq, not_or] at tooLong
  rw [List.length_append]
  omega

/-- Every pass that goes on uses up one of the bytes or pointers left, so more passes than that
change nothing. -/
theorem parseDnsNameLoop_passes {data name : List UInt8} {outSize passes cursor depth : Nat}
    {resume : Option Nat}
    (enough : (dnsMaxNameLen - name.length) + (dnsMaxPointerDepth - depth) < passes) :
    parseDnsNameLoop data outSize (passes + 1) cursor name resume depth =
      parseDnsNameLoop data outSize passes cursor name resume depth := by
  induction passes generalizing cursor name resume depth with
  | zero => omega
  | succ passes inductionHypothesis =>
      rw [parseDnsNameLoop, parseDnsNameLoop]
      by_cases inside : cursor < data.length
      · rw [if_pos inside, if_pos inside]
        dsimp only
        by_cases root : byteAt data cursor = 0
        · rw [if_pos root, if_pos root]
        rw [if_neg root, if_neg root]
        by_cases pointer : byteAt data cursor &&& dnsPointerMask = dnsPointerValue
        · rw [if_pos pointer, if_pos pointer]
          split_ifs with refused outside
          · rfl
          · rfl
          · -- A pointer is followed: one less may be.
            simp only [Bool.or_eq_true, decide_eq_true_eq, not_or] at refused
            exact inductionHypothesis (by omega)
        rw [if_neg pointer, if_neg pointer]
        split_ifs with reserved short
        · rfl
        · rfl
        cases appended : appendDnsLabel name
            ((data.drop (cursor + 1)).take (byteAt data cursor).toNat) outSize with
        | none => rfl
        | some longer =>
            -- A label is not empty, so the name has grown.
            have positive : 0 < (byteAt data cursor).toNat :=
              Nat.pos_of_ne_zero fun zero => root (UInt8.toNat_inj.mp zero)
            have grown := appendDnsLabel_length appended
            rw [List.length_take, List.length_drop] at grown
            exact inductionHypothesis (by omega)
      · rw [if_neg inside, if_neg inside]

def parseDnsName (data : List UInt8) (offset outSize : Nat) : Option (List UInt8 × Nat) :=
  if outSize = 0 || offset ≥ data.length then none
  else parseDnsNameLoop data outSize dnsNamePasses offset [] none 0

/-! ### Messages -/

def dnsHeaderIsPlausible (qdcount ancount nscount arcount : UInt16) : Bool :=
  qdcount ≤ 64 && ancount ≤ 512 && nscount ≤ 512 && arcount ≤ 512

/-- Transaction id, flags and the four section counts. -/
structure DnsHeader where
  transactionId : UInt16
  flags : UInt16
  qdcount : UInt16
  ancount : UInt16
  nscount : UInt16
  arcount : UInt16
deriving DecidableEq, Repr

def readDnsHeader (data : List UInt8) : Option DnsHeader := do
  let (transactionId, reader) ← brReadU16Be (brInit data)
  let (flags, reader) ← brReadU16Be reader
  let (qdcount, reader) ← brReadU16Be reader
  let (ancount, reader) ← brReadU16Be reader
  let (nscount, reader) ← brReadU16Be reader
  let (arcount, _) ← brReadU16Be reader
  pure { transactionId, flags, qdcount, ancount, nscount, arcount }

/-- The first question: name, type and class. -/
def parseFirstQuestion (data : List UInt8) (out : AppInfo) : Option AppInfo :=
  match parseDnsName data dnsHeaderLen minisnifferAppTextLen with
  | none => none
  | some (name, questionOffset) =>
      match brReadU16Be { data := data, offset := questionOffset } with
      | none => none
      | some (queryType, reader) =>
          match brReadU16Be reader with
          | none => none
          | some (queryClass, _) =>
              some { out with
                dnsQueryName := name, dnsQueryType := queryType, dnsQueryClass := queryClass }

def dnsSummary (label : List UInt8) (out : AppInfo) : List UInt8 :=
  fitText minisnifferAppSummaryLen
    (label ++ ascii " " ++ (if out.dnsIsResponse then ascii "response" else ascii "query") ++
      ascii " id=0x" ++ hexText 4 out.dnsTransactionId.toNat ++ ascii " q=" ++
      decimalText out.dnsQuestionCount.toNat ++ ascii " " ++ cString out.dnsQueryName)

def decodeDnsMessageAs (protocol : AppProtocol) (label data : List UInt8) :
    AppDecodeResult × AppInfo :=
  if data.length = 0 then (.noMatch, {})
  else if data.length < dnsHeaderLen then (.needMore, {})
  else
    match readDnsHeader data with
    | none => (.needMore, {})
    | some header =>
        if !dnsHeaderIsPlausible header.qdcount header.ancount header.nscount header.arcount then
          (.noMatch, {})
        else
          let out : AppInfo :=
            { protocol := protocol
              dnsTransactionId := header.transactionId
              dnsQuestionCount := header.qdcount
              dnsIsResponse := header.flags &&& 0x8000 != 0
              dnsOpcode := ((header.flags >>> 11) &&& 0x0f).toUInt8
              dnsRcode := (header.flags &&& 0x0f).toUInt8 }
          if header.qdcount > 0 then
            match parseFirstQuestion data out with
            | none => (.malformed, {})
            | some asked => (.ok, { asked with summary := dnsSummary label asked })
          else (.ok, { out with summary := dnsSummary label out })

def appDnsDecodeMessage (data : List UInt8) : AppDecodeResult × AppInfo :=
  decodeDnsMessageAs .dns (ascii "DNS") data

def appDnsDecodeMdnsMessage (data : List UInt8) : AppDecodeResult × AppInfo :=
  decodeDnsMessageAs .mdns (ascii "mDNS") data

def appDnsDecodeUdp (data : List UInt8) : AppDecodeResult × AppInfo := appDnsDecodeMessage data

def appDnsDecodeMdnsUdp (data : List UInt8) : AppDecodeResult × AppInfo :=
  appDnsDecodeMdnsMessage data

def appDnsDecodeTcpFrame (data : List UInt8) : AppDecodeResult × AppInfo :=
  if data.length = 0 then (.noMatch, {})
  else if data.length < 2 then (.needMore, {})
  else
    let frameLength := readU16 data 0
    if frameLength = 0 then (.malformed, {})
    else if data.length < 2 + frameLength.toNat then (.needMore, {})
    else appDnsDecodeMessage ((data.drop 2).take frameLength.toNat)

end MiniSniffer
