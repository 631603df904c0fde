import MiniSniffer.App.Dhcp
import MiniSniffer.Foundation.CheckedReads
import MiniSniffer.Foundation.LastValue

/-!
Contract: the DHCP option walk against the options that were sent (`src/app_dhcp.c`).

Owns the option area as a list of pads and options with what may end it, that the walk keeps the
last complete value of the two options it reads, and the decoder with each of its reads and its
passes checked.

Does not own the decoder: see `App.Dhcp`.
-/

namespace MiniSniffer

open Foundation

/-! ### Messages -/

/-- An option with a length byte. -/
structure DhcpOption where
  tag : UInt8
  notPad : tag ≠ dhcpOptionPad
  notEnd : tag ≠ dhcpOptionEnd
  value : List UInt8
  short : value.length ≤ 255

def DhcpOption.encode (option : DhcpOption) : List UInt8 :=
  option.tag :: UInt8.ofNat option.value.length :: option.value

inductive DhcpItem where
  | pad
  | entry (option : DhcpOption)

def DhcpItem.encode : DhcpItem → List UInt8
  | .pad => [dhcpOptionPad]
  | .entry option => option.encode

/-- What stands behind the last complete item. -/
inductive DhcpTail where
  | ended (following : List UInt8)
  | exhausted
  | cut (option : DhcpOption) (kept : Nat) (missing : kept < option.encode.length)

def DhcpTail.bytes : DhcpTail → List UInt8
  | .ended following => dhcpOptionEnd :: following
  | .exhausted => []
  | .cut option kept _ => option.encode.take kept

/-- A BOOTP message with the magic cookie. -/
structure DhcpMessage where
  header : List UInt8
  fixed : header.length = bootpFixedHeaderLen
  op : byteAt header 0 = 1 ∨ byteAt header 0 = 2
  items : List DhcpItem
  tail : DhcpTail

def DhcpMessage.wire (message : DhcpMessage) : List UInt8 :=
  message.header ++ dhcpMagicCookie ++ message.items.flatMap DhcpItem.encode ++ message.tail.bytes

/-- The value of a one-byte option 53. -/
def DhcpItem.messageType : DhcpItem → Option UInt8
  | .pad => none
  | .entry option =>
      if option.tag = dhcpOptionMessageType ∧ option.value.length = 1 then option.value[0]?
      else none

/-- The address of a four-byte option 50. -/
def DhcpItem.requestedIp : DhcpItem → Option IpText
  | .pad => none
  | .entry option =>
      if option.tag = dhcpOptionRequestedIp ∧ option.value.length = 4 then some (.ipv4 option.value)
      else none

/-- What the walk makes of an item. -/
def DhcpItem.keep (out : AppInfo) : DhcpItem → AppInfo
  | .pad => out
  | .entry option => keepDhcpOption option.tag option.value out

/-! ### The walk -/

section Walk

variable {front rest : List UInt8} {passes : Nat} {out : AppInfo}

theorem DhcpOption.length_encode (option : DhcpOption) :
    option.encode.length = option.value.length + 2 := rfl

theorem DhcpOption.length_byte (option : DhcpOption) :
    (UInt8.ofNat option.value.length).toNat = option.value.length :=
  UInt8.toNat_ofNat_of_lt' (Nat.lt_succ_of_le option.short)

theorem byteAt_append_cons (front : List UInt8) (byte : UInt8) (rest : List UInt8) :
    byteAt (front ++ byte :: rest) front.length = byte :=
  byteAt_append_right front (byte :: rest) 0

theorem byteAt_append_cons_cons (front : List UInt8) (first second : UInt8) (rest : List UInt8) :
    byteAt (front ++ first :: second :: rest) (front.length + 1) = second :=
  byteAt_append_right front (first :: second :: rest) 1

theorem scanDhcpOptionsLoop_item (item : DhcpItem) (front rest : List UInt8) (passes : Nat)
    (out : AppInfo) :
    scanDhcpOptionsLoop (front ++ (item.encode ++ rest)) (passes + 1) front.length out =
      scanDhcpOptionsLoop ((front ++ item.encode) ++ rest) passes (front ++ item.encode).length
        (item.keep out) := by
  cases item with
  | pad =>
      have inside : front.length < (front ++ ([dhcpOptionPad] ++ rest)).length := by simp
      have notEnd : dhcpOptionPad ≠ dhcpOptionEnd := by decide
      rw [scanDhcpOptionsLoop, DhcpItem.encode, if_pos inside]
      simp only [List.singleton_append]
      rw [byteAt_append_cons, if_neg notEnd, if_pos rfl]
      simp [DhcpItem.keep]
  | entry option =>
      have total : (front ++ (option.encode ++ rest)).length =
          front.length + option.value.length + 2 + rest.length := by
        rw [List.length_append, List.length_append, option.length_encode]
        omega
      have slice : ((front ++ (option.encode ++ rest)).drop (front.length + 2)).take
          option.value.length = option.value := by
        rw [List.drop_length_add_append]
        exact List.take_left
      rw [scanDhcpOptionsLoop, DhcpItem.encode, if_pos (by omega)]
      simp only
      rw [show byteAt (front ++ (option.encode ++ rest)) front.length = option.tag from
          byteAt_append_cons front _ _,
        show byteAt (front ++ (option.encode ++ rest)) (front.length + 1) = _ from
          byteAt_append_cons_cons front _ _ _,
        option.length_byte, if_neg option.notEnd, if_neg option.notPad, if_neg (by omega),
        if_neg (by omega), slice, List.append_assoc, List.length_append, option.length_encode,
        DhcpItem.keep, Nat.add_right_comm, Nat.add_assoc front.length]

theorem scanDhcpOptionsLoop_items (items : List DhcpItem) :
    scanDhcpOptionsLoop (front ++ items.flatMap DhcpItem.encode ++ rest) (items.length + passes)
        front.length out =
      scanDhcpOptionsLoop (front ++ items.flatMap DhcpItem.encode ++ rest) passes
        (front ++ items.flatMap DhcpItem.encode).length (items.foldl DhcpItem.keep out) := by
  induction items generalizing front out with
  | nil => simp
  | cons item items inductionHypothesis =>
      have step := scanDhcpOptionsLoop_item item front (items.flatMap DhcpItem.encode ++ rest)
        (items.length + passes) out
      have others := @inductionHypothesis (front ++ item.encode) (item.keep out)
      simp only [List.append_assoc] at step others
      rw [List.length_cons, Nat.add_right_comm, List.flatMap_cons, List.foldl_cons]
      simp only [List.append_assoc]
      rw [step, others]

/-- At the end the walk stops with what it has, however an option is cut. -/
theorem scanDhcpOptionsLoop_tail (tail : DhcpTail) :
    scanDhcpOptionsLoop (front ++ tail.bytes) (passes + 1) front.length out = out := by
  cases tail with
  | ended following =>
      show scanDhcpOptionsLoop (front ++ dhcpOptionEnd :: following) _ _ _ = _
      rw [scanDhcpOptionsLoop, if_pos (by simp)]
      simp only
      rw [byteAt_append_cons, if_pos rfl]
  | exhausted =>
      show scanDhcpOptionsLoop (front ++ []) _ _ _ = _
      rw [scanDhcpOptionsLoop, if_neg (by simp)]
  | cut option kept missing =>
      rw [option.length_encode] at missing
      have total : (front ++ option.encode.take kept).length = front.length + kept := by
        rw [List.length_append, List.length_take, option.length_encode]
        omega
      have tag : 1 ≤ kept →
          byteAt (front ++ option.encode.take kept) front.length = option.tag := by
        intro enough
        obtain ⟨more, rfl⟩ := Nat.exists_eq_add_of_le' enough
        exact byteAt_append_cons front _ _
      have length : 2 ≤ kept → (byteAt (front ++ option.encode.take kept)
          (front.length + 1)).toNat = option.value.length := by
        intro enough
        obtain ⟨more, rfl⟩ := Nat.exists_eq_add_of_le' enough
        rw [← option.length_byte]
        exact congrArg UInt8.toNat (byteAt_append_cons_cons front _ _ _)
      show scanDhcpOptionsLoop (front ++ option.encode.take kept) _ _ _ = _
      rw [scanDhcpOptionsLoop, total]
      by_cases someByte : front.length < front.length + kept
      · rw [if_pos someByte]
        simp only
        rw [tag (by omega), if_neg option.notEnd, if_neg option.notPad]
        split_ifs with lengthMissing valueMissing
        · rfl
        · rfl
        · rw [length (by omega)] at valueMissing
          omega
      · rw [if_neg someByte]

theorem DhcpItem.one_le_length (item : DhcpItem) : 1 ≤ item.encode.length := by
  cases item with
  | pad => exact Nat.le_refl 1
  | entry option => exact Nat.le_add_left 1 _

theorem DhcpItem.length_le (items : List DhcpItem) :
    items.length ≤ (items.flatMap DhcpItem.encode).length := by
  induction items with
  | nil => exact Nat.le_refl 0
  | cons item items inductionHypothesis =>
      have positive := item.one_le_length
      rw [List.flatMap_cons, List.length_append, List.length_cons]
      omega

end Walk

/-! ### The fields -/

theorem keep_dhcpMessageType (out : AppInfo) (item : DhcpItem) :
    (item.keep out).dhcpMessageType = item.messageType.getD out.dhcpMessageType := by
  cases item with
  | pad => rfl
  | entry option =>
      simp only [DhcpItem.keep, DhcpItem.messageType, keepDhcpOption, Bool.and_eq_true,
        decide_eq_true_eq]
      split_ifs with isType
      · rw [byteAt, List.getD_eq_getElem?_getD, List.getElem?_eq_getElem (by omega)]
        rfl
      · rfl
      · rfl

theorem keep_dhcpRequestedIp (out : AppInfo) (item : DhcpItem) :
    (item.keep out).dhcpRequestedIp = item.requestedIp.getD out.dhcpRequestedIp := by
  cases item with
  | pad => rfl
  | entry option =>
      simp only [DhcpItem.keep, DhcpItem.requestedIp, keepDhcpOption, Bool.and_eq_true,
        decide_eq_true_eq]
      split_ifs with isType isRequest isRequest
      · have tags : dhcpOptionMessageType ≠ dhcpOptionRequestedIp := by decide
        exact absurd (isType.1.symm.trans isRequest.1) tags
      · rfl
      · rfl
      · rfl

/-! ### Checked reads -/

/-- The walk with each read checked, and nothing for a walk whose passes run out. -/
def checkedScanDhcpOptionsLoop (data : List UInt8) : Nat → Nat → AppInfo → Option AppInfo
  | 0, _, _ => none
  | passes + 1, offset, out =>
      if offset < data.length then do
        let tag ← checkedByte data offset
        if tag = dhcpOptionEnd then return out
        else if tag = dhcpOptionPad then checkedScanDhcpOptionsLoop data passes (offset + 1) out
        else if offset + 1 ≥ data.length then return out
        else
          let lengthByte ← checkedByte data (offset + 1)
          let optionLength := lengthByte.toNat
          if offset + 2 + optionLength > data.length then return out
          else
            let value ← checkedBytes data (offset + 2) optionLength
            checkedScanDhcpOptionsLoop data passes (offset + 2 + optionLength)
              (keepDhcpOption tag value out)
      else some out

def checkedScanDhcpOptions (data : List UInt8) (out : AppInfo) : Option AppInfo :=
  checkedScanDhcpOptionsLoop data data.length dhcpMinMessageLen out

/-- The reader's own bounds are met: the fixed header is there. -/
def checkedReadBootpHeader (data : List UInt8) : Option (UInt8 × UInt8 × UInt8 × UInt32) := do
  let op ← checkedByte data 0
  let htype ← checkedByte data 1
  let hlen ← checkedByte data 2
  let transactionId ← checkedU32 data 4
  return (op, htype, hlen, transactionId)

def checkedIpv4TextAt (data : List UInt8) (offset : Nat) : Option IpText := do
  let address ← checkedBytes data offset 4
  return .ipv4 address

def checkedClientMac (data : List UInt8) (htype hlen : UInt8) : Option (List UInt8) :=
  if htype = 1 && hlen = 6 then do
    let address ← checkedBytes data bootpChaddrOffset 6
    return macText address
  else some []

def checkedAppDhcpDecodeUdp (data : List UInt8) : Option (AppDecodeResult × AppInfo) :=
  if data.length = 0 then some (.noMatch, {})
  else if data.length < dhcpMinMessageLen then some (.needMore, {})
  else do
    let cookie ← checkedBytes data bootpFixedHeaderLen 4
    if cookie ≠ dhcpMagicCookie then return (.noMatch, {})
    else
      let (op, htype, hlen, transactionId) ← checkedReadBootpHeader data
      if op ≠ 1 && op ≠ 2 then return (.noMatch, {})
      else
        let clientIp ← checkedIpv4TextAt data bootpCiaddrOffset
        let yourIp ← checkedIpv4TextAt data bootpYiaddrOffset
        let serverIp ← checkedIpv4TextAt data bootpSiaddrOffset
        let clientMac ← checkedClientMac data htype hlen
        let out : AppInfo :=
          { protocol := .dhcp
            dhcpTransactionId := transactionId
            dhcpClientIp := clientIp
            dhcpYourIp := yourIp
            dhcpServerIp := serverIp
            dhcpClientMac := clientMac }
        let scanned ← checkedScanDhcpOptions data out
        return (.ok, { scanned with
          summary := fitText minisnifferAppSummaryLen
            (ascii "DHCP " ++ dhcpMessageTypeName scanned.dhcpMessageType ++ ascii " xid=0x" ++
              hexText 8 scanned.dhcpTransactionId.toNat) })

section Checked

variable {data : List UInt8} {passes offset : Nat}

/-- Every read is inside the message, and a pass for each byte left and one more suffice. -/
theorem checkedScanDhcpOptionsLoop_eq (enough : data.length - offset < passes) (out : AppInfo) :
    checkedScanDhcpOptionsLoop data passes offset out =
      some (scanDhcpOptionsLoop data passes offset out) := by
  induction passes generalizing offset out with
  | zero => exact absurd enough (Nat.not_lt_zero _)
  | succ passes inductionHypothesis =>
      rw [checkedScanDhcpOptionsLoop, scanDhcpOptionsLoop]
      by_cases inside : offset < data.length
      · rw [if_pos inside, if_pos inside, checkedByte_inside inside, checked_bind]
        simp only
        split_ifs with isEnd isPad lengthMissing valueMissing
        · rfl
        · exact inductionHypothesis (by omega) out
        · rfl
        · rw [checkedByte_inside (by omega), checked_bind, if_pos valueMissing]
          rfl
        · rw [checkedByte_inside (by omega), checked_bind, if_neg valueMissing,
            checkedBytes_inside (by omega), checked_bind]
          exact inductionHypothesis (by omega) _
      · rw [if_neg inside, if_neg inside]

theorem checkedScanDhcpOptions_eq (long : dhcpMinMessageLen ≤ data.length) (out : AppInfo) :
    checkedScanDhcpOptions data out = some (scanDhcpOptions data out) := by
  have fixed : dhcpMinMessageLen = 240 := rfl
  rw [checkedScanDhcpOptions, scanDhcpOptions]
  exact checkedScanDhcpOptionsLoop_eq (by omega) out

theorem checkedReadBootpHeader_eq (long : dhcpMinMessageLen ≤ data.length) :
    checkedReadBootpHeader data = readBootpHeader data ∧
      readBootpHeader data =
        some (byteAt data 0, byteAt data 1, byteAt data 2, readU32 data 4) := by
  have fixed : dhcpMinMessageLen = 240 := rfl
  have header : readBootpHeader data =
      some (byteAt data 0, byteAt data 1, byteAt data 2, readU32 data 4) := by
    rw [readBootpHeader, brInit, brReadU8_inside (by omega), checked_bind]
    simp only
    rw [brReadU8_inside (by omega), checked_bind]
    simp only
    rw [brReadU8_inside (by omega), checked_bind]
    simp only
    rw [brSkip_inside (by omega), checked_bind, brReadU32Be_inside (by omega)]
    rfl
  refine ⟨?_, header⟩
  rw [header, checkedReadBootpHeader, checkedByte_inside (by omega), checked_bind,
    checkedByte_inside (by omega), checked_bind, checkedByte_inside (by omega), checked_bind,
    checkedU32_inside (by omega)]
  rfl

theorem checkedIpv4TextAt_eq (inside : offset + 4 ≤ data.length) :
    checkedIpv4TextAt data offset = some (ipv4TextAt data offset) := by
  rw [checkedIpv4TextAt, checkedBytes_inside inside]
  rfl

theorem checkedClientMac_eq (long : dhcpMinMessageLen ≤ data.length) (htype hlen : UInt8) :
    checkedClientMac data htype hlen =
      some (if htype = 1 && hlen = 6 then macText (data.drop bootpChaddrOffset) else []) := by
  have fixed : dhcpMinMessageLen = 240 := rfl
  have hardware : bootpChaddrOffset = 28 := rfl
  have taken : macText ((data.drop bootpChaddrOffset).take 6) =
      macText (data.drop bootpChaddrOffset) := by
    simp only [macText]
    rw [byteAt_take (by omega), byteAt_take (by omega), byteAt_take (by omega),
      byteAt_take (by omega), byteAt_take (by omega), byteAt_take (by omega)]
  rw [checkedClientMac]
  split_ifs
  · rw [checkedBytes_inside (by omega), ← taken]
    rfl
  · rfl

/-- The decoder reads nothing past the message, and its walk ends. -/
theorem checkedAppDhcpDecodeUdp_eq (data : List UInt8) :
    checkedAppDhcpDecodeUdp data = some (appDhcpDecodeUdp data) := by
  have fixed : dhcpMinMessageLen = 240 := rfl
  have cookieOffset : bootpFixedHeaderLen = 236 := rfl
  have addresses : bootpCiaddrOffset = 12 ∧ bootpYiaddrOffset = 16 ∧ bootpSiaddrOffset = 20 :=
    ⟨rfl, rfl, rfl⟩
  rw [checkedAppDhcpDecodeUdp, appDhcpDecodeUdp]
  by_cases empty : data.length = 0
  · rw [if_pos empty, if_pos empty]
  by_cases short : data.length < dhcpMinMessageLen
  · rw [if_neg empty, if_neg empty, if_pos short, if_pos short]
  have long := Nat.le_of_not_lt short
  obtain ⟨checkedHeader, header⟩ := checkedReadBootpHeader_eq long
  rw [if_neg empty, if_neg empty, if_neg short, if_neg short, checkedBytes_inside (by omega),
    checked_bind, checkedHeader, header]
  by_cases noCookie : (data.drop bootpFixedHeaderLen).take 4 ≠ dhcpMagicCookie
  · rw [if_pos noCookie, if_pos noCookie]
    rfl
  rw [if_neg noCookie, if_neg noCookie, checked_bind]
  simp only
  by_cases otherOp : (byteAt data 0 ≠ 1 && byteAt data 0 ≠ 2) = true
  · rw [if_pos otherOp, if_pos otherOp]
    rfl
  · rw [if_neg otherOp, if_neg otherOp, checkedIpv4TextAt_eq (by omega), checked_bind,
      checkedIpv4TextAt_eq (by omega), checked_bind, checkedIpv4TextAt_eq (by omega),
      checked_bind, checkedClientMac_eq long, checked_bind, checkedScanDhcpOptions_eq long,
      checked_bind]
    rfl

end Checked

/-! ### The decoder -/

section Decoder

variable (message : DhcpMessage)

/-- The two fields of the scanned message are those of its items. -/
theorem scanDhcpOptions_wire (out : AppInfo) :
    scanDhcpOptions message.wire out = message.items.foldl DhcpItem.keep out := by
  have front : (message.header ++ dhcpMagicCookie).length = dhcpMinMessageLen := by
    rw [List.length_append, message.fixed]
    rfl
  have positive : 1 ≤ dhcpMinMessageLen := by decide
  have items := DhcpItem.length_le message.items
  have total : message.wire.length = dhcpMinMessageLen +
      (message.items.flatMap DhcpItem.encode).length + message.tail.bytes.length := by
    rw [DhcpMessage.wire, List.length_append, List.length_append, front]
  obtain ⟨passes, enough⟩ : ∃ passes, message.wire.length = message.items.length + (passes + 1) :=
    ⟨message.wire.length - message.items.length - 1, by omega⟩
  rw [scanDhcpOptions, enough, DhcpMessage.wire, ← front, scanDhcpOptionsLoop_items,
    scanDhcpOptionsLoop_tail]

theorem appDhcpDecodeUdp_wire :
    ∃ info, appDhcpDecodeUdp message.wire = (.ok, info) ∧
      info.dhcpMessageType = (lastValue DhcpItem.messageType message.items).getD 0 ∧
      info.dhcpRequestedIp = (lastValue DhcpItem.requestedIp message.items).getD .empty := by
  have cookieOffset : bootpFixedHeaderLen = 236 := rfl
  have long : dhcpMinMessageLen ≤ message.wire.length := by
    rw [DhcpMessage.wire, List.append_assoc, List.length_append, List.length_append, message.fixed]
    exact Nat.le_add_right _ _
  have someByte : message.wire.length ≠ 0 := Nat.ne_of_gt (Nat.lt_of_lt_of_le (by decide) long)
  have cookie : (message.wire.drop bootpFixedHeaderLen).take 4 = dhcpMagicCookie := by
    rw [DhcpMessage.wire, List.append_assoc, List.append_assoc, ← message.fixed, List.drop_left]
    rfl
  have op : byteAt message.wire 0 = byteAt message.header 0 := by
    rw [DhcpMessage.wire, List.append_assoc, List.append_assoc]
    exact byteAt_append_left _ (by rw [message.fixed]; decide)
  have known : ¬ (byteAt message.wire 0 ≠ 1 && byteAt message.wire 0 ≠ 2) = true := by
    rw [op]
    rcases message.op with request | reply
    · simp [request]
    · simp [reply]
  rw [appDhcpDecodeUdp, if_neg someByte, if_neg (Nat.not_lt.mpr long), if_neg (not_not.mpr cookie),
    (checkedReadBootpHeader_eq long).2]
  simp only
  rw [if_neg known, scanDhcpOptions_wire]
  exact ⟨_, rfl, foldl_lastValue keep_dhcpMessageType _ _,
    foldl_lastValue keep_dhcpRequestedIp _ _⟩

end Decoder

/-- A message is decoded with every read inside it and the walk at its end: its type is the last
complete one-byte option 53, the requested address the last complete four-byte option 50. -/
theorem dhcpOptions_agree (message : DhcpMessage) :
    ∃ info, checkedAppDhcpDecodeUdp message.wire = some (.ok, info) ∧
      appDhcpDecodeUdp message.wire = (.ok, info) ∧
      info.dhcpMessageType = (lastValue DhcpItem.messageType message.items).getD 0 ∧
      info.dhcpRequestedIp = (lastValue DhcpItem.requestedIp message.items).getD .empty := by
  obtain ⟨info, decoded, type, address⟩ := appDhcpDecodeUdp_wire message
  refine ⟨info, ?_, decoded, type, address⟩
  rw [checkedAppDhcpDecodeUdp_eq, decoded]

end MiniSniffer
