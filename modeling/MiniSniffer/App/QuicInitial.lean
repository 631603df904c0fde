import MiniSniffer.App.Quic
import MiniSniffer.Foundation.ByteLayout
import MiniSniffer.Foundation.Digits

/-!
Contract: the visible header of a QUIC Initial packet read back (`src/app_quic.c`).

Owns the header as it is sent and the verdict on the whole of it, on every part of it that a
capture may hold, and on a connection id that is too long.

Does not own the decoder: see `App.Quic`.
-/

namespace MiniSniffer

open Foundation

/-- A long header of type Initial, of a packet that does not negotiate the version. -/
structure QuicInitialHeader where
  firstByte : UInt8
  initial : firstByte >>> 4 = 0xc
  version : UInt32
  numbered : version ≠ 0
  dcid : List UInt8
  dcidShort : dcid.length ≤ minisnifferQuicCidMaxBytes
  scid : List UInt8
  scidShort : scid.length ≤ minisnifferQuicCidMaxBytes

/-- What stands before the connection ids. -/
def QuicInitialHeader.start (header : QuicInitialHeader) : List UInt8 :=
  header.firstByte :: encodeU32 header.version

def QuicInitialHeader.wire (header : QuicInitialHeader) : List UInt8 :=
  header.start ++ vector8 header.dcid ++ vector8 header.scid

/-- What the decoder stores of a header. -/
def QuicInitialHeader.metadata (header : QuicInitialHeader) : AppInfo :=
  let out : AppInfo :=
    { protocol := .quic, quicVersion := header.version,
      quicDcid := header.dcid.flatMap fun byte => hexText 2 byte.toNat,
      quicScid := header.scid.flatMap fun byte => hexText 2 byte.toNat }
  { out with summary := quicSummary out }

/-! ### Connection ids -/

section ConnectionIds

variable {data id : List UInt8} {offset : Nat}

/-- Digits are added while two of them and a terminator fit. -/
theorem formatHex_foldl {outSize : Nat} (text bytes : List UInt8)
    (fits : text.length + 2 * bytes.length < outSize) :
    bytes.foldl
        (fun text byte => if text.length + 2 ≥ outSize then text else text ++ hexText 2 byte.toNat)
        text =
      text ++ bytes.flatMap fun byte => hexText 2 byte.toNat := by
  induction bytes generalizing text with
  | nil => exact (List.append_nil text).symm
  | cons byte bytes inductionHypothesis =>
      rw [List.length_cons] at fits
      have digits : (hexText 2 byte.toNat).length = 2 := rfl
      have room : (text ++ hexText 2 byte.toNat).length + 2 * bytes.length < outSize := by
        rw [List.length_append, digits]
        omega
      rw [List.foldl_cons, if_neg (by omega), inductionHypothesis _ room, List.append_assoc,
        List.flatMap_cons]

/-- The text of the longest id just fits. -/
theorem formatHex_id (short : id.length ≤ minisnifferQuicCidMaxBytes) :
    formatHex minisnifferQuicCidTextLen id = id.flatMap fun byte => hexText 2 byte.toNat := by
  have room : ([] : List UInt8).length + 2 * id.length < minisnifferQuicCidTextLen := by
    rw [minisnifferQuicCidMaxBytes] at short
    rw [minisnifferQuicCidTextLen, List.length_nil]
    omega
  exact formatHex_foldl [] id room

theorem readU8At_inside (inside : offset < data.length) :
    readU8At data data.length offset = some (byteAt data offset, offset + 1) := by
  rw [readU8At, if_pos]
  simp only [remaining, Bool.and_eq_true, decide_eq_true_eq]
  omega

theorem readU8At_past (past : data.length ≤ offset) : readU8At data data.length offset = none := by
  rw [readU8At, if_neg]
  simp only [remaining, Bool.and_eq_true, decide_eq_true_eq]
  omega

theorem readU32At_inside (inside : offset + 4 ≤ data.length) :
    readU32At data data.length offset = some (readU32 data offset, offset + 4) := by
  rw [readU32At, if_pos]
  simp only [remaining, Bool.and_eq_true, decide_eq_true_eq]
  omega

theorem readU32At_past (past : data.length < offset + 4) :
    readU32At data data.length offset = none := by
  rw [readU32At, if_neg]
  simp only [remaining, Bool.and_eq_true, decide_eq_true_eq]
  omega

/-- An id that is all there. -/
theorem readConnectionId_whole (short : id.length ≤ minisnifferQuicCidMaxBytes)
    (holds : HoldsAt data offset (vector8 id)) :
    readConnectionId data offset =
      .ok (id.flatMap fun byte => hexText 2 byte.toNat, offset + (vector8 id).length) := by
  have bound := holds.length_le (List.cons_ne_nil _ _)
  rw [length_vector8] at bound
  have small : id.length < 256 := Nat.lt_of_le_of_lt short (by decide)
  obtain ⟨inside, length, content⟩ := (holdsAt_vector8 small).mp holds
  rw [readConnectionId, readU8At_inside inside]
  simp only
  have enough : ¬ (!remaining data.length (offset + 1) id.length) = true := by
    simp only [remaining, Bool.not_eq_true', Bool.not_eq_false, Bool.and_eq_true,
      decide_eq_true_eq]
    omega
  rw [length, if_neg (Nat.not_lt.mpr short), if_neg enough, holdsAt_iff_slice.mp content,
    formatHex_id short, length_vector8, Nat.add_right_comm, Nat.add_assoc]

/-- An id cut short: at its length, or anywhere in its bytes. -/
theorem readConnectionId_cut (short : id.length ≤ minisnifferQuicCidMaxBytes)
    (ends : data.length < offset + (vector8 id).length)
    (length : offset < data.length → byteAt data offset = UInt8.ofNat id.length) :
    readConnectionId data offset = .error .needMore := by
  rw [length_vector8] at ends
  by_cases inside : offset < data.length
  · have small : id.length < 256 := Nat.lt_of_le_of_lt short (by decide)
    have known := (ofNat_eq_iff_toNat small).mp (length inside)
    have missing : (!remaining data.length (offset + 1) id.length) = true := by
      simp only [remaining, Bool.not_eq_true', Bool.and_eq_false_iff, decide_eq_false_iff_not]
      omega
    rw [readConnectionId, readU8At_inside inside]
    simp only
    rw [known, if_neg (Nat.not_lt.mpr short), if_pos missing]
  · rw [readConnectionId, readU8At_past (Nat.not_lt.mp inside)]

/-- An id longer than QUIC allows, whether or not it is all there. -/
theorem readConnectionId_long (inside : offset < data.length)
    (long : minisnifferQuicCidMaxBytes < (byteAt data offset).toNat) :
    readConnectionId data offset = .error .malformed := by
  rw [readConnectionId, readU8At_inside inside]
  simp only
  rw [if_pos long]

end ConnectionIds

/-! ### Headers -/

section Headers

variable {data : List UInt8} (header : QuicInitialHeader)

theorem QuicInitialHeader.firstByte_masks :
    header.firstByte &&& quicHeaderFormLongMask = quicHeaderFormLongValue ∧
      header.firstByte &&& quicLongPacketTypeMask = quicLongPacketTypeInitial := by
  have known : ∀ byte : UInt8, byte >>> 4 = 0xc →
      byte &&& quicHeaderFormLongMask = quicHeaderFormLongValue ∧
        byte &&& quicLongPacketTypeMask = quicLongPacketTypeInitial :=
    forall_byte (by decide +kernel)
  exact known header.firstByte header.initial

/-- The decoder behind the version: the two ids, one after the other. -/
theorem appQuicDecodeInitial_start (holds : HoldsAt data 0 header.start) :
    appQuicDecodeInitial data =
      match readConnectionId data header.start.length with
      | .error verdict => (verdict, {})
      | .ok (dcid, afterDcid) =>
          match readConnectionId data afterDcid with
          | .error verdict => (verdict, {})
          | .ok (scid, _) =>
              let out : AppInfo :=
                { protocol := .quic, quicVersion := header.version, quicDcid := dcid,
                  quicScid := scid }
              (.ok, { out with summary := quicSummary out }) := by
  have bound := holds.length_le (List.cons_ne_nil _ _)
  obtain ⟨⟨inside, first⟩, version⟩ := holdsAt_cons.mp holds
  obtain ⟨form, type⟩ := header.firstByte_masks
  have enough : 0 + 1 + 4 ≤ data.length := bound
  rw [appQuicDecodeInitial, if_neg (by omega), readU8At_inside inside]
  simp only
  rw [first, if_neg (not_not.mpr form), if_neg (not_not.mpr type), readU32At_inside enough]
  simp only
  rw [readU32_of_holdsAt version, if_neg header.numbered]
  rfl

theorem appQuicDecodeInitial_wire (trailing : List UInt8) :
    appQuicDecodeInitial (header.wire ++ trailing) = (.ok, header.metadata) := by
  have holds : HoldsAt (header.wire ++ trailing) 0 header.wire :=
    holdsAt_zero.mpr ⟨trailing, rfl⟩
  obtain ⟨holds, scid⟩ := holdsAt_append.mp holds
  obtain ⟨start, dcid⟩ := holdsAt_append.mp holds
  rw [Nat.zero_add] at dcid
  rw [Nat.zero_add, List.length_append] at scid
  rw [appQuicDecodeInitial_start header start, readConnectionId_whole header.dcidShort dcid]
  simp only
  rw [readConnectionId_whole header.scidShort scid]
  rfl

/-- Before the version is complete nothing is decided. -/
theorem appQuicDecodeInitial_short (first : HoldsAt data 0 [header.firstByte])
    (short : data.length < header.start.length) :
    appQuicDecodeInitial data = (.needMore, {}) := by
  obtain ⟨inside, first⟩ := holdsAt_byte.mp first
  obtain ⟨form, type⟩ := header.firstByte_masks
  have missing : data.length < 0 + 1 + 4 := short
  rw [appQuicDecodeInitial, if_neg (by omega), readU8At_inside inside]
  simp only
  rw [first, if_neg (not_not.mpr form), if_neg (not_not.mpr type), readU32At_past missing]

theorem appQuicDecodeInitial_cut {cut rest : List UInt8} (split : header.wire = cut ++ rest)
    (nonempty : cut ≠ []) (missing : rest ≠ []) :
    appQuicDecodeInitial cut = (.needMore, {}) := by
  have whole : HoldsAt (cut ++ rest) 0 header.wire := split ▸ holdsAt_zero.mpr ⟨[], by simp⟩
  have someCut := List.length_pos_iff.mpr nonempty
  have someRest := List.length_pos_iff.mpr missing
  have total := congrArg List.length split
  obtain ⟨before, scid⟩ := holdsAt_append.mp whole
  obtain ⟨start, dcid⟩ := holdsAt_append.mp before
  rw [QuicInitialHeader.wire, List.length_append, List.length_append, List.length_append] at total
  rw [Nat.zero_add] at dcid
  rw [Nat.zero_add, List.length_append] at scid
  -- a length byte that the cut still holds is the one of the header
  have lengthByte : ∀ {offset : Nat} {id : List UInt8}, HoldsAt (cut ++ rest) offset (vector8 id) →
      offset < cut.length → byteAt cut offset = UInt8.ofNat id.length := by
    intro offset id holds inside
    rw [← byteAt_append_left rest inside]
    exact (holdsAt_cons.mp holds).1.2
  by_cases short : cut.length < header.start.length
  · refine appQuicDecodeInitial_short header ?_ short
    rw [← holdsAt_append_left rest someCut]
    exact holdsAt_byte.mpr (holdsAt_cons.mp start).1
  · rw [holdsAt_append_left rest (by omega)] at start
    rw [appQuicDecodeInitial_start header start]
    by_cases dcidCut : cut.length < header.start.length + (vector8 header.dcid).length
    · rw [readConnectionId_cut header.dcidShort dcidCut (lengthByte dcid)]
    · rw [holdsAt_append_left rest (by omega)] at dcid
      rw [readConnectionId_whole header.dcidShort dcid]
      simp only
      rw [readConnectionId_cut header.scidShort (by omega) (lengthByte scid)]

theorem appQuicDecodeInitial_longDcid {length : UInt8} (following : List UInt8)
    (long : minisnifferQuicCidMaxBytes < length.toNat) :
    appQuicDecodeInitial (header.start ++ length :: following) = (.malformed, {}) := by
  have holds : HoldsAt (header.start ++ length :: following) 0 (header.start ++ [length]) :=
    holdsAt_zero.mpr ⟨following, by simp⟩
  obtain ⟨start, byte⟩ := holdsAt_append.mp holds
  rw [Nat.zero_add] at byte
  obtain ⟨inside, byte⟩ := holdsAt_byte.mp byte
  rw [appQuicDecodeInitial_start header start,
    readConnectionId_long inside (byte.symm ▸ long)]

theorem appQuicDecodeInitial_longScid {length : UInt8} (following : List UInt8)
    (long : minisnifferQuicCidMaxBytes < length.toNat) :
    appQuicDecodeInitial (header.start ++ vector8 header.dcid ++ length :: following) =
      (.malformed, {}) := by
  have holds : HoldsAt (header.start ++ vector8 header.dcid ++ length :: following) 0
      (header.start ++ vector8 header.dcid ++ [length]) :=
    holdsAt_zero.mpr ⟨following, by simp⟩
  obtain ⟨before, byte⟩ := holdsAt_append.mp holds
  obtain ⟨start, dcid⟩ := holdsAt_append.mp before
  rw [Nat.zero_add] at dcid
  rw [Nat.zero_add, List.length_append] at byte
  obtain ⟨inside, byte⟩ := holdsAt_byte.mp byte
  rw [appQuicDecodeInitial_start header start,
    readConnectionId_whole header.dcidShort dcid]
  simp only
  rw [readConnectionId_long inside (byte.symm ▸ long)]

end Headers

/-- The whole header is read back whatever follows it, every non-empty part of it that lacks its
end asks for more and leaves nothing behind, and a connection id with a length over twenty is
refused as soon as its length is there. -/
theorem quicInitial_exact (header : QuicInitialHeader) :
    (∃ info : AppInfo,
      (∀ trailing, appQuicDecodeInitial (header.wire ++ trailing) = (.ok, info)) ∧
      info.protocol = .quic ∧ info.quicVersion = header.version ∧
      hexBytes info.quicDcid = some header.dcid ∧ hexBytes info.quicScid = some header.scid) ∧
    (∀ cut rest, header.wire = cut ++ rest → cut ≠ [] → rest ≠ [] →
      appQuicDecodeInitial cut = (.needMore, {})) ∧
    ∀ (length : UInt8) (following : List UInt8), minisnifferQuicCidMaxBytes < length.toNat →
      appQuicDecodeInitial (header.start ++ length :: following) = (.malformed, {}) ∧
      appQuicDecodeInitial (header.start ++ vector8 header.dcid ++ length :: following) =
        (.malformed, {}) := by
  refine ⟨⟨header.metadata, appQuicDecodeInitial_wire header, rfl, rfl,
    hexBytes_flatMap header.dcid, hexBytes_flatMap header.scid⟩, ?_, ?_⟩
  · intro cut rest split nonempty missing
    exact appQuicDecodeInitial_cut header split nonempty missing
  · intro length following long
    exact ⟨appQuicDecodeInitial_longDcid header following long,
      appQuicDecodeInitial_longScid header following long⟩

/-- Version 1 with an empty destination id, cut behind the version and with an id too long. -/
theorem quicInitial_exact_version1 :
    appQuicDecodeInitial [0xc3, 0, 0, 0, 1] = (.needMore, {}) ∧
      appQuicDecodeInitial [0xc3, 0, 0, 0, 1, 0, 21] = (.malformed, {}) := by
  have exact := quicInitial_exact
    { firstByte := 0xc3, initial := rfl, version := 1, numbered := by decide,
      dcid := [], dcidShort := by decide, scid := [7], scidShort := by decide }
  exact ⟨exact.2.1 [0xc3, 0, 0, 0, 1] [0, 1, 7] rfl (by decide) (by decide),
    (exact.2.2 21 [] (by decide)).2⟩

end MiniSniffer
