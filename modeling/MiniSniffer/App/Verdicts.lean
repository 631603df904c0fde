import Mathlib.Data.List.Infix
import MiniSniffer.App.PrefixStability

/-!
Contract: what a stream decoder's verdict says about the bytes still to come.

Owns two laws and the exact inputs that break each. A negative verdict is final: HTTP breaks it on
the three heads of a status line that no method starts with. `needMore` is honest, that is some
bytes would settle the stream: TLS breaks it when the lengths of the record and of the ClientHello
in it disagree, DNS over TCP when a frame is declared shorter than a message header.

Does not own when a stream is decoded again: see `Capture.StreamDecode`.
-/

namespace MiniSniffer

open Foundation

/-- The decoders that reassembled streams are handed to. -/
inductive StreamDecoder where
  | http
  | tls
  | dnsTcp
deriving DecidableEq, Repr

namespace StreamDecoder

def decode : StreamDecoder → List UInt8 → AppDecodeResult × AppInfo
  | .http => appHttpDecode
  | .tls => appTlsDecodeClientHello
  | .dnsTcp => appDnsDecodeTcpFrame

def verdict (decoder : StreamDecoder) (data : List UInt8) : AppDecodeResult :=
  (decoder.decode data).1

/-- No extension changes a negative verdict. -/
def NegativeIsFinal (decoder : StreamDecoder) (data : List UInt8) : Prop :=
  decoder.verdict data = .noMatch ∨ decoder.verdict data = .malformed →
    ∀ extra, decoder.verdict (data ++ extra) = decoder.verdict data

/-- Some extension settles a stream that waits. -/
def NeedMoreIsHonest (decoder : StreamDecoder) (data : List UInt8) : Prop :=
  decoder.verdict data = .needMore → ∃ extra, decoder.verdict (data ++ extra) ≠ .needMore

end StreamDecoder

/-! ### HTTP start lines -/

/-- The heads of `HTTP/` that no method starts with. -/
def cutStatusLines : List (List UInt8) := [ascii "HT", ascii "HTT", ascii "HTTP"]

section Http

variable {data extra method : List UInt8}

theorem maybeHttpRequestPrefix_of_comparable (member : method ∈ httpMethods) (someBytes : data ≠ [])
    (comparable : method <+: data ∨ data <+: method) : maybeHttpRequestPrefix data = true := by
  rw [maybeHttpRequestPrefix, List.any_eq_true]
  refine ⟨method, member, ?_⟩
  have startsWhole : method <+: data → startsWith data method = true :=
    List.isPrefixOf_iff_prefix.mpr
  rcases comparable with whole | head
  · rw [startsWhole whole, Bool.true_or]
  · by_cases shorter : data.length < method.length
    · have positive := List.length_pos_of_ne_nil someBytes
      rw [List.isPrefixOf_iff_prefix.mpr head]
      simp [shorter, positive]
    · obtain rfl := head.eq_of_length_le (Nat.le_of_not_lt shorter)
      rw [startsWhole List.prefix_rfl, Bool.true_or]

/-- Bytes that come to look like HTTP looked like it before, unless a status line is cut. -/
theorem looksLikeHttp_of_append (someBytes : data ≠ []) (uncut : data ∉ cutStatusLines)
    (looks : looksLikeHttp (data ++ extra) = true) : looksLikeHttp data = true := by
  have headsLook : ∀ head ∈ (ascii "HTTP/").inits, head ≠ [] → head ∉ cutStatusLines →
      looksLikeHttp head = true := by decide
  have inWhole : data <+: data ++ extra := List.prefix_append data extra
  rw [looksLikeHttp, Bool.or_eq_true] at looks
  rcases looks with status | request
  · rcases List.prefix_or_prefix_of_prefix (List.isPrefixOf_iff_prefix.mp status) inWhole with
      whole | head
    · rw [looksLikeHttp, startsWith, List.isPrefixOf_iff_prefix.mpr whole, Bool.true_or]
    · exact headsLook data ((List.mem_inits _ _).mpr head) someBytes uncut
  · rw [maybeHttpRequestPrefix, List.any_eq_true] at request
    rcases request with ⟨method, member, matched⟩
    have comparable : method <+: data ∨ data <+: method := by
      rcases Bool.or_eq_true_iff.mp matched with whole | head
      · exact List.prefix_or_prefix_of_prefix (List.isPrefixOf_iff_prefix.mp whole) inWhole
      · right
        apply inWhole.trans
        exact List.isPrefixOf_iff_prefix.mp (Bool.and_eq_true_iff.mp head).2
    rw [looksLikeHttp, maybeHttpRequestPrefix_of_comparable member someBytes comparable,
      Bool.or_true]

/-- A method that is still cut has no header end after it. -/
theorem looksLikeHttp_append_of_headerEnd {headerEnd : Nat} (extra : List UInt8)
    (looks : looksLikeHttp data = true) (found : findHeaderEnd data = some headerEnd) :
    looksLikeHttp (data ++ extra) = true := by
  have noReturn : ∀ method ∈ httpMethods, (13 : UInt8) ∉ method := by decide
  have blank : (13 : UInt8) ∈ data := by
    have occurs : ¬ firstMatch [13, 10, 13, 10] data = none := by
      intro absent
      rw [findHeaderEnd, absent] at found
      contradiction
    rw [firstMatch_eq_none_iff (by decide), not_not] at occurs
    exact occurs.subset (by decide)
  have inWhole : data <+: data ++ extra := List.prefix_append data extra
  have someLonger : data ++ extra ≠ [] := by
    intro empty
    rw [(List.append_eq_nil_iff.mp empty).1] at blank
    contradiction
  rw [looksLikeHttp, Bool.or_eq_true] at looks
  rcases looks with status | request
  · rw [looksLikeHttp, startsWith,
      List.isPrefixOf_iff_prefix.mpr ((List.isPrefixOf_iff_prefix.mp status).trans inWhole),
      Bool.true_or]
  · rw [maybeHttpRequestPrefix, List.any_eq_true] at request
    rcases request with ⟨method, member, matched⟩
    rcases Bool.or_eq_true_iff.mp matched with whole | head
    · have longer := (List.isPrefixOf_iff_prefix.mp whole).trans inWhole
      rw [looksLikeHttp, maybeHttpRequestPrefix_of_comparable member someLonger (Or.inl longer),
        Bool.or_true]
    · have inside := List.isPrefixOf_iff_prefix.mp (Bool.and_eq_true_iff.mp head).2
      exact absurd (inside.subset blank) (noReturn method member)

/-- Away from a cut status line, every verdict but `needMore` is final. -/
theorem appHttpDecode_final (extra : List UInt8) (someBytes : data ≠ [])
    (uncut : data ∉ cutStatusLines) (decided : (appHttpDecode data).1 ≠ .needMore) :
    appHttpDecode (data ++ extra) = appHttpDecode data := by
  apply appHttpDecode_append_of_looks extra someBytes _ decided
  cases looks : looksLikeHttp data with
  | false =>
      rw [Bool.eq_false_iff] at looks ⊢
      intro later
      exact looks (looksLikeHttp_of_append someBytes uncut later)
  | true =>
      have notEmpty : ¬ data.length = 0 := by
        rw [List.length_eq_zero_iff]
        exact someBytes
      cases found : findHeaderEnd data with
      | none =>
          rw [appHttpDecode, if_neg notEmpty, looks, if_neg (by decide), found] at decided
          exact absurd rfl decided
      | some headerEnd => exact looksLikeHttp_append_of_headerEnd extra looks found

/-- A cut status line is refused, and accepted once the rest of the line and a blank line
arrive. -/
theorem appHttpDecode_of_cut (cut : data ∈ cutStatusLines) :
    (appHttpDecode data).1 = .noMatch ∧ ∃ extra, (appHttpDecode (data ++ extra)).1 = .ok := by
  have refused : ∀ head ∈ cutStatusLines, (appHttpDecode head).1 = .noMatch := by decide +kernel
  have accepted : ∀ head ∈ cutStatusLines,
      (appHttpDecode (head ++
        (ascii "HTTP/1.1 200 OK" ++ [13, 10, 13, 10]).drop head.length)).1 = .ok := by
    decide +kernel
  exact ⟨refused data cut, _, accepted data cut⟩

theorem decodeHttpBlock_decided (block : List UInt8) : (decodeHttpBlock block).1 ≠ .needMore := by
  unfold decodeHttpBlock
  split
  · decide
  · simp only
    split <;> simp

/-- A blank line settles every HTTP stream. -/
theorem appHttpDecode_blankLine (data : List UInt8) :
    (appHttpDecode (data ++ [13, 10, 13, 10])).1 ≠ .needMore := by
  have ends : ∃ headerEnd, findHeaderEnd (data ++ [13, 10, 13, 10]) = some headerEnd := by
    rw [← Option.isSome_iff_exists, findHeaderEnd, Option.isSome_map, ← Option.ne_none_iff_isSome]
    rw [Ne, firstMatch_eq_none_iff (by decide), not_not]
    exact List.infix_append_right
  rcases ends with ⟨headerEnd, found⟩
  unfold appHttpDecode
  split_ifs
  · decide
  · decide
  · rw [found]
    exact decodeHttpBlock_decided _

end Http

/-! ### Negative verdicts -/

section Negative

variable {data : List UInt8}

/-- A record of another type is refused from its first byte on. -/
theorem appTlsDecodeClientHello_otherRecord (other : byteAt data 0 ≠ tlsRecordHandshake) :
    (appTlsDecodeClientHello data).1 = .noMatch := by
  unfold appTlsDecodeClientHello
  split_ifs with empty short
  · rfl
  · rfl
  · rw [readRecordHeader_eq (Nat.le_of_not_lt short)]
    simp [other]

/-- Every verdict of the TLS decoder but `needMore` is final. -/
theorem appTlsDecodeClientHello_final (extra : List UInt8) (someBytes : data ≠ [])
    (decided : (appTlsDecodeClientHello data).1 ≠ .needMore) :
    (appTlsDecodeClientHello (data ++ extra)).1 = (appTlsDecodeClientHello data).1 := by
  by_cases long : tlsRecordHeaderLen ≤ data.length
  · rw [appTlsDecodeClientHello_append extra long decided]
  · have positive : 0 < data.length := List.length_pos_of_ne_nil someBytes
    have other : byteAt data 0 ≠ tlsRecordHandshake := by
      intro handshake
      rw [appTlsDecodeClientHello, if_neg (by omega), if_pos (by omega), if_pos handshake]
        at decided
      exact decided rfl
    have otherLonger : byteAt (data ++ extra) 0 ≠ tlsRecordHandshake := by
      rw [byteAt_append_left extra positive]
      exact other
    rw [appTlsDecodeClientHello_otherRecord other, appTlsDecodeClientHello_otherRecord otherLonger]

/-- A negative verdict is final, except that the HTTP decoder refuses a cut `HTTP/`. -/
theorem negative_verdict_final_iff (decoder : StreamDecoder) (someBytes : data ≠ []) :
    decoder.NegativeIsFinal data ↔ ¬ (decoder = .http ∧ data ∈ cutStatusLines) := by
  have undecided : ∀ {verdict : AppDecodeResult}, verdict = .noMatch ∨ verdict = .malformed →
      verdict ≠ .needMore := by
    rintro verdict (rfl | rfl) <;> decide
  cases decoder with
  | http =>
      constructor
      · rintro final ⟨-, cut⟩
        rcases appHttpDecode_of_cut cut with ⟨refused, extra, accepted⟩
        have same : (appHttpDecode (data ++ extra)).1 = (appHttpDecode data).1 :=
          final (Or.inl refused) extra
        rw [accepted, refused] at same
        contradiction
      · intro uncut negative extra
        have notCut : data ∉ cutStatusLines := fun cut => uncut ⟨rfl, cut⟩
        exact congrArg Prod.fst
          (appHttpDecode_final extra someBytes notCut (undecided negative))
  | tls =>
      refine iff_of_true ?_ (by simp)
      intro negative extra
      exact appTlsDecodeClientHello_final extra someBytes (undecided negative)
  | dnsTcp =>
      refine iff_of_true ?_ (by simp)
      intro negative extra
      exact congrArg Prod.fst (appDnsDecodeTcpFrame_append extra someBytes (undecided negative))

theorem negative_verdict_final_iff_garbage :
    StreamDecoder.NegativeIsFinal .http (ascii "SSH-2.0") ↔
      ¬ (StreamDecoder.http = .http ∧ ascii "SSH-2.0" ∈ cutStatusLines) :=
  negative_verdict_final_iff .http (by decide)

/-- A response whose first segment carries two bytes. -/
theorem negative_verdict_not_final :
    ¬ ∀ (decoder : StreamDecoder) (data : List UInt8), data ≠ [] →
      decoder.NegativeIsFinal data := by
  intro always
  have same := always .http (ascii "HT") (by decide) (Or.inl (by decide +kernel))
    (ascii "TP/1.1 200 OK" ++ [13, 10, 13, 10])
  exact absurd same (by decide +kernel)

end Negative

/-! ### Lengths that disagree -/

/-- A ClientHello that is declared longer than the record it starts in. -/
def tlsLengthsConflict (data : List UInt8) : Prop :=
  byteAt data 0 = tlsRecordHandshake ∧ readU16 data 1 >>> 8 = 0x03 ∧
    tlsHandshakeHeaderLen ≤ (readU16 data 3).toNat ∧ byteAt data 5 = tlsHandshakeClientHello ∧
    (readU16 data 3).toNat - tlsHandshakeHeaderLen < handshakeLength data

/-- A frame that is declared shorter than a message header. -/
def dnsFrameTooShort (data : List UInt8) : Prop :=
  2 ≤ data.length ∧ readU16 data 0 ≠ 0 ∧ (readU16 data 0).toNat < dnsHeaderLen

/-- The declared lengths rule each other out. -/
def StreamDecoder.LengthsConflict : StreamDecoder → List UInt8 → Prop
  | .http, _ => False
  | .tls, data => tlsLengthsConflict data
  | .dnsTcp, data => dnsFrameTooShort data

section Tls

variable {data : List UInt8}

/-- The verdicts once the record header is there. -/
theorem appTlsDecodeClientHello_eq (long : tlsRecordHeaderLen ≤ data.length) :
    appTlsDecodeClientHello data =
      if byteAt data 0 ≠ tlsRecordHandshake || readU16 data 1 >>> 8 ≠ 0x03 then
        (.noMatch, { tlsRecordVersion := readU16 data 1 })
      else if data.length < tlsRecordHeaderLen + (readU16 data 3).toNat then
        (.needMore, { tlsRecordVersion := readU16 data 1 })
      else if (readU16 data 3).toNat < tlsHandshakeHeaderLen then
        (.malformed, { tlsRecordVersion := readU16 data 1 })
      else decodeHandshake data (readU16 data 1) (readU16 data 3) := by
  have header : tlsRecordHeaderLen = 5 := rfl
  rw [appTlsDecodeClientHello, if_neg (by omega), if_neg (by omega), readRecordHeader_eq long]

theorem handshakeLength_eq (data : List UInt8) :
    handshakeLength data =
      (byteAt data 6).toNat * 65536 + (byteAt data 7).toNat * 256 + (byteAt data 8).toNat := by
  have middle : (byteAt data 7).toNat < 256 := (byteAt data 7).toNat_lt
  have low : (byteAt data 8).toNat < 2 ^ 8 := (byteAt data 8).toNat_lt
  have upper : (byteAt data 6).toNat <<< 16 ||| (byteAt data 7).toNat <<< 8 =
      ((byteAt data 6).toNat * 256 + (byteAt data 7).toNat) <<< 8 := by
    rw [← Nat.shiftLeft_add_eq_or_of_lt (by rw [Nat.shiftLeft_eq]; omega)]
    simp only [Nat.shiftLeft_eq]
    omega
  rw [handshakeLength, upper, ← Nat.shiftLeft_add_eq_or_of_lt low, Nat.shiftLeft_eq]
  omega

/-- Lengths that conflict were read from a handshake header that is there. -/
theorem tlsLengthsConflict_length (conflict : tlsLengthsConflict data) : 5 < data.length := by
  rcases conflict with ⟨_, _, _, clientHello, _⟩
  apply length_of_byteAt
  rw [clientHello]
  decide

/-- Bytes that arrive late only make the ClientHello longer. -/
theorem tlsLengthsConflict_append (extra : List UInt8) (conflict : tlsLengthsConflict data) :
    tlsLengthsConflict (data ++ extra) := by
  have inside := tlsLengthsConflict_length conflict
  rcases conflict with ⟨handshake, version, sized, clientHello, beyond⟩
  have grows : handshakeLength data ≤ handshakeLength (data ++ extra) := by
    have high := byteAt_le_append data extra 6
    have middle := byteAt_le_append data extra 7
    have low := byteAt_le_append data extra 8
    rw [handshakeLength_eq, handshakeLength_eq]
    omega
  unfold tlsLengthsConflict
  rw [byteAt_append_left extra (by omega), readU16_append_left extra (by omega),
    readU16_append_left extra (by omega), byteAt_append_left extra inside]
  exact ⟨handshake, version, sized, clientHello, Nat.lt_of_lt_of_le beyond grows⟩

theorem appTlsDecodeClientHello_of_conflict (conflict : tlsLengthsConflict data) :
    (appTlsDecodeClientHello data).1 = .needMore := by
  have inside := tlsLengthsConflict_length conflict
  rcases conflict with ⟨handshake, version, sized, clientHello, beyond⟩
  rw [appTlsDecodeClientHello_eq (Nat.le_of_lt inside), if_neg (by simp [handshake, version])]
  by_cases short : data.length < tlsRecordHeaderLen + (readU16 data 3).toNat
  · rw [if_pos short]
  · rw [if_neg short, if_neg (Nat.not_lt_of_le sized),
      decodeHandshake_eq _ (Nat.le_of_not_lt short) sized, if_neg (not_not_intro clientHello),
      if_pos beyond]

theorem parseClientHelloBody_decided (body : List UInt8) (out : AppInfo) :
    (parseClientHelloBody body out).1 ≠ .needMore := by
  unfold parseClientHelloBody
  split
  · decide
  · split <;> simp

/-- A stream longer than any record waits only for lengths that conflict. -/
theorem appTlsDecodeClientHello_decided (long : tlsRecordHeaderLen + 65535 ≤ data.length)
    (agree : ¬ tlsLengthsConflict data) : (appTlsDecodeClientHello data).1 ≠ .needMore := by
  have small : (readU16 data 3).toNat ≤ 65535 := Nat.le_of_lt_succ (readU16 data 3).toNat_lt
  have complete : tlsRecordHeaderLen + (readU16 data 3).toNat ≤ data.length :=
    (Nat.add_le_add_left small _).trans long
  rw [appTlsDecodeClientHello_eq ((Nat.le_add_right _ _).trans complete)]
  by_cases otherRecord : (decide (byteAt data 0 ≠ tlsRecordHandshake) ||
      decide (readU16 data 1 >>> 8 ≠ 0x03)) = true
  · rw [if_pos otherRecord]
    simp
  rw [if_neg otherRecord, if_neg (Nat.not_lt_of_le complete)]
  by_cases tiny : (readU16 data 3).toNat < tlsHandshakeHeaderLen
  · rw [if_pos tiny]
    simp
  rw [if_neg tiny, decodeHandshake_eq _ complete (Nat.le_of_not_lt tiny)]
  by_cases otherHandshake : byteAt data 5 ≠ tlsHandshakeClientHello
  · rw [if_pos otherHandshake]
    decide
  rw [if_neg otherHandshake, if_neg]
  · exact parseClientHelloBody_decided _ _
  · intro beyond
    simp only [Bool.or_eq_true, decide_eq_true_eq, not_or, not_not] at otherRecord otherHandshake
    exact agree ⟨otherRecord.1, otherRecord.2, Nat.le_of_not_lt tiny, otherHandshake, beyond⟩

theorem tlsLengthsConflict_append_zeros (count : Nat) :
    tlsLengthsConflict (data ++ List.replicate count 0) ↔ tlsLengthsConflict data := by
  simp only [tlsLengthsConflict, handshakeLength, byteAt_append_zeros, readU16_append_zeros]

end Tls

section Dns

variable {data : List UInt8}

/-- A message waits only for its header. -/
theorem decodeDnsMessageAs_needMore_iff (protocol : AppProtocol) (label : List UInt8) :
    (decodeDnsMessageAs protocol label data).1 = .needMore ↔
      data ≠ [] ∧ data.length < dnsHeaderLen := by
  rw [Ne, ← List.length_eq_zero_iff]
  unfold decodeDnsMessageAs
  split_ifs with empty short
  · simp [empty]
  · simp [empty, short]
  · rw [readDnsHeader_eq (Nat.le_of_not_lt short)]
    simp only [short, and_false, iff_false]
    split_ifs
    · decide
    · split <;> simp
    · simp

theorem appDnsDecodeTcpFrame_of_tooShort (tooShort : dnsFrameTooShort data) :
    (appDnsDecodeTcpFrame data).1 = .needMore := by
  rcases tooShort with ⟨framed, nonzero, headerless⟩
  have positive : (readU16 data 0).toNat ≠ 0 := by
    intro zero
    exact nonzero (UInt16.toNat_inj.mp zero)
  rw [appDnsDecodeTcpFrame, if_neg (by omega), if_neg (by omega)]
  simp only
  rw [if_neg nonzero]
  by_cases incomplete : data.length < 2 + (readU16 data 0).toNat
  · rw [if_pos incomplete]
  · have length : ((data.drop 2).take (readU16 data 0).toNat).length = (readU16 data 0).toNat := by
      rw [List.length_take, List.length_drop]
      omega
    rw [if_neg incomplete, appDnsDecodeMessage, decodeDnsMessageAs_needMore_iff, length]
    refine ⟨?_, headerless⟩
    rw [Ne, ← List.length_eq_zero_iff, length]
    exact positive

theorem dnsFrameTooShort_append (extra : List UInt8) (tooShort : dnsFrameTooShort data) :
    dnsFrameTooShort (data ++ extra) := by
  rcases tooShort with ⟨framed, nonzero, headerless⟩
  rw [dnsFrameTooShort, List.length_append, readU16_append_left extra (by omega)]
  exact ⟨by omega, nonzero, headerless⟩

/-- A stream longer than any frame waits only for a frame that is too short. -/
theorem appDnsDecodeTcpFrame_decided (long : 2 + 65535 ≤ data.length)
    (sized : ¬ dnsFrameTooShort data) : (appDnsDecodeTcpFrame data).1 ≠ .needMore := by
  have small := (readU16 data 0).toNat_lt
  rw [appDnsDecodeTcpFrame, if_neg (by omega), if_neg (by omega)]
  simp only
  by_cases zero : readU16 data 0 = 0
  · rw [if_pos zero]
    decide
  · have length : ((data.drop 2).take (readU16 data 0).toNat).length = (readU16 data 0).toNat := by
      rw [List.length_take, List.length_drop]
      omega
    rw [if_neg zero, if_neg (by omega), appDnsDecodeMessage, Ne, decodeDnsMessageAs_needMore_iff,
      length]
    intro headerless
    exact sized ⟨by omega, zero, headerless.2⟩

/-- Half a frame length leaves no frame of a few bytes possible. -/
theorem dnsFrameTooShort_of_append_zeros {count : Nat}
    (tooShort : dnsFrameTooShort (data ++ List.replicate count 0)) : dnsFrameTooShort data := by
  rcases tooShort with ⟨-, nonzero, headerless⟩
  rw [readU16_append_zeros] at nonzero headerless
  refine ⟨?_, nonzero, headerless⟩
  by_contra half
  have low : byteAt data 1 = 0 := by
    by_contra present
    exact half (length_of_byteAt present)
  have value := toNat_joinBytes (byteAt data 0) (byteAt data 1)
  have high : (byteAt data 0).toNat = 0 := by
    rw [readU16, value, dnsHeaderLen] at headerless
    omega
  apply nonzero
  apply UInt16.toNat_inj.mp
  rw [readU16, value, high, low]
  rfl

end Dns

/-! ### Honest waiting -/

/-- A stream that waits can be settled exactly when its declared lengths do not conflict. -/
theorem needMore_honest_iff (decoder : StreamDecoder) (data : List UInt8) :
    decoder.NeedMoreIsHonest data ↔ ¬ decoder.LengthsConflict data := by
  cases decoder with
  | http => exact iff_of_true (fun _ => ⟨_, appHttpDecode_blankLine data⟩) id
  | tls =>
      constructor
      · intro honest conflict
        rcases honest (appTlsDecodeClientHello_of_conflict conflict) with ⟨extra, settled⟩
        exact settled
          (appTlsDecodeClientHello_of_conflict (tlsLengthsConflict_append extra conflict))
      · intro agree _
        refine ⟨List.replicate (tlsRecordHeaderLen + 65535) 0, ?_⟩
        apply appTlsDecodeClientHello_decided
        · rw [List.length_append, List.length_replicate]
          exact Nat.le_add_left _ _
        · rw [tlsLengthsConflict_append_zeros]
          exact agree
  | dnsTcp =>
      constructor
      · intro honest tooShort
        rcases honest (appDnsDecodeTcpFrame_of_tooShort tooShort) with ⟨extra, settled⟩
        exact settled (appDnsDecodeTcpFrame_of_tooShort (dnsFrameTooShort_append extra tooShort))
      · intro sized _
        refine ⟨List.replicate (2 + 65535) 0, ?_⟩
        apply appDnsDecodeTcpFrame_decided
        · rw [List.length_append, List.length_replicate]
          exact Nat.le_add_left _ _
        · intro tooShort
          exact sized (dnsFrameTooShort_of_append_zeros tooShort)

/-- Where a DNS frame has room for its header, only a ClientHello that is declared longer than its
record leaves a stream waiting. -/
theorem needMore_honest_unless_conflict (decoder : StreamDecoder) {data : List UInt8}
    (roomy : decoder = .dnsTcp → ¬ dnsFrameTooShort data) :
    decoder.NeedMoreIsHonest data ↔ ¬ (decoder = .tls ∧ tlsLengthsConflict data) := by
  rw [needMore_honest_iff]
  cases decoder with
  | http => exact iff_of_true id (by simp)
  | tls => simp [StreamDecoder.LengthsConflict]
  | dnsTcp => exact iff_of_true (roomy rfl) (by simp)

/-- Half of a frame that holds a header and nothing else. -/
theorem needMore_honest_unless_conflict_header :
    StreamDecoder.NeedMoreIsHonest .dnsTcp [0, 12, 0, 1] ↔
      ¬ (StreamDecoder.dnsTcp = .tls ∧ tlsLengthsConflict [0, 12, 0, 1]) :=
  needMore_honest_unless_conflict .dnsTcp fun _ tooShort => absurd tooShort.2.2 (by decide)

/-- A ClientHello of one byte in a record that has no room for it. -/
theorem needMore_not_honest :
    ¬ ∀ (decoder : StreamDecoder) (data : List UInt8), decoder.NeedMoreIsHonest data := by
  intro always
  have conflict : tlsLengthsConflict [0x16, 3, 1, 0, 4, 1, 0, 0, 1] := by
    unfold tlsLengthsConflict
    decide +kernel
  rcases always .tls _ (appTlsDecodeClientHello_of_conflict conflict) with ⟨extra, settled⟩
  exact settled (appTlsDecodeClientHello_of_conflict (tlsLengthsConflict_append extra conflict))

end MiniSniffer
