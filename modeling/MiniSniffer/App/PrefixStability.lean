import MiniSniffer.App.Decoder
import MiniSniffer.Foundation.Intervals

/-!
Contract: verdicts of the stream decoders do not change when the stream grows.

Owns prefix stability: a stream decoder that accepted a prefix gives the same
verdict and the same metadata on every longer stream. For HTTP and TLS it holds
of every verdict but `needMore` once enough bytes are there; the sniffing order
needs that, since an earlier decoder of the order must not accept later what it
refused when a later one accepted.

Does not own how the stream comes together: see `Capture.Segmentation`.
-/

namespace MiniSniffer

open Foundation

section Reads

variable {data : List UInt8} {offset count : Nat}

theorem slice_of_append (extra : List UInt8) (inside : offset + count ≤ data.length) :
    ((data ++ extra).drop offset).take count = (data.drop offset).take count := by
  have same : slice (data ++ extra) offset (offset + count) = slice data offset (offset + count) :=
    slice_append_left inside
  rw [slice, slice, Nat.add_sub_cancel_left] at same
  exact same

theorem brReadU16Be_bound {value : UInt16} {reader : ByteReader}
    (read : brReadU16Be { data := data, offset := offset } = some (value, reader)) :
    offset + 2 ≤ data.length ∧ value = readU16 data offset ∧
      reader = { data := data, offset := offset + 2 } := by
  have enough : offset + 2 ≤ data.length := by
    by_contra short
    rw [brReadU16Be, if_neg] at read
    · contradiction
    · rw [brRemaining]
      simp only [Bool.not_eq_true]
      split_ifs
      · rfl
      · simp only [decide_eq_false_iff_not]
        omega
  rw [brReadU16Be_inside enough] at read
  cases read
  exact ⟨enough, rfl, rfl⟩

end Reads

/-! ### HTTP -/

section Http

variable {data : List UInt8}

/-- No method is longer than seven bytes, nor is the start of a status line. -/
theorem looksLikeHttp_append (extra : List UInt8) (long : 8 ≤ data.length) :
    looksLikeHttp (data ++ extra) = looksLikeHttp data := by
  have short : ∀ method ∈ httpMethods, method.length ≤ 7 := by decide
  have sameStatus : startsWith (data ++ extra) (ascii "HTTP/") = startsWith data (ascii "HTTP/") :=
    isPrefixOf_append_left extra (Nat.le_trans (by decide) long)
  have sameMethod : maybeHttpRequestPrefix (data ++ extra) = maybeHttpRequestPrefix data := by
    unfold maybeHttpRequestPrefix
    rw [Bool.eq_iff_iff, List.any_eq_true, List.any_eq_true]
    apply exists_congr
    intro method
    apply and_congr_right
    intro member
    have bound := short method member
    have whole : startsWith (data ++ extra) method = startsWith data method :=
      isPrefixOf_append_left extra (by omega)
    have notHead : ¬ data.length < method.length := by omega
    have notHeadLonger : ¬ (data ++ extra).length < method.length := by
      rw [List.length_append]
      omega
    simp only [whole, notHead, notHeadLonger, decide_false, Bool.and_false, Bool.false_and,
      Bool.or_false]
  rw [looksLikeHttp, looksLikeHttp, sameStatus, sameMethod]

theorem findHeaderEnd_append (extra : List UInt8) {headerEnd : Nat}
    (found : findHeaderEnd data = some headerEnd) :
    findHeaderEnd (data ++ extra) = some headerEnd ∧ headerEnd ≤ data.length := by
  rw [findHeaderEnd, Option.map_eq_some_iff] at found
  rcases found with ⟨position, first, rfl⟩
  have bound := firstMatch_bound first
  rw [findHeaderEnd, firstMatch_append extra first]
  exact ⟨rfl, bound⟩

/-- While the start line looks the same, every verdict but `needMore` is final. -/
theorem appHttpDecode_append_of_looks (extra : List UInt8) (someBytes : data ≠ [])
    (looks : looksLikeHttp (data ++ extra) = looksLikeHttp data)
    (decided : (appHttpDecode data).1 ≠ .needMore) :
    appHttpDecode (data ++ extra) = appHttpDecode data := by
  have notEmpty : ¬ data.length = 0 := by
    rw [List.length_eq_zero_iff]
    exact someBytes
  have longerNotEmpty : ¬ (data ++ extra).length = 0 := by
    rw [List.length_append]
    omega
  unfold appHttpDecode at decided ⊢
  rw [if_neg notEmpty] at decided ⊢
  rw [if_neg longerNotEmpty, looks]
  by_cases refused : (!looksLikeHttp data) = true
  · rw [if_pos refused, if_pos refused]
  · rw [if_neg refused] at decided ⊢
    rw [if_neg refused]
    cases found : findHeaderEnd data with
    | none =>
        rw [found] at decided
        exact absurd rfl decided
    | some headerEnd =>
        have still := findHeaderEnd_append extra found
        rw [still.1]
        show decodeHttpBlock _ = decodeHttpBlock _
        rw [List.take_append_of_le_length still.2]

/-- Once the start line can be told apart, every verdict but `needMore` is final. -/
theorem appHttpDecode_append (extra : List UInt8) (long : 8 ≤ data.length)
    (decided : (appHttpDecode data).1 ≠ .needMore) :
    appHttpDecode (data ++ extra) = appHttpDecode data := by
  apply appHttpDecode_append_of_looks extra _ (looksLikeHttp_append extra long) decided
  intro empty
  rw [empty] at long
  contradiction

theorem parseRequestLine_length {line : List UInt8} {out filled : AppInfo}
    (parsed : parseRequestLine line out = some filled) : 8 ≤ line.length := by
  unfold parseRequestLine at parsed
  split at parsed
  · contradiction
  next methodEnd _ =>
    split_ifs at parsed
    simp only at parsed
    split at parsed
    · contradiction
    next pathEnd _ =>
      split_ifs at parsed with _ badVersion
      simp only [Bool.or_eq_true, decide_eq_true_eq, not_or, List.length_drop] at badVersion
      omega

/-- An accepted start line has at least eight bytes. -/
theorem appHttpDecode_ok_length (accepted : (appHttpDecode data).1 = .ok) : 8 ≤ data.length := by
  unfold appHttpDecode at accepted
  split_ifs at accepted
  split at accepted
  · contradiction
  next headerEnd _ =>
    unfold decodeHttpBlock at accepted
    split at accepted
    · contradiction
    next lineEnd _ =>
      simp only at accepted
      have lineLength : ((data.take headerEnd).take lineEnd).length ≤ data.length := by
        simp only [List.length_take]
        omega
      split at accepted
      · contradiction
      next filled parsed =>
        split_ifs at parsed with status
        · unfold parseStatusLine at parsed
          split_ifs at parsed with short
          simp only [Bool.or_eq_true, decide_eq_true_eq, not_or] at short
          omega
        · have := parseRequestLine_length parsed
          omega

end Http

/-! ### TLS -/

section Tls

variable {data : List UInt8}

theorem readRecordHeader_eq (long : tlsRecordHeaderLen ≤ data.length) :
    readRecordHeader data = some (byteAt data 0, readU16 data 1, readU16 data 3) := by
  rw [tlsRecordHeaderLen] at long
  have first : brReadU8 (brInit data) =
      some (byteAt data 0, { data := data, offset := 1 }) := brReadU8_inside (by omega)
  rw [readRecordHeader, first]
  simp only [brReadU16Be_inside (show 1 + 2 ≤ data.length by omega),
    brReadU16Be_inside (show 1 + 2 + 2 ≤ data.length by omega)]

/-- `read_u24_at`, of a handshake's length. -/
def handshakeLength (data : List UInt8) : Nat :=
  ((byteAt data 6).toNat <<< 16) ||| ((byteAt data 7).toNat <<< 8) ||| (byteAt data 8).toNat

/-- A handshake header that is there decides on its own unless it opens a ClientHello. -/
theorem decodeHandshake_eq (recordVersion : UInt16) {recordLength : UInt16}
    (complete : tlsRecordHeaderLen + recordLength.toNat ≤ data.length)
    (sized : tlsHandshakeHeaderLen ≤ recordLength.toNat) :
    decodeHandshake data recordVersion recordLength =
      if byteAt data 5 ≠ tlsHandshakeClientHello then (.noMatch, {})
      else if handshakeLength data > recordLength.toNat - tlsHandshakeHeaderLen then
        (.needMore, {})
      else
        parseClientHelloBody ((data.drop 9).take (handshakeLength data))
          { protocol := .tls, tlsRecordVersion := recordVersion,
            tlsHandshakeType := byteAt data 5 } := by
  simp only [tlsRecordHeaderLen, tlsHandshakeHeaderLen] at complete sized
  have enough : ∀ offset needed, offset + needed ≤ 9 →
      remaining data.length offset needed = true := by
    intro offset needed within
    rw [remaining]
    simp only [Bool.and_eq_true, decide_eq_true_eq]
    omega
  unfold decodeHandshake
  rw [readU8At, if_pos (enough _ _ (by decide))]
  simp only [tlsRecordHeaderLen]
  rw [readU24At, if_pos (enough _ _ (by decide))]
  rfl

/-- A complete record is read the same whatever follows it. -/
theorem decodeHandshake_append (extra : List UInt8) (recordVersion : UInt16) {recordLength : UInt16}
    (complete : tlsRecordHeaderLen + recordLength.toNat ≤ data.length)
    (sized : tlsHandshakeHeaderLen ≤ recordLength.toNat) :
    decodeHandshake (data ++ extra) recordVersion recordLength =
      decodeHandshake data recordVersion recordLength := by
  have longer : tlsRecordHeaderLen + recordLength.toNat ≤ (data ++ extra).length := by
    rw [List.length_append]
    omega
  rw [decodeHandshake_eq recordVersion complete sized,
    decodeHandshake_eq recordVersion longer sized]
  have recordHeader : tlsRecordHeaderLen = 5 := rfl
  have handshakeHeader : tlsHandshakeHeaderLen = 4 := rfl
  have sameLength : handshakeLength (data ++ extra) = handshakeLength data := by
    rw [handshakeLength, byteAt_append_left extra (by omega), byteAt_append_left extra (by omega),
      byteAt_append_left extra (by omega)]
    rfl
  rw [byteAt_append_left extra (by omega), sameLength]
  by_cases beyond : handshakeLength data > recordLength.toNat - tlsHandshakeHeaderLen
  · rw [if_pos beyond, if_pos beyond]
  · rw [if_neg beyond, if_neg beyond, slice_of_append extra (by omega)]

/-- Once the record header is there, every verdict but `needMore` is final. -/
theorem appTlsDecodeClientHello_append (extra : List UInt8)
    (long : tlsRecordHeaderLen ≤ data.length)
    (decided : (appTlsDecodeClientHello data).1 ≠ .needMore) :
    appTlsDecodeClientHello (data ++ extra) = appTlsDecodeClientHello data := by
  have headerLength : tlsRecordHeaderLen = 5 := rfl
  have longer : tlsRecordHeaderLen ≤ (data ++ extra).length := by
    rw [List.length_append]
    omega
  have someBytes : ¬ data.length = 0 := by omega
  have someLonger : ¬ (data ++ extra).length = 0 := by omega
  unfold appTlsDecodeClientHello at decided ⊢
  rw [if_neg someBytes, if_neg (Nat.not_lt_of_le long), readRecordHeader_eq long] at decided ⊢
  rw [if_neg someLonger, if_neg (Nat.not_lt_of_le longer), readRecordHeader_eq longer,
    byteAt_append_left extra (by omega), readU16_append_left extra (by omega),
    readU16_append_left extra (by omega)]
  simp only at decided ⊢
  by_cases otherRecord : (decide (byteAt data 0 ≠ tlsRecordHandshake) ||
      decide (readU16 data 1 >>> 8 ≠ 0x03)) = true
  · rw [if_pos otherRecord, if_pos otherRecord]
  · rw [if_neg otherRecord] at decided ⊢
    rw [if_neg otherRecord]
    by_cases short : data.length < tlsRecordHeaderLen + (readU16 data 3).toNat
    · rw [if_pos short] at decided
      exact absurd rfl decided
    · rw [if_neg short] at decided ⊢
      rw [if_neg (by rw [List.length_append]; omega)]
      by_cases tiny : (readU16 data 3).toNat < tlsHandshakeHeaderLen
      · rw [if_pos tiny, if_pos tiny]
      · rw [if_neg tiny, if_neg tiny]
        apply decodeHandshake_append
        · omega
        · omega

theorem appTlsDecodeClientHello_ok_length (accepted : (appTlsDecodeClientHello data).1 = .ok) :
    tlsRecordHeaderLen ≤ data.length ∧ byteAt data 0 = tlsRecordHandshake := by
  unfold appTlsDecodeClientHello at accepted
  split_ifs at accepted with empty short
  have long : tlsRecordHeaderLen ≤ data.length := by omega
  rw [readRecordHeader_eq long] at accepted
  simp only at accepted
  split_ifs at accepted with otherRecord
  simp only [Bool.or_eq_true, decide_eq_true_eq, not_or, not_not] at otherRecord
  exact ⟨long, otherRecord.1⟩

end Tls

/-! ### DNS -/

section Dns

variable {data : List UInt8}

/-- A name that was read to its end is read the same whatever follows the bytes. -/
theorem parseDnsNameLoop_append (extra : List UInt8) {outSize passes cursor depth : Nat}
    {name : List UInt8} {resume : Option Nat} {parsed : List UInt8 × Nat}
    (read : parseDnsNameLoop data outSize passes cursor name resume depth = some parsed) :
    parseDnsNameLoop (data ++ extra) outSize passes cursor name resume depth = some parsed := by
  induction passes generalizing cursor name resume depth with
  | zero => contradiction
  | succ passes inductionHypothesis =>
      rw [parseDnsNameLoop] at read ⊢
      by_cases inside : cursor < data.length
      · have longer : data.length ≤ (data ++ extra).length := by
          rw [List.length_append]
          omega
        rw [if_pos inside] at read
        rw [if_pos (Nat.lt_of_lt_of_le inside longer), byteAt_append_left extra inside]
        simp only at read ⊢
        by_cases root : byteAt data cursor = 0
        · rw [if_pos root] at read ⊢
          exact read
        rw [if_neg root] at read ⊢
        by_cases pointer : byteAt data cursor &&& dnsPointerMask = dnsPointerValue
        · rw [if_pos pointer] at read ⊢
          split_ifs at read with refused outside
          simp only [Bool.or_eq_true, decide_eq_true_eq, not_or] at refused
          rw [if_neg (by simp only [Bool.or_eq_true, decide_eq_true_eq, not_or]; omega),
            byteAt_append_left extra (by omega), if_neg (by omega)]
          exact inductionHypothesis read
        rw [if_neg pointer] at read ⊢
        by_cases reserved : (decide (byteAt data cursor &&& dnsPointerMask ≠ 0) ||
            decide (byteAt data cursor > 63)) = true
        · rw [if_pos reserved] at read
          contradiction
        rw [if_neg reserved] at read ⊢
        by_cases short : cursor + 1 + (byteAt data cursor).toNat > data.length
        · rw [if_pos short] at read
          contradiction
        rw [if_neg short] at read
        rw [if_neg (by omega), slice_of_append extra (by omega)]
        cases appended : appendDnsLabel name
            ((data.drop (cursor + 1)).take (byteAt data cursor).toNat) outSize with
        | none =>
            rw [appended] at read
            contradiction
        | some more =>
            rw [appended] at read
            exact inductionHypothesis read
      · rw [if_neg inside] at read
        contradiction

theorem parseDnsName_append (extra : List UInt8) {offset outSize : Nat}
    {parsed : List UInt8 × Nat} (read : parseDnsName data offset outSize = some parsed) :
    parseDnsName (data ++ extra) offset outSize = some parsed := by
  rw [parseDnsName] at read ⊢
  split_ifs at read with refused
  simp only [Bool.or_eq_true, decide_eq_true_eq, not_or] at refused
  rw [if_neg (by simp only [Bool.or_eq_true, decide_eq_true_eq, List.length_append]; omega)]
  exact parseDnsNameLoop_append extra read

theorem parseFirstQuestion_append (extra : List UInt8) {out asked : AppInfo}
    (parsed : parseFirstQuestion data out = some asked) :
    parseFirstQuestion (data ++ extra) out = some asked := by
  unfold parseFirstQuestion at parsed ⊢
  cases read : parseDnsName data dnsHeaderLen minisnifferAppTextLen with
  | none =>
      rw [read] at parsed
      contradiction
  | some named =>
      rw [read] at parsed
      rw [parseDnsName_append extra read]
      simp only at parsed ⊢
      split at parsed
      · contradiction
      next queryType afterType readType =>
        rcases brReadU16Be_bound readType with ⟨typeInside, rfl, rfl⟩
        split at parsed
        · contradiction
        next queryClass afterClass readClass =>
          rcases brReadU16Be_bound readClass with ⟨classInside, rfl, -⟩
          have length : (data ++ extra).length = data.length + extra.length :=
            List.length_append
          rw [brReadU16Be_inside (by omega)]
          simp only
          rw [brReadU16Be_inside (by omega), readU16_append_left extra (by omega),
            readU16_append_left extra (by omega)]
          exact parsed

theorem readDnsHeader_eq (long : dnsHeaderLen ≤ data.length) :
    readDnsHeader data = some
      { transactionId := readU16 data 0
        flags := readU16 data 2
        qdcount := readU16 data 4
        ancount := readU16 data 6
        nscount := readU16 data 8
        arcount := readU16 data 10 } := by
  rw [dnsHeaderLen] at long
  unfold readDnsHeader brInit
  simp only [Option.bind_eq_bind, Option.pure_def,
    brReadU16Be_inside (show 0 + 2 ≤ data.length by omega),
    brReadU16Be_inside (show 0 + 2 + 2 ≤ data.length by omega),
    brReadU16Be_inside (show 0 + 2 + 2 + 2 ≤ data.length by omega),
    brReadU16Be_inside (show 0 + 2 + 2 + 2 + 2 ≤ data.length by omega),
    brReadU16Be_inside (show 0 + 2 + 2 + 2 + 2 + 2 ≤ data.length by omega),
    brReadU16Be_inside (show 0 + 2 + 2 + 2 + 2 + 2 + 2 ≤ data.length by omega),
    Option.bind_some]

theorem readDnsHeader_append (extra : List UInt8) (long : dnsHeaderLen ≤ data.length) :
    readDnsHeader (data ++ extra) = readDnsHeader data := by
  have header : dnsHeaderLen = 12 := rfl
  rw [readDnsHeader_eq (by rw [List.length_append]; omega), readDnsHeader_eq long,
    readU16_append_left extra (by omega), readU16_append_left extra (by omega),
    readU16_append_left extra (by omega), readU16_append_left extra (by omega),
    readU16_append_left extra (by omega), readU16_append_left extra (by omega)]

/-- An accepted message has a whole header and is decoded the same whatever follows it. -/
theorem decodeDnsMessageAs_append (extra : List UInt8) {protocol : AppProtocol}
    {label : List UInt8} (accepted : (decodeDnsMessageAs protocol label data).1 = .ok) :
    dnsHeaderLen ≤ data.length ∧
      decodeDnsMessageAs protocol label (data ++ extra) =
        decodeDnsMessageAs protocol label data := by
  unfold decodeDnsMessageAs at accepted ⊢
  split_ifs at accepted with empty short
  have long : dnsHeaderLen ≤ data.length := by omega
  have longer : (data ++ extra).length = data.length + extra.length := List.length_append
  rw [if_neg (by omega), if_neg (by omega), readDnsHeader_append extra long, if_neg empty,
    if_neg short]
  refine ⟨long, ?_⟩
  cases read : readDnsHeader data with
  | none => rfl
  | some header =>
      rw [read] at accepted
      simp only at accepted ⊢
      by_cases implausible : (!dnsHeaderIsPlausible header.qdcount header.ancount header.nscount
          header.arcount) = true
      · rw [if_pos implausible, if_pos implausible]
      rw [if_neg implausible] at accepted ⊢
      rw [if_neg implausible]
      by_cases asks : header.qdcount > 0
      · rw [if_pos asks] at accepted ⊢
        rw [if_pos asks]
        split at accepted
        · contradiction
        next asked parsed =>
          rw [parseFirstQuestion_append extra parsed]
      · rw [if_neg asks, if_neg asks]

/-- Every verdict on a frame but `needMore` is final. -/
theorem appDnsDecodeTcpFrame_append (extra : List UInt8) (someBytes : data ≠ [])
    (decided : (appDnsDecodeTcpFrame data).1 ≠ .needMore) :
    appDnsDecodeTcpFrame (data ++ extra) = appDnsDecodeTcpFrame data := by
  have longer : (data ++ extra).length = data.length + extra.length := List.length_append
  have notEmpty : ¬ data.length = 0 := by
    rw [List.length_eq_zero_iff]
    exact someBytes
  unfold appDnsDecodeTcpFrame at decided ⊢
  rw [if_neg notEmpty] at decided ⊢
  by_cases noFrame : data.length < 2
  · rw [if_pos noFrame] at decided
    exact absurd rfl decided
  rw [if_neg noFrame] at decided ⊢
  rw [if_neg (by omega), if_neg (by omega), readU16_append_left extra (by omega)]
  simp only at decided ⊢
  by_cases zero : readU16 data 0 = 0
  · rw [if_pos zero, if_pos zero]
  rw [if_neg zero] at decided ⊢
  by_cases short : data.length < 2 + (readU16 data 0).toNat
  · rw [if_pos short] at decided
    exact absurd rfl decided
  · rw [if_neg zero, if_neg (by omega), if_neg short, slice_of_append extra (by omega)]

theorem appDnsDecodeTcpFrame_append_of_ok (extra : List UInt8)
    (accepted : (appDnsDecodeTcpFrame data).1 = .ok) :
    appDnsDecodeTcpFrame (data ++ extra) = appDnsDecodeTcpFrame data := by
  apply appDnsDecodeTcpFrame_append extra
  · rintro rfl
    contradiction
  · rw [accepted]
    decide

end Dns

/-! ### Streams -/

section Streams

variable {data : List UInt8}

theorem appHttpDecode_append_of_ok (extra : List UInt8) (accepted : (appHttpDecode data).1 = .ok) :
    appHttpDecode (data ++ extra) = appHttpDecode data := by
  apply appHttpDecode_append extra (appHttpDecode_ok_length accepted)
  rw [accepted]
  decide

theorem appTlsDecodeClientHello_append_of_ok (extra : List UInt8)
    (accepted : (appTlsDecodeClientHello data).1 = .ok) :
    appTlsDecodeClientHello (data ++ extra) = appTlsDecodeClientHello data := by
  apply appTlsDecodeClientHello_append extra (appTlsDecodeClientHello_ok_length accepted).1
  rw [accepted]
  decide

/-- No HTTP message starts with the first byte of a handshake record. -/
theorem appHttpDecode_of_handshake (handshake : byteAt data 0 = tlsRecordHandshake) :
    (appHttpDecode data).1 = .noMatch := by
  have otherStarts : ∀ start ∈ ascii "HTTP/" :: httpMethods,
      start.head?.any (· ≠ tlsRecordHandshake) = true := by decide
  cases data with
  | nil => rfl
  | cons first rest =>
      have firstByte : first = tlsRecordHandshake := handshake
      have unlike : ∀ start ∈ ascii "HTTP/" :: httpMethods,
          startsWith (first :: rest) start = false ∧ (first :: rest).isPrefixOf start = false := by
        intro start member
        have other := otherStarts start member
        cases start with
        | nil => contradiction
        | cons letter letters =>
            have differs : letter ≠ first := by
              rw [firstByte]
              simpa using other
            simp only [startsWith, List.isPrefixOf, Bool.and_eq_false_iff, beq_eq_false_iff_ne]
            exact ⟨Or.inl differs, Or.inl differs.symm⟩
      have notHttp : looksLikeHttp (first :: rest) = false := by
        rw [looksLikeHttp, (unlike _ List.mem_cons_self).1, Bool.false_or, maybeHttpRequestPrefix,
          List.any_eq_false]
        intro method member
        have both := unlike method (List.mem_cons_of_mem _ member)
        rw [both.1, both.2]
        simp
      rw [appHttpDecode, if_neg (by simp), notHttp]
      rfl

/-- The sniffing order keeps an accepted stream with the decoder that accepted it. -/
theorem sniffBuffer_append (extra : List UInt8) (accepted : (sniffBuffer data).1 = .ok) :
    sniffBuffer (data ++ extra) = sniffBuffer data := by
  unfold sniffBuffer at accepted ⊢
  simp only at accepted ⊢
  by_cases http : (decide ((appHttpDecode data).1 = .ok) ||
      decide ((appHttpDecode data).1 = .needMore)) = true
  · rw [if_pos http] at accepted
    rw [appHttpDecode_append_of_ok extra accepted]
    rw [if_pos http, if_pos http]
  rw [if_neg http] at accepted ⊢
  simp only [Bool.or_eq_true, decide_eq_true_eq, not_or] at http
  by_cases tls : (decide ((appTlsDecodeClientHello data).1 = .ok) ||
      decide ((appTlsDecodeClientHello data).1 = .needMore)) = true
  · rw [if_pos tls] at accepted ⊢
    -- the first byte already rules HTTP out
    have handshake := appTlsDecodeClientHello_ok_length accepted
    have long : 0 < data.length := Nat.lt_of_lt_of_le (by decide) handshake.1
    have notHttp : (appHttpDecode (data ++ extra)).1 = .noMatch := by
      apply appHttpDecode_of_handshake
      rw [byteAt_append_left extra long]
      exact handshake.2
    rw [if_neg (by simp [notHttp]), appTlsDecodeClientHello_append_of_ok extra accepted,
      if_pos tls]
  rw [if_neg tls] at accepted ⊢
  simp only [Bool.or_eq_true, decide_eq_true_eq, not_or] at tls
  by_cases strong : dnsDecodeResultIsStrongMatch (appDnsDecodeMessage data) = true
  · rw [if_pos strong] at accepted ⊢
    -- a whole DNS header is long enough to settle HTTP and TLS
    rcases decodeDnsMessageAs_append extra accepted with ⟨long, dns⟩
    rw [dnsHeaderLen] at long
    have longRecord : tlsRecordHeaderLen ≤ data.length := Nat.le_trans (by decide) long
    have sameDns : appDnsDecodeMessage (data ++ extra) = appDnsDecodeMessage data := dns
    rw [appHttpDecode_append extra (by omega) http.2,
      appTlsDecodeClientHello_append extra longRecord tls.2, sameDns, if_neg (by simp [http]),
      if_neg (by simp [tls]), if_pos strong]
  · rw [if_neg strong] at accepted
    contradiction

theorem preferredResult_ok {decoded : AppDecodeResult × AppInfo} {preferred : AppProtocol}
    (accepted : (preferredResult decoded preferred).1 = .ok) :
    decoded.1 = .ok := by
  unfold preferredResult at accepted
  split_ifs at accepted
  exact accepted

/-- A stream whose decoder accepts it is decoded the same when more bytes arrive. -/
theorem appDecodeStream_append (packet : PacketInfo) (extra : List UInt8)
    (accepted : (appDecodeStream packet (some data)).1 = .ok) :
    appDecodeStream packet (some (data ++ extra)) = appDecodeStream packet (some data) := by
  have longer : (data ++ extra).length = data.length + extra.length := List.length_append
  unfold appDecodeStream at accepted ⊢
  simp only at accepted ⊢
  by_cases empty : data.length = 0
  · rw [if_pos empty] at accepted
    contradiction
  rw [if_neg empty] at accepted ⊢
  rw [if_neg (show ¬ (data ++ extra).length = 0 by omega)]
  split_ifs at accepted ⊢
  · rw [appHttpDecode_append_of_ok extra (preferredResult_ok accepted)]
  · rw [appTlsDecodeClientHello_append_of_ok extra (preferredResult_ok accepted)]
  · rw [appDnsDecodeTcpFrame_append_of_ok extra (preferredResult_ok accepted)]
  · simp only [appDecodeBuffer] at accepted ⊢
    rw [if_neg empty] at accepted ⊢
    rw [if_neg (show ¬ (data ++ extra).length = 0 by omega)]
    exact sniffBuffer_append extra accepted

end Streams

end MiniSniffer
