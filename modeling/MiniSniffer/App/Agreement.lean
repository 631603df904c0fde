import MiniSniffer.App.Metadata
import MiniSniffer.App.Verdicts

/-!
Contract: packet-local decoding against stream decoding of the same bytes.

Owns the comparison of `app_decode_packet` with `app_decode_stream` on a TCP packet that is decoded
whole. Ports that hint at a decoder settle both alike. Without a hint the packet has to start with
a signature before HTTP is tried and keeps every verdict of the decoder it chose, while a stream
keeps only acceptance and a wait for more; `SniffsApart` says where that matters. Where a method
ends with a space, as requests have it, it matters only for a DNS question in the bytes of a
malformed HTTP or TLS message.

Does not own the decoders.
-/

namespace MiniSniffer

open Foundation

/-- Two decoders accept together, and then with the same metadata. -/
def SameAcceptance (first second : AppDecodeResult × AppInfo) : Prop :=
  (first.1 = .ok ↔ second.1 = .ok) ∧ (first.1 = .ok → first.2 = second.2)

instance (first second : AppDecodeResult × AppInfo) : Decidable (SameAcceptance first second) :=
  inferInstanceAs (Decidable (_ ∧ _))

def DecodersAgree (packet : PacketInfo) (data : List UInt8) : Prop :=
  SameAcceptance (appDecodePacket packet) (appDecodeStream packet (some data))

instance (packet : PacketInfo) (data : List UInt8) : Decidable (DecodersAgree packet data) :=
  inferInstanceAs (Decidable (SameAcceptance _ _))

/-- The whole payload lies in the decode window. -/
structure DecodedWhole (packet : PacketInfo) (data : List UInt8) : Prop where
  isTcp : packet.protocol = .tcp
  hasPayload : packet.hasPayload = true
  payload : packet.payload ≠ none
  bytes : packet.payloadBytes = data
  window : packet.payloadDecodeLength = data.length
  someBytes : data ≠ []

/-- The ports choose a decoder for TCP. -/
def hintsTcp (packet : PacketInfo) : Bool :=
  hintsHttp packet || hintsTls packet || hintsDnsTcp packet

/-- HTTP without the space after its method, or a DNS question that stands behind what another
decoder made of the bytes: a malformed HTTP or TLS message for the packet, HTTP that is still
incomplete for the stream. -/
def SniffsApart (data : List UInt8) : Prop :=
  let http := (appHttpDecode data).1
  let isQuestion := dnsDecodeResultIsStrongMatch (appDnsDecodeMessage data) = true
  (payloadStartsWithHttp data = false ∧ http = .ok) ∨
    isQuestion ∧
      ((payloadStartsWithHttp data = true ∧ http = .malformed) ∨
        (payloadStartsWithHttp data = false ∧ http = .needMore) ∨
        (appTlsDecodeClientHello data).1 = .malformed)

instance (data : List UInt8) : Decidable (SniffsApart data) :=
  inferInstanceAs (Decidable (_ ∨ _))

/-- A method is followed by another byte than a space. -/
def methodRunsOn (data : List UInt8) : Bool :=
  httpMethods.any fun method =>
    startsWith data method && (data.drop method.length).head?.any (· ≠ 32)

/-- A DNS question in bytes that are malformed HTTP or TLS: the packet is left at that verdict, the
stream goes on to the question. -/
def QuestionBehindMalformed (data : List UInt8) : Prop :=
  dnsDecodeResultIsStrongMatch (appDnsDecodeMessage data) = true ∧
    ((appHttpDecode data).1 = .malformed ∨ (appTlsDecodeClientHello data).1 = .malformed)

instance (data : List UInt8) : Decidable (QuestionBehindMalformed data) :=
  inferInstanceAs (Decidable (_ ∧ _))

section Sniffing

variable {data : List UInt8}

/-! ### Signatures -/

theorem byteAt_of_startsWithTls (someBytes : data ≠ []) :
    payloadStartsWithTls data = true ↔ byteAt data 0 = tlsRecordHandshake := by
  cases data with
  | nil => contradiction
  | cons first rest => simp [payloadStartsWithTls, byteAt]

/-- Only a handshake record means anything to the TLS decoder. -/
theorem startsWithTls_of_tls (someBytes : data ≠ [])
    (tls : (appTlsDecodeClientHello data).1 ≠ .noMatch) : payloadStartsWithTls data = true := by
  rw [byteAt_of_startsWithTls someBytes]
  by_contra other
  exact tls (appTlsDecodeClientHello_otherRecord other)

theorem tls_of_http (http : (appHttpDecode data).1 ≠ .noMatch) :
    (appTlsDecodeClientHello data).1 = .noMatch := by
  apply appTlsDecodeClientHello_otherRecord
  intro handshake
  exact http (appHttpDecode_of_handshake handshake)

theorem decodeHttpBlock_matches (block : List UInt8) : (decodeHttpBlock block).1 ≠ .noMatch := by
  unfold decodeHttpBlock
  split
  · decide
  · dsimp only
    split <;> simp

/-- The signatures are those of whole methods with a space, and of a status line. -/
theorem http_of_startsWithHttp (starts : payloadStartsWithHttp data = true) :
    (appHttpDecode data).1 ≠ .noMatch := by
  have signatures : ∀ signature ∈ httpPrefixes, signature ≠ [] ∧ (signature = ascii "HTTP/" ∨
      ∃ method ∈ httpMethods, method <+: signature) := by decide
  obtain ⟨signature, member, begins⟩ := List.any_eq_true.mp starts
  obtain ⟨nonempty, kind⟩ := signatures signature member
  have inData : signature <+: data := List.isPrefixOf_iff_prefix.mp begins
  have someBytes : data ≠ [] := by
    rintro rfl
    exact nonempty (List.prefix_nil.mp inData)
  have looks : looksLikeHttp data = true := by
    rw [looksLikeHttp, Bool.or_eq_true]
    rcases kind with rfl | ⟨method, known, head⟩
    · exact Or.inl begins
    · exact Or.inr
        (maybeHttpRequestPrefix_of_comparable known someBytes (Or.inl (head.trans inData)))
  unfold appHttpDecode
  rw [if_neg (by simpa using someBytes), looks]
  simp only [Bool.not_true, Bool.false_eq_true, if_false]
  split
  · simp
  · exact decodeHttpBlock_matches _

theorem protocol_of_http (accepted : (appHttpDecode data).1 = .ok) :
    (appHttpDecode data).2.protocol = .http := by
  have clean := appHttpDecode_clean data
  rw [LeavesClean, if_pos accepted] at clean
  obtain ⟨protocol, member, belongs⟩ := clean
  rw [List.mem_singleton.mp member] at belongs
  rw [← belongs]
  rfl

theorem strongMatch_ok {decoded : AppDecodeResult × AppInfo}
    (strong : dnsDecodeResultIsStrongMatch decoded = true) :
    decoded.1 = .ok ∧ decoded.2.protocol = .dns := by
  simp only [dnsDecodeResultIsStrongMatch, Bool.and_eq_true, decide_eq_true_eq] at strong
  exact strong.1.1

/-! ### Unhinted bytes -/

/-- What is left to the end of both orders: a question, or nothing. -/
def sniffQuestion (data : List UInt8) : AppDecodeResult × AppInfo :=
  if dnsDecodeResultIsStrongMatch (appDnsDecodeMessage data) then appDnsDecodeMessage data
  else (.noMatch, {})

theorem sniffQuestion_ok :
    (sniffQuestion data).1 = .ok ↔
      dnsDecodeResultIsStrongMatch (appDnsDecodeMessage data) = true := by
  unfold sniffQuestion
  split_ifs with strong
  · exact iff_of_true (strongMatch_ok strong).1 strong
  · exact iff_of_false (by simp) strong

theorem sniffPacket_eq (someBytes : data ≠ []) :
    sniffPacket data =
      if payloadStartsWithHttp data then appHttpDecode data
      else if (appTlsDecodeClientHello data).1 ≠ .noMatch then appTlsDecodeClientHello data
      else sniffQuestion data := by
  unfold sniffPacket
  dsimp only
  by_cases starts : payloadStartsWithHttp data = true
  · rw [if_pos starts, if_pos (by simp [starts, http_of_startsWithHttp starts])]
  · rw [if_neg starts, if_neg (by simp [starts])]
    by_cases tls : (appTlsDecodeClientHello data).1 ≠ .noMatch
    · rw [if_pos tls, if_pos (by simp [startsWithTls_of_tls someBytes tls, tls])]
    · rw [if_neg tls, if_neg (by simp [not_not.mp tls])]
      rfl

theorem sameAcceptance_refl (decoded : AppDecodeResult × AppInfo) :
    SameAcceptance decoded decoded := ⟨Iff.rfl, fun _ => rfl⟩

theorem sameAcceptance_of_refused {first second : AppDecodeResult × AppInfo}
    (firstRefused : first.1 ≠ .ok) (secondRefused : second.1 ≠ .ok) :
    SameAcceptance first second :=
  ⟨iff_of_false firstRefused secondRefused, fun accepted => absurd accepted firstRefused⟩

/-- Against a refusal only a refusal agrees. -/
theorem sameAcceptance_refused_left {first second : AppDecodeResult × AppInfo}
    (refused : first.1 ≠ .ok) : SameAcceptance first second ↔ second.1 ≠ .ok :=
  ⟨fun same accepted => refused (same.1.mpr accepted), sameAcceptance_of_refused refused⟩

theorem sameAcceptance_comm {first second : AppDecodeResult × AppInfo} :
    SameAcceptance first second ↔ SameAcceptance second first := by
  have swap : ∀ first second : AppDecodeResult × AppInfo,
      SameAcceptance first second → SameAcceptance second first :=
    fun first second same =>
      ⟨same.1.symm, fun accepted => (same.2 (same.1.mpr accepted)).symm⟩
  exact ⟨swap first second, swap second first⟩

/-- The two orders over all verdicts. -/
theorem sniff_agree_iff (someBytes : data ≠ []) :
    SameAcceptance (sniffPacket data) (sniffBuffer data) ↔ ¬ SniffsApart data := by
  rw [sniffPacket_eq someBytes]
  have buffered : sniffBuffer data =
      if (appHttpDecode data).1 = .ok || (appHttpDecode data).1 = .needMore then appHttpDecode data
      else if (appTlsDecodeClientHello data).1 = .ok ||
          (appTlsDecodeClientHello data).1 = .needMore then appTlsDecodeClientHello data
      else sniffQuestion data := rfl
  rw [buffered]
  unfold SniffsApart
  dsimp only
  by_cases starts : payloadStartsWithHttp data = true
  · have matched := http_of_startsWithHttp starts
    have noTls := tls_of_http matched
    rw [if_pos starts]
    cases http : (appHttpDecode data).1 with
    | noMatch => exact absurd http matched
    | ok => simpa [starts, noTls] using sameAcceptance_refl (appHttpDecode data)
    | needMore => simpa [starts, noTls] using sameAcceptance_refl (appHttpDecode data)
    | malformed =>
        -- the packet keeps the refusal, the stream goes on to DNS
        have refused : (appHttpDecode data).1 ≠ .ok := by simp [http]
        simp only [noTls, starts]
        rw [if_neg (by simp), if_neg (by simp), sameAcceptance_refused_left refused, Ne,
          sniffQuestion_ok]
        simp
  · rw [if_neg starts]
    rw [Bool.not_eq_true] at starts
    cases http : (appHttpDecode data).1 with
    | ok =>
        -- only the stream tries HTTP
        have noTls : (appTlsDecodeClientHello data).1 = .noMatch := tls_of_http (by simp [http])
        simp only [noTls, starts]
        rw [if_neg (by simp), if_pos (by simp)]
        refine iff_of_false ?_ (by simp)
        rintro ⟨together, same⟩
        have question := together.mpr http
        have isDns := (strongMatch_ok (sniffQuestion_ok.mp question)).2
        have sameApp := same question
        rw [sniffQuestion, if_pos (sniffQuestion_ok.mp question)] at sameApp
        rw [sameApp, protocol_of_http http] at isDns
        contradiction
    | needMore =>
        have noTls : (appTlsDecodeClientHello data).1 = .noMatch := tls_of_http (by simp [http])
        have refused : (appHttpDecode data).1 ≠ .ok := by simp [http]
        simp only [noTls, starts]
        rw [if_neg (by simp), if_pos (by simp), sameAcceptance_comm,
          sameAcceptance_refused_left refused, Ne, sniffQuestion_ok]
        simp
    | malformed =>
        have noTls : (appTlsDecodeClientHello data).1 = .noMatch := tls_of_http (by simp [http])
        simp only [noTls, starts]
        rw [if_neg (by simp), if_neg (by simp), if_neg (by simp)]
        simpa using sameAcceptance_refl (sniffQuestion data)
    | noMatch =>
        cases tls : (appTlsDecodeClientHello data).1 with
        | ok => simpa [starts] using sameAcceptance_refl (appTlsDecodeClientHello data)
        | needMore => simpa [starts] using sameAcceptance_refl (appTlsDecodeClientHello data)
        | noMatch => simpa [starts] using sameAcceptance_refl (sniffQuestion data)
        | malformed =>
            have refused : (appTlsDecodeClientHello data).1 ≠ .ok := by simp [tls]
            simp only [starts]
            rw [if_pos (by simp), if_neg (by simp), if_neg (by simp),
              sameAcceptance_refused_left refused, Ne, sniffQuestion_ok]
            simp

/-! ### Methods that end -/

/-- Bytes that look like HTTP without its signature are no more than the head of a method. -/
theorem head_of_unsigned (unsigned : payloadStartsWithHttp data = false)
    (ends : methodRunsOn data = false) (looks : looksLikeHttp data = true) :
    ∃ method ∈ httpMethods, data <+: method := by
  have signed : ∀ signature ∈ httpPrefixes, ¬ signature <+: data := by
    intro signature member begins
    have refused := List.any_eq_false.mp unsigned signature member
    exact refused (List.isPrefixOf_iff_prefix.mpr begins)
  have spaced : ∀ method ∈ httpMethods, method ++ [32] ∈ httpPrefixes := by decide
  rw [looksLikeHttp, Bool.or_eq_true] at looks
  rcases looks with status | request
  · exact absurd (List.isPrefixOf_iff_prefix.mp status) (signed _ (by decide))
  · rw [maybeHttpRequestPrefix, List.any_eq_true] at request
    obtain ⟨method, known, matched⟩ := request
    refine ⟨method, known, ?_⟩
    rcases Bool.or_eq_true_iff.mp matched with whole | head
    · obtain ⟨rest, rfl⟩ := List.isPrefixOf_iff_prefix.mp whole
      cases rest with
      | nil => rw [List.append_nil]
      | cons byte rest =>
          have next : byte = 32 := by
            have stops := List.any_eq_false.mp ends method known
            simpa [whole] using stops
          exact absurd ⟨rest, by simp [next]⟩ (signed _ (spaced method known))
    · exact List.isPrefixOf_iff_prefix.mp (Bool.and_eq_true_iff.mp head).2

/-- What the head of a method tells is too little for HTTP and for DNS. -/
theorem undecided_of_head {method : List UInt8} (known : method ∈ httpMethods)
    (head : data <+: method) :
    dnsDecodeResultIsStrongMatch (appDnsDecodeMessage data) = false ∧
      (appHttpDecode data).1 ≠ .ok ∧ (appHttpDecode data).1 ≠ .malformed := by
  have small : ∀ method ∈ httpMethods, method.length < dnsHeaderLen ∧ (13 : UInt8) ∉ method := by
    decide
  obtain ⟨short, noReturn⟩ := small method known
  constructor
  · rw [Bool.eq_false_iff]
    intro strong
    have accepted := (strongMatch_ok strong).1
    by_cases empty : data = []
    · subst empty
      exact absurd accepted (by decide)
    · have waits := (decodeDnsMessageAs_needMore_iff .dns (ascii "DNS")).mpr
        ⟨empty, head.length_le.trans_lt short⟩
      rw [appDnsDecodeMessage, waits] at accepted
      contradiction
  · have unended : findHeaderEnd data = none := by
      rw [findHeaderEnd, Option.map_eq_none_iff, firstMatch_eq_none_iff (by decide)]
      intro blank
      exact noReturn (head.subset (blank.subset (by decide)))
    unfold appHttpDecode
    rw [unended]
    split_ifs <;> exact ⟨AppDecodeResult.noConfusion, AppDecodeResult.noConfusion⟩

/-- Where a method ends with a space, the signature is what the HTTP decoder looks for. -/
theorem sniffsApart_iff (ends : methodRunsOn data = false) :
    SniffsApart data ↔ QuestionBehindMalformed data := by
  unfold SniffsApart QuestionBehindMalformed
  cases starts : payloadStartsWithHttp data with
  | true => simp
  | false =>
      cases looks : looksLikeHttp data with
      | false =>
          have refused : (appHttpDecode data).1 = .noMatch := by
            rw [appHttpDecode, looks, Bool.not_false, if_pos rfl, ite_self]
          simp [refused]
      | true =>
          obtain ⟨method, known, head⟩ := head_of_unsigned starts ends looks
          obtain ⟨noQuestion, unaccepted, -⟩ := undecided_of_head known head
          simp [noQuestion, unaccepted]

/-! ### Packets -/

variable {packet : PacketInfo}

theorem DecodedWhole.readable (whole : DecodedWhole packet data) :
    ¬ (!packet.hasPayload || packet.payload = none || packet.payloadDecodeLength = 0) = true := by
  have positive := List.length_pos_iff.mpr whole.someBytes
  simp [whole.hasPayload, whole.payload, whole.window, Nat.pos_iff_ne_zero.mp positive]

theorem DecodedWhole.decodeWindow_eq (whole : DecodedWhole packet data) :
    packet.decodeWindow = data := by
  rw [PacketInfo.decodeWindow, whole.bytes, whole.window, List.take_length]

theorem appDecodeStream_sniffed (packet : PacketInfo) (someBytes : data ≠ [])
    (unhinted : hintsTcp packet = false) :
    appDecodeStream packet (some data) = sniffBuffer data := by
  have nonempty : ¬ data.length = 0 := by
    rw [List.length_eq_zero_iff]
    exact someBytes
  simp only [hintsTcp, Bool.or_eq_false_iff] at unhinted
  simp only [appDecodeStream, if_neg nonempty, unhinted, Bool.false_eq_true, if_false,
    appDecodeBuffer]

/-- A hint chooses the same decoder for the packet and for the stream. -/
theorem appDecodePacket_whole (whole : DecodedWhole packet data) :
    appDecodePacket packet =
      if hintsTcp packet then appDecodeStream packet (some data) else sniffPacket data := by
  have nonempty : ¬ data.length = 0 := by
    rw [List.length_eq_zero_iff]
    exact whole.someBytes
  unfold appDecodePacket appDecodeStream hintsTcp
  rw [if_neg whole.readable, whole.decodeWindow_eq]
  simp only [whole.isTcp, nonempty, if_false]
  cases hintsHttp packet <;> cases hintsTls packet <;> cases hintsDnsTcp packet <;> simp

/-- A TCP packet decoded whole is accepted as a stream of its payload is, with the same metadata,
exactly if its ports hint at a decoder or no sniffing order sets the two apart. -/
theorem decodersAgree_iff (whole : DecodedWhole packet data) :
    DecodersAgree packet data ↔ hintsTcp packet = true ∨ ¬ SniffsApart data := by
  have decoded := appDecodePacket_whole whole
  show SameAcceptance (appDecodePacket packet) (appDecodeStream packet (some data)) ↔ _
  cases hinted : hintsTcp packet with
  | true =>
      rw [decoded, hinted, if_pos rfl]
      exact iff_of_true (sameAcceptance_refl _) (Or.inl rfl)
  | false =>
      rw [decoded, hinted, if_neg (by simp),
        appDecodeStream_sniffed packet whole.someBytes hinted, sniff_agree_iff whole.someBytes]
      simp

/-- With a hinted port the packet and the stream are decoded alike; without one, and where a method
ends with a space, they are unless a question stands behind a malformed message. -/
theorem packet_agrees_with_stream (whole : DecodedWhole packet data) :
    (hintsTcp packet = true → DecodersAgree packet data) ∧
      (hintsTcp packet = false → methodRunsOn data = false →
        (DecodersAgree packet data ↔ ¬ QuestionBehindMalformed data)) := by
  refine ⟨fun hinted => (decodersAgree_iff whole).mpr (Or.inl hinted), ?_⟩
  intro unhinted ends
  rw [decodersAgree_iff whole, sniffsApart_iff ends, unhinted]
  simp

/-- A TCP packet between ports that no decoder is hinted by. -/
def sampleTcpPacket (data : List UInt8) : PacketInfo where
  srcPort := 4000
  dstPort := 9999
  protocol := .tcp
  hasPorts := true
  hasPayload := true
  payload := some { offset := 54, bytes := data }
  payloadDecodeLength := data.length

/-- A request that both accept. -/
theorem packet_agrees_with_stream_sampleRequest :
    DecodersAgree (sampleTcpPacket (ascii "GET / HTTP/1.1\r\n\r\n"))
      (ascii "GET / HTTP/1.1\r\n\r\n") :=
  ((packet_agrees_with_stream ⟨rfl, rfl, by decide, rfl, rfl, by decide⟩).2 (by decide)
    (by decide)).mpr (by decide +kernel)

/-- The question for `foo`; its first bytes are also a handshake record that is too short. -/
def recordLikeQuestion : List UInt8 :=
  [0x16, 3, 1, 0, 0, 1, 0, 0, 0, 0, 0, 0, 3, 102, 111, 111, 0, 0, 1, 0, 1]

/-- The packet is left at malformed TLS, where the stream finds the question. -/
theorem packet_disagrees_with_stream :
    DecodedWhole (sampleTcpPacket recordLikeQuestion) recordLikeQuestion ∧
      methodRunsOn recordLikeQuestion = false ∧
      (appDecodePacket (sampleTcpPacket recordLikeQuestion)).1 = .malformed ∧
      (appDecodeStream (sampleTcpPacket recordLikeQuestion) (some recordLikeQuestion)).1 = .ok ∧
      ¬ DecodersAgree (sampleTcpPacket recordLikeQuestion) recordLikeQuestion :=
  ⟨⟨rfl, rfl, by decide, rfl, rfl, by decide⟩, by decide +kernel⟩

end Sniffing

end MiniSniffer
