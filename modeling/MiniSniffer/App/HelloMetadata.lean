import MiniSniffer.App.ClientHello
import MiniSniffer.Foundation.Separated

/-!
Contract: what a decoded ClientHello leaves in the metadata.

Owns the server name and the protocol list that the extensions leave. The first host name is kept,
cut to its array. The protocol names are joined by commas and cut to theirs, and a name that finds
the array full fails the message. On names without NUL bytes both are stated on the message itself;
with them, what a reader of the stored list sees is.

Does not own the display filters that read the list: see `App.AlpnFilter`.
-/

namespace MiniSniffer

open Foundation

/-! ### Server names -/

/-- The stored name after one more entry. -/
def keepSni (sni : List UInt8) (entry : ServerName) : List UInt8 :=
  if entry.nameType = 0 && cString sni = [] then copyText minisnifferAppTextLen entry.name else sni

/-- The first host name of a message; empty without one. -/
def ClientHello.hostName (hello : ClientHello) : List UInt8 :=
  ((hello.serverNames.find? fun entry => entry.nameType = 0).map ServerName.name).getD []

section ServerNames

variable {names : List ServerName}

theorem foldl_keepServerName (names : List ServerName) (out : AppInfo) :
    names.foldl keepServerName out = { out with tlsSni := names.foldl keepSni out.tlsSni } := by
  induction names generalizing out with
  | nil => rfl
  | cons entry names inductionHypothesis =>
      have kept : keepServerName out entry = { out with tlsSni := keepSni out.tlsSni entry } := by
        rw [keepServerName, keepSni]
        split <;> rfl
      rw [List.foldl_cons, List.foldl_cons, kept, inductionHypothesis]

theorem foldl_keepSni_kept {sni : List UInt8} (kept : cString sni ≠ []) :
    names.foldl keepSni sni = sni := by
  induction names with
  | nil => rfl
  | cons entry names inductionHypothesis =>
      have same : keepSni sni entry = sni := by
        rw [keepSni, if_neg (by simp [kept])]
      rw [List.foldl_cons, same, inductionHypothesis]

theorem foldl_keepSni (sized : ∀ entry ∈ names, entry.Sized)
    (nulFree : ∀ entry ∈ names, entry.nameType = 0 → 0 ∉ entry.name) :
    names.foldl keepSni [] =
      (((names.find? fun entry => entry.nameType = 0).map ServerName.name).getD []).take 255 := by
  induction names with
  | nil => rfl
  | cons entry names inductionHypothesis =>
      rw [List.foldl_cons, List.find?_cons]
      by_cases host : entry.nameType = 0
      · have kept : keepSni [] entry = entry.name.take 255 := by
          rw [keepSni, if_pos (by simp [host, cString])]
          rfl
        have visible : cString (entry.name.take 255) ≠ [] := by
          rw [cString_take, cString_of_nulFree (nulFree entry List.mem_cons_self host)]
          simpa using (sized entry List.mem_cons_self).1
        rw [kept, foldl_keepSni_kept visible]
        simp [host]
      · have skipped : keepSni [] entry = [] := by
          rw [keepSni, if_neg (by simp [host])]
        rw [skipped, inductionHypothesis
          (fun other member => sized other (List.mem_cons_of_mem _ member))
          (fun other member => nulFree other (List.mem_cons_of_mem _ member))]
        simp [host]

end ServerNames

/-! ### Protocol names -/

/-- The stored list after more names. -/
def appendProtocols (alpn : List UInt8) (protocols : List (List UInt8)) : Option (List UInt8) :=
  protocols.foldlM (fun alpn protocol => appendAlpn alpn minisnifferTlsAlpnLen protocol) alpn

/-- What a reader sees of protocol names joined by commas: of each the bytes before a NUL, and no
comma before the first that shows a byte. -/
def alpnText (protocols : List (List UInt8)) : List UInt8 :=
  (protocols.map cString).foldl (joinWith (ascii ",")) []

section Protocols

variable {protocols : List (List UInt8)} {alpn protocol final : List UInt8}

theorem foldlM_keepProtocol (protocols : List (List UInt8)) (out : AppInfo) :
    protocols.foldlM keepProtocol out =
      (appendProtocols out.tlsAlpn protocols).map fun alpn => { out with tlsAlpn := alpn } := by
  induction protocols generalizing out with
  | nil => rfl
  | cons protocol protocols inductionHypothesis =>
      have kept : keepProtocol out protocol =
          (appendAlpn out.tlsAlpn minisnifferTlsAlpnLen protocol).map fun alpn =>
            { out with tlsAlpn := alpn } := rfl
      rw [List.foldlM_cons, kept, appendProtocols, List.foldlM_cons]
      cases appendAlpn out.tlsAlpn minisnifferTlsAlpnLen protocol with
      | none => rfl
      | some alpn => exact inductionHypothesis { out with tlsAlpn := alpn }

theorem appendProtocols_append (alpn : List UInt8) (protocols more : List (List UInt8)) :
    appendProtocols alpn (protocols ++ more) =
      (appendProtocols alpn protocols).bind fun between => appendProtocols between more :=
  List.foldlM_append

/-- One more name: refused when the comma finds no room, else cut to the room that is left. -/
theorem appendAlpn_eq (alpn protocol : List UInt8) :
    appendAlpn alpn minisnifferTlsAlpnLen protocol =
      if (cString alpn).length ≤ 254 then
        some ((joinWith (ascii ",") (cString alpn) protocol).take 255)
      else none := by
  have comma : (ascii ",").length = 1 := rfl
  have size : minisnifferTlsAlpnLen = 256 := rfl
  rw [appendAlpn, size]
  dsimp only
  by_cases empty : cString alpn = []
  · rw [empty, if_neg (by simp), if_pos (by simp)]
    rfl
  · have positive := List.length_pos_iff.mpr empty
    rw [if_pos (by omega), joinWith_of_ne_nil empty]
    by_cases full : (cString alpn).length + 1 ≥ 256
    · rw [if_pos full, if_neg (by omega)]
    · have separated : (cString alpn ++ ascii ",").length = (cString alpn).length + 1 := by
        rw [List.length_append, comma]
      rw [if_neg full, if_pos (by omega), List.take_append,
        List.take_of_length_le (l := cString alpn ++ ascii ",") (by omega)]
      congr 3
      omega

theorem cString_joinWith {text : List UInt8} (nulFree : 0 ∉ text) (piece : List UInt8) :
    cString (joinWith (ascii ",") text piece) = joinWith (ascii ",") text (cString piece) := by
  by_cases empty : text = []
  · rw [empty, joinWith_nil, joinWith_nil]
  · have separated : 0 ∉ text ++ ascii "," := by
      rw [List.mem_append, not_or]
      exact ⟨nulFree, by decide⟩
    rw [joinWith_of_ne_nil empty, joinWith_of_ne_nil empty, cString_append separated]

theorem alpnText_concat (protocols : List (List UInt8)) (protocol : List UInt8) :
    alpnText (protocols ++ [protocol]) =
      joinWith (ascii ",") (alpnText protocols) (cString protocol) := by
  rw [alpnText, List.map_append, List.foldl_append]
  rfl

theorem zero_not_mem_alpnText (protocols : List (List UInt8)) : 0 ∉ alpnText protocols := by
  induction protocols using List.reverseRecOn with
  | nil => exact List.not_mem_nil
  | append_singleton protocols protocol inductionHypothesis =>
      rw [alpnText_concat, ← cString_joinWith inductionHypothesis]
      exact zero_not_mem_cString _

theorem length_alpnText_dropLast (protocols : List (List UInt8)) :
    (alpnText protocols.dropLast).length ≤ (alpnText protocols).length := by
  cases protocols using List.reverseRecOn with
  | nil => exact le_rfl
  | append_singleton protocols protocol =>
      rw [List.dropLast_concat, alpnText_concat]
      exact length_foldl_joinWith _ _ [cString protocol]

/-- The stored list: names are refused from the first that finds the text of those before it
filling the array; else what is seen of the list is their text, cut to the array. -/
theorem appendProtocols_eq (protocols : List (List UInt8)) :
    if (alpnText protocols.dropLast).length ≤ 254 then
      ∃ alpn, appendProtocols [] protocols = some alpn ∧
        cString alpn = (alpnText protocols).take 255
    else appendProtocols [] protocols = none := by
  induction protocols using List.reverseRecOn with
  | nil =>
      rw [if_pos (by decide)]
      exact ⟨[], rfl, rfl⟩
  | append_singleton protocols protocol inductionHypothesis =>
      have shorter := length_alpnText_dropLast protocols
      rw [List.dropLast_concat, appendProtocols_append]
      by_cases earlier : (alpnText protocols.dropLast).length ≤ 254
      · rw [if_pos earlier] at inductionHypothesis
        obtain ⟨alpn, appended, seen⟩ := inductionHypothesis
        have last : appendProtocols alpn [protocol] =
            appendAlpn alpn minisnifferTlsAlpnLen protocol := by
          rw [appendProtocols, List.foldlM_cons]
          exact Option.bind_fun_some _
        rw [appended, Option.bind_some, last, appendAlpn_eq, seen, List.length_take]
        by_cases room : (alpnText protocols).length ≤ 254
        · have whole : (alpnText protocols).take 255 = alpnText protocols :=
            List.take_of_length_le (by omega)
          rw [if_pos room, if_pos (by omega), whole]
          refine ⟨_, rfl, ?_⟩
          rw [cString_take, cString_joinWith (zero_not_mem_alpnText protocols), alpnText_concat]
        · rw [if_neg room, if_neg (by omega)]
      · rw [if_neg earlier] at inductionHypothesis
        rw [if_neg (by omega), inductionHypothesis]
        rfl

/-- On names without NUL bytes what is stored is what is seen. -/
theorem appendProtocols_nulFree (nulFree : ∀ protocol ∈ protocols, 0 ∉ protocol)
    (appended : appendProtocols [] protocols = some alpn) : 0 ∉ alpn := by
  cases protocols using List.reverseRecOn with
  | nil =>
      obtain rfl := Option.some.inj appended
      exact List.not_mem_nil
  | append_singleton protocols protocol =>
      rw [appendProtocols_append] at appended
      obtain ⟨between, _, last⟩ := Option.bind_eq_some_iff.mp appended
      rw [appendProtocols, List.foldlM_cons, appendAlpn_eq] at last
      split_ifs at last with room
      · obtain rfl := Option.some.inj last
        have plain : 0 ∉ protocol := nulFree protocol (by simp)
        have seen := cString_joinWith (zero_not_mem_cString between) protocol
        rw [cString_of_nulFree plain] at seen
        intro zero
        exact zero_not_mem_cString _ (seen ▸ List.mem_of_mem_take zero)
      · contradiction

/-- Names without NUL bytes are shown as they are, from the first on. -/
theorem shown_nulFree (sized : ∀ protocol ∈ protocols, ProtocolSized protocol)
    (nulFree : ∀ protocol ∈ protocols, 0 ∉ protocol) :
    (protocols.map cString).dropWhile List.isEmpty = protocols := by
  have seen : protocols.map cString = protocols :=
    (List.map_congr_left fun protocol member => cString_of_nulFree (nulFree protocol member)).trans
      (List.map_id _)
  rw [seen]
  cases protocols with
  | nil => rfl
  | cons protocol protocols =>
      rw [List.dropWhile_cons, if_neg (by simpa using (sized protocol List.mem_cons_self).1)]

theorem alpnText_nulFree (sized : ∀ protocol ∈ protocols, ProtocolSized protocol)
    (nulFree : ∀ protocol ∈ protocols, 0 ∉ protocol) :
    alpnText protocols = (ascii ",").intercalate protocols := by
  rw [alpnText, foldl_joinWith, shown_nulFree sized nulFree]

end Protocols

/-! ### Messages -/

/-- The server name and the protocol list are kept apart from each other. -/
theorem foldlM_keepExtension (extensions : List HelloExtension) (out : AppInfo) :
    extensions.foldlM keepExtension out =
      (appendProtocols out.tlsAlpn (extensions.flatMap HelloExtension.protocols)).map fun alpn =>
        { out with
          tlsSni := (extensions.flatMap HelloExtension.serverNames).foldl keepSni out.tlsSni
          tlsAlpn := alpn } := by
  induction extensions generalizing out with
  | nil => rfl
  | cons extension extensions inductionHypothesis =>
      rw [List.foldlM_cons, List.flatMap_cons, List.flatMap_cons]
      cases extension with
      | serverName names =>
          rw [keepExtension, foldl_keepServerName, List.foldl_append]
          exact inductionHypothesis _
      | alpn protocols =>
          rw [keepExtension, foldlM_keepProtocol, HelloExtension.protocols, appendProtocols_append]
          cases appendProtocols out.tlsAlpn protocols with
          | none => rfl
          | some alpn => exact inductionHypothesis _
      | other extensionType content => exact inductionHypothesis out

theorem HelloRecord.kept_eq (record : HelloRecord) :
    record.kept = (appendProtocols [] record.hello.protocols).map fun alpn =>
      { record.base with
        tlsSni := record.hello.serverNames.foldl keepSni []
        tlsAlpn := alpn } :=
  foldlM_keepExtension _ record.base

namespace ClientHello

variable {hello : ClientHello}

theorem Sized.extension (sized : hello.Sized) {extension : HelloExtension}
    (present : extension ∈ hello.extensions.getD []) : extension.Sized := by
  cases block : hello.extensions with
  | none =>
      rw [block] at present
      exact absurd present List.not_mem_nil
  | some extensions =>
      rw [block] at present
      exact (sized.extensions extensions block).each extension present

theorem Sized.serverNames (sized : hello.Sized) : ∀ entry ∈ hello.serverNames, entry.Sized := by
  intro entry member
  obtain ⟨extension, present, inside⟩ := List.mem_flatMap.mp member
  have each := (sized.extension present).entries
  cases extension with
  | serverName names => exact each entry inside
  | alpn protocols => exact absurd inside List.not_mem_nil
  | other extensionType content => exact absurd inside List.not_mem_nil

theorem Sized.protocols (sized : hello.Sized) :
    ∀ protocol ∈ hello.protocols, ProtocolSized protocol := by
  intro protocol member
  obtain ⟨extension, present, inside⟩ := List.mem_flatMap.mp member
  have each := (sized.extension present).entries
  cases extension with
  | serverName names => exact absurd inside List.not_mem_nil
  | alpn protocols => exact each protocol inside
  | other extensionType content => exact absurd inside List.not_mem_nil

/-- Names as host and protocol names are written. -/
structure NulFree (hello : ClientHello) : Prop where
  hostNames : ∀ entry ∈ hello.serverNames, entry.nameType = 0 → 0 ∉ entry.name
  protocols : ∀ protocol ∈ hello.protocols, 0 ∉ protocol

/-- The protocol names joined by commas. -/
def protocolText (hello : ClientHello) : List UInt8 := (ascii ",").intercalate hello.protocols

/-- What the array has room for: the names before the last, with their commas, leave room for one
more comma. -/
def ProtocolsFit (hello : ClientHello) : Prop :=
  ((ascii ",").intercalate hello.protocols.dropLast).length ≤ 254

instance (hello : ClientHello) : Decidable hello.ProtocolsFit :=
  inferInstanceAs (Decidable (_ ≤ _))

end ClientHello

/-- The metadata of a decoded message. -/
def HelloRecord.metadata (record : HelloRecord) : AppInfo :=
  { record.base with
    tlsSni := record.hello.hostName.take 255
    tlsAlpn := record.hello.protocolText.take 255
    summary := helloSummary (record.hello.hostName.take 255) (record.hello.protocolText.take 255) }

/-- A well-formed ClientHello, followed by any bytes, is decoded with its version, its first host
name and its protocol names, when there is room for them; else it is refused. -/
theorem clientHello_decoded (record : HelloRecord) (nulFree : record.hello.NulFree)
    (following : List UInt8) :
    appTlsDecodeClientHello (record.wire ++ following) =
      if record.hello.ProtocolsFit then (.ok, record.metadata) else (.malformed, {}) := by
  have protocolsSized := record.sized.protocols
  have sni := foldl_keepSni record.sized.serverNames nulFree.hostNames
  have text := alpnText_nulFree protocolsSized nulFree.protocols
  have front := alpnText_nulFree
    (fun protocol member => protocolsSized protocol (List.mem_of_mem_dropLast member))
    (fun protocol member => nulFree.protocols protocol (List.mem_of_mem_dropLast member))
  have appended := appendProtocols_eq record.hello.protocols
  rw [front, text] at appended
  rw [record.decoded (holdsAt_zero.mpr ⟨following, rfl⟩), record.kept_eq, sni]
  by_cases fit : record.hello.ProtocolsFit
  · have room : ((ascii ",").intercalate record.hello.protocols.dropLast).length ≤ 254 := fit
    rw [if_pos room] at appended
    obtain ⟨alpn, appended, seen⟩ := appended
    rw [cString_of_nulFree (appendProtocols_nulFree nulFree.protocols appended)] at seen
    subst seen
    rw [if_pos fit, appended]
    rfl
  · have full : ¬ ((ascii ",").intercalate record.hello.protocols.dropLast).length ≤ 254 := fit
    rw [if_neg full] at appended
    rw [if_neg fit, appended]
    rfl

/-- A ClientHello that asks for `example.com` with `h2` and `http/1.1`. -/
def sampleHello : ClientHello :=
  { clientVersion := 0x0303
    random := List.replicate 32 7
    sessionId := []
    cipherSuites := [0x13, 0x01]
    compressionMethods := [0]
    extensions := some
      [.serverName [{ nameType := 0, name := ascii "example.com" }],
        .alpn [ascii "h2", ascii "http/1.1"]] }

def sampleHelloRecord : HelloRecord :=
  { version := 0x0301
    hello := sampleHello
    bodyRest := []
    recordRest := []
    tls := rfl
    sized := by
      refine ⟨⟨rfl, by decide, by decide, by decide⟩, ?_⟩
      rintro _ ⟨rfl⟩
      refine ⟨?_, by decide⟩
      intro extension member
      rcases List.mem_pair.mp member with rfl | rfl
      · exact ⟨by decide, by decide⟩
      · exact ⟨by decide, by decide⟩
    behindBlock := fun absent => absurd absent (Option.some_ne_none _)
    fits := by decide }

theorem clientHello_decoded_sample :
    appTlsDecodeClientHello (sampleHelloRecord.wire ++ [0x17]) =
      if sampleHelloRecord.hello.ProtocolsFit then (.ok, sampleHelloRecord.metadata)
      else (.malformed, {}) :=
  clientHello_decoded sampleHelloRecord ⟨by decide, by decide⟩ [0x17]

/-- Two protocol names, the first as long as the array. -/
def longProtocolsHello : ClientHello :=
  { sampleHello with
    extensions := some [.alpn [List.replicate 255 97, ascii "h2"]] }

def longProtocolsRecord : HelloRecord :=
  { sampleHelloRecord with
    hello := longProtocolsHello
    sized := by
      refine ⟨⟨rfl, by decide, by decide, by decide⟩, ?_⟩
      rintro _ ⟨rfl⟩
      refine ⟨?_, by decide +kernel⟩
      intro extension member
      rw [List.mem_singleton.mp member]
      exact ⟨by decide +kernel, by decide +kernel⟩
    behindBlock := fun absent => absurd absent (Option.some_ne_none _)
    fits := by decide +kernel }

/-- A well-formed ClientHello whose protocol names have no room is refused. -/
theorem clientHello_refused :
    longProtocolsRecord.hello.NulFree ∧
      appTlsDecodeClientHello longProtocolsRecord.wire = (.malformed, {}) :=
  ⟨⟨by decide +kernel, by decide +kernel⟩, by decide +kernel⟩

end MiniSniffer
