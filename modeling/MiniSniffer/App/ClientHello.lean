import MiniSniffer.App.Verdicts
import MiniSniffer.Foundation.ByteLayout

/-!
Contract: ClientHello messages and how the decoder reads them.

Owns ClientHello messages as values with their encoding, the handshake records that carry one, and
the fold of their extensions into the metadata. The decoder reads each such record as that fold,
and decodes nothing else with OK. On names without NUL bytes the fold keeps the first host name and
the protocol names joined by commas, as far as they fit; it fails on a protocol name for which not
even the comma fits.

Does not own records that are cut short: see `App.Verdicts`.
-/

namespace MiniSniffer

open Foundation

/-! ### Messages -/

/-- An entry of a server name list. -/
structure ServerName where
  nameType : UInt8
  name : List UInt8
deriving DecidableEq, Repr

def ServerName.encode (entry : ServerName) : List UInt8 := entry.nameType :: vector16 entry.name

/-- A name is not empty, and its length fits its two bytes. -/
def ServerName.Sized (entry : ServerName) : Prop := entry.name ≠ [] ∧ entry.name.length < 65536

def ProtocolSized (protocol : List UInt8) : Prop := protocol ≠ [] ∧ protocol.length < 256

instance (entry : ServerName) : Decidable entry.Sized := inferInstanceAs (Decidable (_ ∧ _))

instance (protocol : List UInt8) : Decidable (ProtocolSized protocol) :=
  inferInstanceAs (Decidable (_ ∧ _))

inductive HelloExtension where
  | serverName (names : List ServerName)
  | alpn (protocols : List (List UInt8))
  | other (extensionType : UInt16) (content : List UInt8)
deriving DecidableEq, Repr

namespace HelloExtension

def extensionType : HelloExtension → UInt16
  | serverName _ => tlsExtServerName
  | alpn _ => tlsExtAlpn
  | other extensionType _ => extensionType

def content : HelloExtension → List UInt8
  | serverName names => vector16 (names.flatMap ServerName.encode)
  | alpn protocols => vector16 (protocols.flatMap vector8)
  | other _ content => content

def encode (extension : HelloExtension) : List UInt8 :=
  encodeU16 extension.extensionType ++ vector16 extension.content

/-- The entries of a list are sized, and what is not kept has a type of its own. -/
def EntriesSized : HelloExtension → Prop
  | serverName names => ∀ entry ∈ names, entry.Sized
  | alpn protocols => ∀ protocol ∈ protocols, ProtocolSized protocol
  | other extensionType _ => extensionType ≠ tlsExtServerName ∧ extensionType ≠ tlsExtAlpn

instance (extension : HelloExtension) : Decidable extension.EntriesSized :=
  match extension with
  | serverName names => inferInstanceAs (Decidable (∀ entry ∈ names, entry.Sized))
  | alpn protocols => inferInstanceAs (Decidable (∀ protocol ∈ protocols, ProtocolSized protocol))
  | other _ _ => inferInstanceAs (Decidable (_ ∧ _))

structure Sized (extension : HelloExtension) : Prop where
  entries : extension.EntriesSized
  content : extension.content.length < 65536

def serverNames : HelloExtension → List ServerName
  | serverName names => names
  | _ => []

def protocols : HelloExtension → List (List UInt8)
  | alpn protocols => protocols
  | _ => []

end HelloExtension

structure ClientHello where
  clientVersion : UInt16
  random : List UInt8
  sessionId : List UInt8
  cipherSuites : List UInt8
  compressionMethods : List UInt8
  extensions : Option (List HelloExtension)
deriving DecidableEq, Repr

namespace ClientHello

variable (hello : ClientHello)

/-- What stands before the extensions. -/
def vectors : List UInt8 :=
  encodeU16 hello.clientVersion ++ (hello.random ++ (vector8 hello.sessionId ++
    (vector16 hello.cipherSuites ++ vector8 hello.compressionMethods)))

def extensionBlock : List UInt8 :=
  match hello.extensions with
  | none => []
  | some extensions => vector16 (extensions.flatMap HelloExtension.encode)

def body : List UInt8 := hello.vectors ++ hello.extensionBlock

structure VectorsSized : Prop where
  random : hello.random.length = 32
  sessionId : hello.sessionId.length < 256
  cipherSuites : hello.cipherSuites ≠ [] ∧ hello.cipherSuites.length < 65536 ∧
    hello.cipherSuites.length % 2 = 0
  compressionMethods : hello.compressionMethods ≠ [] ∧ hello.compressionMethods.length < 256

structure ExtensionsSized (extensions : List HelloExtension) : Prop where
  each : ∀ extension ∈ extensions, extension.Sized
  together : (extensions.flatMap HelloExtension.encode).length < 65536

structure Sized : Prop where
  vectors : hello.VectorsSized
  extensions : ∀ extensions, hello.extensions = some extensions → ExtensionsSized extensions

/-- The entries of all server name lists, in the message's order. -/
def serverNames : List ServerName :=
  (hello.extensions.getD []).flatMap HelloExtension.serverNames

/-- The protocol names of all ALPN lists, in the message's order. -/
def protocols : List (List UInt8) :=
  (hello.extensions.getD []).flatMap HelloExtension.protocols

end ClientHello

/-- A handshake record with the ClientHello it carries, what the message holds behind its extension
block, and what the record holds behind the message. -/
structure HelloRecord where
  version : UInt16
  hello : ClientHello
  bodyRest : List UInt8
  recordRest : List UInt8
  tls : version >>> 8 = 0x03
  sized : hello.Sized
  behindBlock : hello.extensions = none → bodyRest = []
  fits : hello.body.length + bodyRest.length + recordRest.length + 4 < 65536

namespace HelloRecord

variable (record : HelloRecord)

def body : List UInt8 := record.hello.body ++ record.bodyRest

def handshake : List UInt8 :=
  tlsHandshakeClientHello :: (encodeU24 record.body.length ++ (record.body ++ record.recordRest))

def wire : List UInt8 :=
  tlsRecordHandshake :: (encodeU16 record.version ++ vector16 record.handshake)

end HelloRecord

/-! ### Metadata -/

/-- The first host name is kept. -/
def keepServerName (out : AppInfo) (entry : ServerName) : AppInfo :=
  if entry.nameType = 0 && cString out.tlsSni = [] then
    { out with tlsSni := copyText minisnifferAppTextLen entry.name }
  else out

def keepProtocol (out : AppInfo) (protocol : List UInt8) : Option AppInfo :=
  (appendAlpn out.tlsAlpn minisnifferTlsAlpnLen protocol).map fun alpn =>
    { out with tlsAlpn := alpn }

def keepExtension (out : AppInfo) : HelloExtension → Option AppInfo
  | .serverName names => some (names.foldl keepServerName out)
  | .alpn protocols => protocols.foldlM keepProtocol out
  | .other _ _ => some out

/-- The metadata before the extensions are read. -/
def HelloRecord.base (record : HelloRecord) : AppInfo :=
  { protocol := .tls, tlsRecordVersion := record.version,
    tlsHandshakeType := tlsHandshakeClientHello, tlsClientVersion := record.hello.clientVersion }

def helloSummary (sni alpn : List UInt8) : List UInt8 :=
  fitText minisnifferAppSummaryLen
    (ascii "TLS ClientHello sni=" ++ cString sni ++ ascii " alpn=" ++ cString alpn)

/-- The verdict on a record, from the metadata its extensions left. -/
def helloVerdict : Option AppInfo → AppDecodeResult × AppInfo
  | none => (.malformed, {})
  | some filled => (.ok, { filled with summary := helloSummary filled.tlsSni filled.tlsAlpn })

/-! ### Readers

Each loop of the decoder is a scan with one of these. -/

/-- Content behind a one-byte length, ending by `stop`. -/
def readVector8 (data : List UInt8) (stop offset : Nat) : Option (List UInt8 × Nat) :=
  match readU8At data stop offset with
  | none => none
  | some (length, start) =>
      if length.toNat > stop - start then none
      else some ((data.drop start).take length.toNat, start + length.toNat)

/-- Content behind a two-byte length, ending by `stop`. -/
def readVector16 (data : List UInt8) (stop offset : Nat) : Option (List UInt8 × Nat) :=
  match readU16At data stop offset with
  | none => none
  | some (length, start) =>
      if length.toNat > stop - start then none
      else some ((data.drop start).take length.toNat, start + length.toNat)

def readProtocol (data : List UInt8) (stop offset : Nat) : Option (List UInt8 × Nat) :=
  match readVector8 data stop offset with
  | none => none
  | some (protocol, next) => if protocol = [] then none else some (protocol, next)

def readServerName (data : List UInt8) (stop offset : Nat) : Option (ServerName × Nat) :=
  match readU8At data stop offset with
  | none => none
  | some (nameType, afterType) =>
      match readVector16 data stop afterType with
      | none => none
      | some (name, next) =>
          if name = [] then none else some ({ nameType := nameType, name := name }, next)

/-- An extension's type and content. -/
def readExtension (data : List UInt8) (stop offset : Nat) :
    Option ((UInt16 × List UInt8) × Nat) :=
  match readU16At data stop offset with
  | none => none
  | some (extensionType, afterType) =>
      match readVector16 data stop afterType with
      | none => none
      | some (content, next) => some ((extensionType, content), next)

def encodeExtension (entry : UInt16 × List UInt8) : List UInt8 :=
  encodeU16 entry.1 ++ vector16 entry.2

section Readers

variable {data content : List UInt8} {stop offset next : Nat}

theorem readU8At_iff {value : UInt8} : readU8At data stop offset = some (value, next) ↔
    offset < stop ∧ byteAt data offset = value ∧ next = offset + 1 := by
  rw [readU8At, remaining]
  split_ifs with inside
  · simp only [Bool.and_eq_true, decide_eq_true_eq] at inside
    simp only [Option.some.injEq, Prod.mk.injEq]
    constructor
    · rintro ⟨read, rfl⟩
      exact ⟨by omega, read, rfl⟩
    · rintro ⟨_, read, rfl⟩
      exact ⟨read, rfl⟩
  · simp only [Bool.and_eq_true, decide_eq_true_eq] at inside
    constructor
    · intro read
      contradiction
    · rintro ⟨before, _⟩
      omega

theorem readU16At_iff {value : UInt16} : readU16At data stop offset = some (value, next) ↔
    offset + 2 ≤ stop ∧ readU16 data offset = value ∧ next = offset + 2 := by
  rw [readU16At, remaining]
  split_ifs with inside
  · simp only [Bool.and_eq_true, decide_eq_true_eq] at inside
    simp only [Option.some.injEq, Prod.mk.injEq]
    constructor
    · rintro ⟨read, rfl⟩
      exact ⟨by omega, read, rfl⟩
    · rintro ⟨_, read, rfl⟩
      exact ⟨read, rfl⟩
  · simp only [Bool.and_eq_true, decide_eq_true_eq] at inside
    constructor
    · intro read
      contradiction
    · rintro ⟨before, _⟩
      omega

theorem readVector8_iff (inside : stop ≤ data.length) :
    readVector8 data stop offset = some (content, next) ↔
      content.length < 256 ∧ HoldsAt data offset (vector8 content) ∧
        next = offset + (vector8 content).length ∧ next ≤ stop := by
  constructor
  · intro read
    unfold readVector8 at read
    split at read
    · contradiction
    next length start first =>
      obtain ⟨before, value, rfl⟩ := readU8At_iff.mp first
      split_ifs at read with beyond
      obtain ⟨rfl, rfl⟩ := Prod.mk.inj (Option.some.inj read)
      have whole : offset + 1 + length.toNat ≤ data.length := by omega
      obtain ⟨holds, sized⟩ := holdsAt_slice length.toNat whole
      have short : length.toNat < 256 := length.toNat_lt
      rw [length_vector8, holdsAt_vector8 (by omega), sized, value]
      exact ⟨short, ⟨by omega, rfl, holds⟩, by omega, by omega⟩
  · rintro ⟨short, holds, rfl, ends⟩
    rw [length_vector8] at ends ⊢
    rw [holdsAt_vector8 short] at holds
    obtain ⟨_, length, holds⟩ := holds
    have first : readU8At data stop offset = some (byteAt data offset, offset + 1) :=
      readU8At_iff.mpr ⟨by omega, rfl, rfl⟩
    rw [readVector8, first]
    dsimp only
    rw [length, if_neg (by omega), holdsAt_iff_slice.mp holds]
    congr 2
    omega

theorem readVector16_iff (inside : stop ≤ data.length) :
    readVector16 data stop offset = some (content, next) ↔
      content.length < 65536 ∧ HoldsAt data offset (vector16 content) ∧
        next = offset + (vector16 content).length ∧ next ≤ stop := by
  constructor
  · intro read
    unfold readVector16 at read
    split at read
    · contradiction
    next length start first =>
      obtain ⟨before, value, rfl⟩ := readU16At_iff.mp first
      split_ifs at read with beyond
      obtain ⟨rfl, rfl⟩ := Prod.mk.inj (Option.some.inj read)
      have whole : offset + 2 + length.toNat ≤ data.length := by omega
      obtain ⟨holds, sized⟩ := holdsAt_slice length.toNat whole
      have short : length.toNat < 65536 := length.toNat_lt
      rw [length_vector16, holdsAt_vector16 (by omega), sized, value]
      exact ⟨short, ⟨by omega, rfl, holds⟩, by omega, by omega⟩
  · rintro ⟨short, holds, rfl, ends⟩
    rw [length_vector16] at ends ⊢
    rw [holdsAt_vector16 short] at holds
    obtain ⟨_, length, holds⟩ := holds
    have first : readU16At data stop offset = some (readU16 data offset, offset + 2) :=
      readU16At_iff.mpr ⟨by omega, rfl, rfl⟩
    rw [readVector16, first]
    dsimp only
    rw [length, if_neg (by omega), holdsAt_iff_slice.mp holds]
    congr 2
    omega

theorem readProtocol_reads (inside : stop ≤ data.length) :
    ReadsEncoded data ProtocolSized vector8 stop (readProtocol data stop) := by
  intro offset protocol next
  rw [readProtocol, ProtocolSized]
  constructor
  · intro read
    split at read
    · contradiction
    next content after first =>
      split_ifs at read with empty
      obtain ⟨rfl, rfl⟩ := Prod.mk.inj (Option.some.inj read)
      obtain ⟨short, placed⟩ := (readVector8_iff inside).mp first
      exact ⟨⟨empty, short⟩, placed⟩
  · rintro ⟨⟨nonempty, short⟩, placed⟩
    rw [(readVector8_iff inside).mpr ⟨short, placed⟩]
    dsimp only
    rw [if_neg nonempty]

theorem readServerName_reads (inside : stop ≤ data.length) :
    ReadsEncoded data ServerName.Sized ServerName.encode stop (readServerName data stop) := by
  intro offset entry next
  rw [readServerName, ServerName.Sized, ServerName.encode, holdsAt_cons, List.length_cons]
  constructor
  · intro read
    split at read
    · contradiction
    next nameType afterType typeRead =>
      obtain ⟨before, value, rfl⟩ := readU8At_iff.mp typeRead
      split at read
      · contradiction
      next name after nameRead =>
        split_ifs at read with empty
        obtain ⟨rfl, rfl⟩ := Prod.mk.inj (Option.some.inj read)
        obtain ⟨short, placed, rfl, ends⟩ := (readVector16_iff inside).mp nameRead
        exact ⟨⟨empty, short⟩, ⟨⟨by omega, value⟩, placed⟩, by dsimp only; omega, ends⟩
  · rintro ⟨⟨nonempty, short⟩, ⟨⟨_, value⟩, placed⟩, rfl, ends⟩
    have typeRead : readU8At data stop offset = some (entry.nameType, offset + 1) :=
      readU8At_iff.mpr ⟨by omega, value, rfl⟩
    have nameRead : readVector16 data stop (offset + 1) =
        some (entry.name, offset + ((vector16 entry.name).length + 1)) :=
      (readVector16_iff inside).mpr ⟨short, placed, by omega, ends⟩
    rw [typeRead]
    dsimp only
    rw [nameRead]
    dsimp only
    rw [if_neg nonempty]

theorem readExtension_reads (inside : stop ≤ data.length) :
    ReadsEncoded data (fun entry => entry.2.length < 65536) encodeExtension stop
      (readExtension data stop) := by
  rintro offset ⟨extensionType, content⟩ next
  rw [readExtension, encodeExtension, holdsAt_append, List.length_append, length_encodeU16,
    holdsAt_u16]
  dsimp only
  constructor
  · intro read
    split at read
    · contradiction
    next found afterType typeRead =>
      obtain ⟨before, value, rfl⟩ := readU16At_iff.mp typeRead
      split at read
      · contradiction
      next slice after contentRead =>
        obtain ⟨same, rfl⟩ := Prod.mk.inj (Option.some.inj read)
        obtain ⟨rfl, rfl⟩ := Prod.mk.inj same
        obtain ⟨short, placed, rfl, ends⟩ := (readVector16_iff inside).mp contentRead
        exact ⟨short, ⟨⟨by omega, value⟩, placed⟩, by omega, ends⟩
  · rintro ⟨short, ⟨⟨_, value⟩, placed⟩, rfl, ends⟩
    have typeRead : readU16At data stop offset = some (extensionType, offset + 2) :=
      readU16At_iff.mpr ⟨by omega, value, rfl⟩
    have contentRead : readVector16 data stop (offset + 2) =
        some (content, offset + (2 + (vector16 content).length)) :=
      (readVector16_iff inside).mpr ⟨short, placed, by omega, ends⟩
    rw [typeRead]
    dsimp only
    rw [contentRead]

end Readers

/-! ### Loops -/

section Loops

variable {data : List UInt8} {stop : Nat}

theorem parseSniNames_eq_scan (inside : stop ≤ data.length) (passes offset : Nat)
    (out : AppInfo) :
    parseSniNames data stop passes offset out =
      scanEntries (readServerName data stop) (fun out entry => some (keepServerName out entry))
        stop passes offset out := by
  induction passes generalizing offset out with
  | zero => rfl
  | succ passes inductionHypothesis =>
      rw [parseSniNames, scanEntries, readServerName]
      by_cases before : offset < stop
      · rw [if_pos before, if_pos before]
        cases typeRead : readU8At data stop offset with
        | none => rfl
        | some found =>
            obtain ⟨nameType, afterType⟩ := found
            dsimp only
            rw [readVector16]
            cases lengthRead : readU16At data stop afterType with
            | none => rfl
            | some found =>
                obtain ⟨nameLength, start⟩ := found
                obtain ⟨within, _, rfl⟩ := readU16At_iff.mp lengthRead
                dsimp only
                by_cases beyond : nameLength.toNat > stop - (afterType + 2)
                · rw [if_pos (by simp [beyond]), if_pos beyond]
                · have empty : (data.drop (afterType + 2)).take nameLength.toNat = [] ↔
                      nameLength = 0 := by
                    rw [← List.length_eq_zero_iff, (holdsAt_slice _ (by omega)).2,
                      ← UInt16.toNat_inj]
                    rfl
                  rw [if_neg beyond]
                  dsimp only
                  by_cases zero : nameLength = 0
                  · rw [if_pos (by simp [zero]), if_pos (empty.mpr zero)]
                  · rw [if_neg (by simp [zero]; omega), if_neg (zero ∘ empty.mp)]
                    exact inductionHypothesis _ _
      · rw [if_neg before, if_neg before]

theorem parseAlpnProtocols_eq_scan (inside : stop ≤ data.length) (passes offset : Nat)
    (out : AppInfo) :
    parseAlpnProtocols data stop passes offset out =
      scanEntries (readProtocol data stop) keepProtocol stop passes offset out := by
  induction passes generalizing offset out with
  | zero => rfl
  | succ passes inductionHypothesis =>
      rw [parseAlpnProtocols, scanEntries, readProtocol, readVector8]
      by_cases before : offset < stop
      · rw [if_pos before, if_pos before]
        cases lengthRead : readU8At data stop offset with
        | none => rfl
        | some found =>
            obtain ⟨protocolLength, start⟩ := found
            obtain ⟨_, _, rfl⟩ := readU8At_iff.mp lengthRead
            dsimp only
            by_cases beyond : protocolLength.toNat > stop - (offset + 1)
            · rw [if_pos (by simp [beyond]), if_pos beyond]
            · have empty : (data.drop (offset + 1)).take protocolLength.toNat = [] ↔
                  protocolLength = 0 := by
                rw [← List.length_eq_zero_iff, (holdsAt_slice _ (by omega)).2,
                  ← UInt8.toNat_inj]
                rfl
              rw [if_neg beyond]
              dsimp only
              by_cases zero : protocolLength = 0
              · rw [if_pos (by simp [zero]), if_pos (empty.mpr zero)]
              · have kept : keepProtocol out ((data.drop (offset + 1)).take protocolLength.toNat) =
                    (appendAlpn out.tlsAlpn minisnifferTlsAlpnLen
                      ((data.drop (offset + 1)).take protocolLength.toNat)).map fun alpn =>
                        { out with tlsAlpn := alpn } := rfl
                rw [if_neg (by simp [zero]; omega), if_neg (zero ∘ empty.mp)]
                dsimp only
                rw [kept]
                cases appendAlpn out.tlsAlpn minisnifferTlsAlpnLen
                    ((data.drop (offset + 1)).take protocolLength.toNat) with
                | none => rfl
                | some alpn => exact inductionHypothesis _ _
      · rw [if_neg before, if_neg before]

theorem parseExtensionList_eq_scan (passes offset : Nat) (out : AppInfo) :
    parseExtensionList data stop passes offset out =
      scanEntries (readExtension data stop) (fun out entry => parseExtension entry.1 entry.2 out)
        stop passes offset out := by
  induction passes generalizing offset out with
  | zero => rfl
  | succ passes inductionHypothesis =>
      rw [parseExtensionList, scanEntries, readExtension]
      by_cases before : offset < stop
      · rw [if_pos before, if_pos before]
        cases typeRead : readU16At data stop offset with
        | none => rfl
        | some found =>
            obtain ⟨extensionType, afterType⟩ := found
            dsimp only
            rw [readVector16]
            cases lengthRead : readU16At data stop afterType with
            | none => rfl
            | some found =>
                obtain ⟨extensionLength, start⟩ := found
                dsimp only
                by_cases beyond : extensionLength.toNat > stop - start
                · rw [if_pos beyond, if_pos beyond]
                · rw [if_neg beyond, if_neg beyond]
                  dsimp only
                  cases parseExtension extensionType
                      ((data.drop start).take extensionLength.toNat) out with
                  | none => rfl
                  | some kept => exact inductionHypothesis _ _
      · rw [if_neg before, if_neg before]

/-! ### Extensions -/

theorem encode_serverName_ne_nil (entry : ServerName) : entry.encode ≠ [] := List.cons_ne_nil _ _

theorem vector8_ne_nil (content : List UInt8) : vector8 content ≠ [] := List.cons_ne_nil _ _

theorem encodeExtension_ne_nil (entry : UInt16 × List UInt8) : encodeExtension entry ≠ [] :=
  List.cons_ne_nil _ _

/-- A list behind its length, when it fills the extension. -/
theorem vector16_whole {content list : List UInt8} (whole : content = vector16 list)
    (short : content.length < 65536) :
    HoldsAt content 2 list ∧ 2 + list.length = content.length ∧
      readU16At content content.length 0 = some (UInt16.ofNat list.length, 2) ∧
      (UInt16.ofNat list.length).toNat = list.length := by
  have length : content.length = list.length + 2 := by rw [whole, length_vector16]
  have listShort : list.length < 65536 := by omega
  have holds : HoldsAt content 0 (vector16 list) := holdsAt_zero.mpr ⟨[], by simp [whole]⟩
  have sized : (UInt16.ofNat list.length).toNat = list.length :=
    UInt16.toNat_ofNat_of_lt' listShort
  obtain ⟨_, read, placed⟩ := (holdsAt_vector16 listShort).mp holds
  refine ⟨placed, by omega, readU16At_iff.mpr ⟨by omega, ?_, rfl⟩, sized⟩
  exact (ofNat_eq_iff_toNat16 listShort).mpr read

/-- The list behind a length that fills the extension. -/
theorem whole_of_length {content : List UInt8} {length : UInt16} {start : Nat}
    (read : readU16At content content.length 0 = some (length, start))
    (fills : length.toNat = content.length - start) :
    start = 2 ∧ content = vector16 (content.drop 2) ∧ 2 + length.toNat = content.length := by
  obtain ⟨inside, value, rfl⟩ := readU16At_iff.mp read
  have dropped : (content.drop 2).length = length.toNat := by
    rw [List.length_drop]
    omega
  have short : (content.drop 2).length < 65536 := by
    rw [dropped]
    exact length.toNat_lt
  have placed : HoldsAt content (0 + 2) (content.drop 2) := List.prefix_rfl
  have holds : HoldsAt content 0 (vector16 (content.drop 2)) :=
    (holdsAt_vector16 short).mpr ⟨inside, by rw [value, dropped], placed⟩
  obtain ⟨following, same⟩ := holdsAt_zero.mp holds
  have sized := congrArg List.length same
  rw [List.length_append, length_vector16, dropped] at sized
  obtain rfl : following = [] := List.length_eq_zero_iff.mp (by omega)
  rw [List.append_nil] at same
  exact ⟨rfl, same, by omega⟩

theorem foldlM_keepServerName (names : List ServerName) (out : AppInfo) :
    names.foldlM (fun out entry => some (keepServerName out entry)) out =
      some (names.foldl keepServerName out) := by
  induction names generalizing out with
  | nil => rfl
  | cons entry names inductionHypothesis => exact inductionHypothesis _

theorem parseSniExtension_names {names : List ServerName} (sized : ∀ entry ∈ names, entry.Sized)
    (short : (vector16 (names.flatMap ServerName.encode)).length < 65536) (out : AppInfo) :
    parseSniExtension (vector16 (names.flatMap ServerName.encode)) out =
      some (names.foldl keepServerName out) := by
  obtain ⟨placed, ends, read, length⟩ := vector16_whole rfl short
  have met := (entriesRead_iff (readServerName_reads le_rfl) encode_serverName_ne_nil).mpr
    ⟨sized, placed, ends⟩
  rw [parseSniExtension, read]
  dsimp only
  rw [length, if_neg (by omega), ends, parseSniNames_eq_scan le_rfl,
    scanEntries_eq_foldlM
      (fun _ _ _ => (readServerName_reads le_rfl).advances encode_serverName_ne_nil) met (by omega),
    foldlM_keepServerName]

theorem parseAlpnExtension_protocols {protocols : List (List UInt8)}
    (sized : ∀ protocol ∈ protocols, ProtocolSized protocol)
    (short : (vector16 (protocols.flatMap vector8)).length < 65536) (out : AppInfo) :
    parseAlpnExtension (vector16 (protocols.flatMap vector8)) out =
      protocols.foldlM keepProtocol out := by
  obtain ⟨placed, ends, read, length⟩ := vector16_whole rfl short
  have met := (entriesRead_iff (readProtocol_reads le_rfl) vector8_ne_nil).mpr
    ⟨sized, placed, ends⟩
  rw [parseAlpnExtension, read]
  dsimp only
  rw [length, if_neg (by omega), ends, parseAlpnProtocols_eq_scan le_rfl,
    scanEntries_eq_foldlM
      (fun _ _ _ => (readProtocol_reads le_rfl).advances vector8_ne_nil) met (by omega)]

/-- A sized extension is read as what it keeps. -/
theorem parseExtension_keep {extension : HelloExtension} (sized : extension.Sized)
    (out : AppInfo) :
    parseExtension extension.extensionType extension.content out =
      keepExtension out extension := by
  obtain ⟨entries, short⟩ := sized
  cases extension with
  | serverName names => exact parseSniExtension_names entries short out
  | alpn protocols => exact parseAlpnExtension_protocols entries short out
  | other extensionType content =>
      rw [HelloExtension.extensionType, parseExtension, if_neg entries.1, if_neg entries.2]
      rfl

theorem parseSniExtension_content {content : List UInt8} {out kept : AppInfo}
    (parsed : parseSniExtension content out = some kept) :
    ∃ names : List ServerName, (∀ entry ∈ names, entry.Sized) ∧
      content = vector16 (names.flatMap ServerName.encode) := by
  rw [parseSniExtension] at parsed
  split at parsed
  · contradiction
  next length start read =>
    split_ifs at parsed with fills
    obtain ⟨rfl, whole, filled⟩ := whole_of_length read (not_not.mp fills)
    rw [filled, parseSniNames_eq_scan le_rfl] at parsed
    obtain ⟨names, met, _⟩ := entriesRead_of_scan parsed
    obtain ⟨sized, listed⟩ :=
      drop_of_entriesRead (readServerName_reads le_rfl) encode_serverName_ne_nil met
    exact ⟨names, sized, listed ▸ whole⟩

theorem parseAlpnExtension_content {content : List UInt8} {out kept : AppInfo}
    (parsed : parseAlpnExtension content out = some kept) :
    ∃ protocols : List (List UInt8), (∀ protocol ∈ protocols, ProtocolSized protocol) ∧
      content = vector16 (protocols.flatMap vector8) := by
  rw [parseAlpnExtension] at parsed
  split at parsed
  · contradiction
  next length start read =>
    split_ifs at parsed with fills
    obtain ⟨rfl, whole, filled⟩ := whole_of_length read (not_not.mp fills)
    rw [filled, parseAlpnProtocols_eq_scan le_rfl] at parsed
    obtain ⟨protocols, met, _⟩ := entriesRead_of_scan parsed
    obtain ⟨sized, listed⟩ := drop_of_entriesRead (readProtocol_reads le_rfl) vector8_ne_nil met
    exact ⟨protocols, sized, listed ▸ whole⟩

/-- Whatever is read as an extension is one. -/
theorem extension_of_parse {extensionType : UInt16} {content : List UInt8} {out kept : AppInfo}
    (short : content.length < 65536)
    (parsed : parseExtension extensionType content out = some kept) :
    ∃ extension : HelloExtension, extension.Sized ∧ extension.extensionType = extensionType ∧
      extension.content = content := by
  rw [parseExtension] at parsed
  split_ifs at parsed with serverName alpn
  · obtain ⟨names, sized, rfl⟩ := parseSniExtension_content parsed
    exact ⟨.serverName names, ⟨sized, short⟩, serverName.symm, rfl⟩
  · obtain ⟨protocols, sized, rfl⟩ := parseAlpnExtension_content parsed
    exact ⟨.alpn protocols, ⟨sized, short⟩, alpn.symm, rfl⟩
  · exact ⟨.other extensionType content, ⟨⟨serverName, alpn⟩, short⟩, rfl, rfl⟩

/-- An extension's type and content. -/
def HelloExtension.entry (extension : HelloExtension) : UInt16 × List UInt8 :=
  (extension.extensionType, extension.content)

theorem flatMap_entry (extensions : List HelloExtension) :
    (extensions.map HelloExtension.entry).flatMap encodeExtension =
      extensions.flatMap HelloExtension.encode := by
  rw [List.flatMap_map]
  rfl

theorem foldlM_parseExtension {extensions : List HelloExtension}
    (each : ∀ extension ∈ extensions, extension.Sized) (out : AppInfo) :
    (extensions.map HelloExtension.entry).foldlM
        (fun out entry => parseExtension entry.1 entry.2 out) out =
      extensions.foldlM keepExtension out := by
  induction extensions generalizing out with
  | nil => rfl
  | cons extension extensions inductionHypothesis =>
      have head := parseExtension_keep (each extension List.mem_cons_self) out
      rw [List.map_cons, List.foldlM_cons, List.foldlM_cons, HelloExtension.entry, head]
      cases keepExtension out extension with
      | none => rfl
      | some kept =>
          exact inductionHypothesis
            (fun other member => each other (List.mem_cons_of_mem _ member)) kept

theorem extensions_of_foldlM {entries : List (UInt16 × List UInt8)} {out kept : AppInfo}
    (short : ∀ entry ∈ entries, entry.2.length < 65536)
    (folded : entries.foldlM (fun out entry => parseExtension entry.1 entry.2 out) out =
      some kept) :
    ∃ extensions : List HelloExtension, (∀ extension ∈ extensions, extension.Sized) ∧
      extensions.map HelloExtension.entry = entries := by
  induction entries generalizing out with
  | nil => exact ⟨[], by simp, rfl⟩
  | cons entry entries inductionHypothesis =>
      obtain ⟨extensionType, content⟩ := entry
      rw [List.foldlM_cons] at folded
      obtain ⟨between, parsed, folded⟩ := Option.bind_eq_some_iff.mp folded
      obtain ⟨extensions, each, same⟩ := inductionHypothesis
        (fun other member => short other (List.mem_cons_of_mem _ member)) folded
      obtain ⟨extension, sized, rfl, rfl⟩ :=
        extension_of_parse (short _ List.mem_cons_self) parsed
      refine ⟨extension :: extensions, ?_, by rw [List.map_cons, same]; rfl⟩
      intro other member
      rcases List.mem_cons.mp member with rfl | member
      · exact sized
      · exact each other member

theorem parseExtensions_none (data : List UInt8) (out : AppInfo) :
    parseExtensions data data.length out = some out := by
  rw [parseExtensions, if_pos rfl]

/-- An extension block is read as the fold of what its extensions keep. -/
theorem parseExtensions_block {extensions : List HelloExtension} {offset : Nat}
    (sized : ClientHello.ExtensionsSized extensions)
    (placed : HoldsAt data offset (vector16 (extensions.flatMap HelloExtension.encode)))
    (out : AppInfo) : parseExtensions data offset out = extensions.foldlM keepExtension out := by
  obtain ⟨each, together⟩ := sized
  have room := placed.length_le (List.cons_ne_nil _ _)
  rw [length_vector16] at room
  obtain ⟨_, length, placed⟩ := (holdsAt_vector16 together).mp placed
  have read : readU16At data data.length offset = some (readU16 data offset, offset + 2) :=
    readU16At_iff.mpr ⟨by omega, rfl, rfl⟩
  have inside : offset + 2 + (readU16 data offset).toNat ≤ data.length := by omega
  rw [← flatMap_entry] at placed length
  have met := (entriesRead_iff (readExtension_reads inside) encodeExtension_ne_nil).mpr
    ⟨by simpa [HelloExtension.entry] using fun extension member => (each extension member).content,
      placed, by rw [length]⟩
  rw [parseExtensions, if_neg (by omega), read]
  dsimp only
  rw [if_neg (by omega), parseExtensionList_eq_scan,
    scanEntries_eq_foldlM
      (fun _ _ _ => (readExtension_reads inside).advances encodeExtension_ne_nil) met (by omega),
    foldlM_parseExtension each]

theorem block_of_parseExtensions {offset : Nat} {out kept : AppInfo}
    (parsed : parseExtensions data offset out = some kept) :
    offset = data.length ∨ ∃ extensions, ClientHello.ExtensionsSized extensions ∧
      HoldsAt data offset (vector16 (extensions.flatMap HelloExtension.encode)) := by
  rw [parseExtensions] at parsed
  split_ifs at parsed with ends
  · exact .inl ends
  · split at parsed
    · contradiction
    next length start read =>
      obtain ⟨room, value, rfl⟩ := readU16At_iff.mp read
      split_ifs at parsed with beyond
      have inside : offset + 2 + length.toNat ≤ data.length := by omega
      have small : length.toNat < 65536 := length.toNat_lt
      rw [parseExtensionList_eq_scan] at parsed
      obtain ⟨entries, met, folded⟩ := entriesRead_of_scan parsed
      obtain ⟨short, placed, stops⟩ :=
        (entriesRead_iff (readExtension_reads inside) encodeExtension_ne_nil).mp met
      obtain ⟨extensions, each, rfl⟩ := extensions_of_foldlM short folded
      rw [flatMap_entry] at placed stops
      refine .inr ⟨extensions, ⟨each, by omega⟩, ?_⟩
      exact (holdsAt_vector16 (by omega)).mpr ⟨room, by rw [value]; omega, placed⟩

end Loops

/-! ### Vectors -/

section Vectors

variable {data : List UInt8} {offset next : Nat}

theorem skipVector8_iff {length : UInt8} :
    skipVector8 data offset = some (length, next) ↔
      ∃ content, content.length = length.toNat ∧ HoldsAt data offset (vector8 content) ∧
        next = offset + (vector8 content).length := by
  have same : skipVector8 data offset =
      (readVector8 data data.length offset).map fun read =>
        (byteAt data offset, read.2) := by
    rw [skipVector8, readVector8]
    cases lengthRead : readU8At data data.length offset with
    | none => rfl
    | some found =>
        obtain ⟨length, start⟩ := found
        obtain ⟨_, rfl, rfl⟩ := readU8At_iff.mp lengthRead
        dsimp only
        by_cases beyond : (byteAt data offset).toNat > data.length - (offset + 1)
        · rw [if_pos (by simp [remaining]; omega), if_pos beyond]
          rfl
        · rw [if_neg (by simp [remaining]; omega), if_neg beyond]
          rfl
  rw [same]
  constructor
  · intro skipped
    obtain ⟨⟨content, past⟩, read, same⟩ := Option.map_eq_some_iff.mp skipped
    obtain ⟨rfl, rfl⟩ := Prod.mk.inj same
    obtain ⟨short, placed, past, _⟩ := (readVector8_iff le_rfl).mp read
    exact ⟨content, ((holdsAt_vector8 short).mp placed).2.1.symm, placed, past⟩
  · rintro ⟨content, sized, placed, rfl⟩
    have short : content.length < 256 := by
      rw [sized]
      exact length.toNat_lt
    have room := placed.length_le (List.cons_ne_nil _ _)
    have read := (readVector8_iff le_rfl).mpr ⟨short, placed, rfl, room⟩
    have value := ((holdsAt_vector8 short).mp placed).2.1
    rw [read]
    exact congrArg some (Prod.ext (UInt8.toNat_inj.mp (value.trans sized)) rfl)

theorem holdsAt_vectors {hello : ClientHello} (random : hello.random.length = 32) :
    HoldsAt data 0 hello.vectors ↔
      HoldsAt data 0 (encodeU16 hello.clientVersion) ∧ HoldsAt data 2 hello.random ∧
        HoldsAt data 34 (vector8 hello.sessionId) ∧
        HoldsAt data (34 + (vector8 hello.sessionId).length) (vector16 hello.cipherSuites) ∧
        HoldsAt data (34 + (vector8 hello.sessionId).length +
          (vector16 hello.cipherSuites).length) (vector8 hello.compressionMethods) := by
  rw [ClientHello.vectors, holdsAt_append, holdsAt_append, holdsAt_append, holdsAt_append, random]
  rfl

theorem length_vectors {hello : ClientHello} (random : hello.random.length = 32) :
    hello.vectors.length = 34 + (vector8 hello.sessionId).length +
      (vector16 hello.cipherSuites).length + (vector8 hello.compressionMethods).length := by
  simp only [ClientHello.vectors, List.length_append, length_encodeU16, random]
  omega

/-- The vectors before the extensions are read exactly when they stand there. -/
theorem clientHelloVectors_iff {clientVersion : UInt16} :
    clientHelloVectors data = some (clientVersion, next) ↔
      ∃ hello : ClientHello, hello.VectorsSized ∧ hello.clientVersion = clientVersion ∧
        HoldsAt data 0 hello.vectors ∧ next = hello.vectors.length := by
  constructor
  · intro read
    unfold clientHelloVectors at read
    split at read
    · contradiction
    next version afterVersion versionRead =>
      obtain ⟨room, rfl, rfl⟩ := readU16At_iff.mp versionRead
      split_ifs at read with randomCut
      rw [Bool.not_eq_true', Bool.not_eq_false, remaining, Bool.and_eq_true, decide_eq_true_iff,
        decide_eq_true_iff] at randomCut
      have randomWhole : 2 + 32 ≤ data.length := by omega
      obtain ⟨randomPlaced, randomSized⟩ := holdsAt_slice 32 randomWhole
      split at read
      · contradiction
      next sessionLength afterSession sessionRead =>
        obtain ⟨sessionId, sessionSized, sessionPlaced, rfl⟩ := skipVector8_iff.mp sessionRead
        split at read
        · contradiction
        next suitesLength start suitesRead =>
          obtain ⟨suitesRoom, suitesValue, rfl⟩ := readU16At_iff.mp suitesRead
          split_ifs at read with refused
          simp only [Bool.or_eq_true, decide_eq_true_eq, Bool.not_eq_true', not_or,
            Bool.not_eq_false, remaining, Bool.and_eq_true] at refused
          obtain ⟨⟨someSuites, even⟩, _, suitesRest⟩ := refused
          have suitesWhole : 34 + (vector8 sessionId).length + 2 + suitesLength.toNat ≤
              data.length := by omega
          obtain ⟨suitesPlaced, suitesSized⟩ := holdsAt_slice suitesLength.toNat suitesWhole
          split at read
          · contradiction
          next methodsLength past methodsRead =>
            obtain ⟨methods, methodsSized, methodsPlaced, rfl⟩ := skipVector8_iff.mp methodsRead
            split_ifs at read with noMethods
            obtain ⟨rfl, rfl⟩ := Prod.mk.inj (Option.some.inj read)
            let hello : ClientHello :=
              { clientVersion := readU16 data 0
                random := (data.drop 2).take 32
                sessionId := sessionId
                cipherSuites := (data.drop (34 + (vector8 sessionId).length + 2)).take
                  suitesLength.toNat
                compressionMethods := methods
                extensions := none }
            have suitesNonempty : hello.cipherSuites ≠ [] := by
              apply List.ne_nil_of_length_pos
              rw [suitesSized]
              exact Nat.pos_of_ne_zero fun zero => someSuites (UInt16.toNat_inj.mp zero)
            have suitesEven : hello.cipherSuites.length % 2 = 0 := by
              rw [suitesSized]
              simpa using congrArg UInt16.toNat (not_not.mp even)
            have methodsNonempty : methods ≠ [] := by
              apply List.ne_nil_of_length_pos
              rw [methodsSized]
              exact Nat.pos_of_ne_zero fun zero => noMethods (UInt8.toNat_inj.mp zero)
            have suitesShort : hello.cipherSuites.length < 65536 := by
              rw [suitesSized]
              exact suitesLength.toNat_lt
            have methodsPlaced : HoldsAt data (34 + (vector8 sessionId).length +
                (vector16 hello.cipherSuites).length) (vector8 methods) := by
              rw [length_vector16, suitesSized, ← Nat.add_assoc, Nat.add_right_comm]
              exact methodsPlaced
            refine ⟨hello, ⟨randomSized, ?_, ⟨suitesNonempty, suitesShort, suitesEven⟩,
              methodsNonempty, ?_⟩, rfl, (holdsAt_vectors randomSized).mpr
                ⟨holdsAt_u16.mpr ⟨room, rfl⟩, randomPlaced, sessionPlaced, ?_, methodsPlaced⟩, ?_⟩
            · exact sessionSized.trans_lt sessionLength.toNat_lt
            · exact methodsSized.trans_lt methodsLength.toNat_lt
            · exact (holdsAt_vector16 suitesShort).mpr
                ⟨suitesRoom, by rw [suitesSized, ← suitesValue], suitesPlaced⟩
            · rw [length_vectors randomSized, length_vector16 hello.cipherSuites, suitesSized]
              change _ = 34 + (vector8 sessionId).length + (suitesLength.toNat + 2) +
                (vector8 methods).length
              omega
  · rintro ⟨hello, ⟨random, session, ⟨someSuites, suites, even⟩, someMethods, methods⟩, rfl,
      placed, rfl⟩
    obtain ⟨versionPlaced, randomPlaced, sessionPlaced, suitesPlaced, methodsPlaced⟩ :=
      (holdsAt_vectors random).mp placed
    obtain ⟨room, version⟩ := holdsAt_u16.mp versionPlaced
    obtain ⟨suitesRoom, suitesValue, _⟩ := (holdsAt_vector16 suites).mp suitesPlaced
    have suitesWhole := suitesPlaced.length_le (List.cons_ne_nil _ _)
    have methodsWhole := methodsPlaced.length_le (List.cons_ne_nil _ _)
    rw [length_vector16] at suitesWhole methodsWhole methodsPlaced
    have sessionLength : hello.sessionId.length = (UInt8.ofNat hello.sessionId.length).toNat :=
      (UInt8.toNat_ofNat_of_lt' session).symm
    have methodsLength : hello.compressionMethods.length =
        (UInt8.ofNat hello.compressionMethods.length).toNat :=
      (UInt8.toNat_ofNat_of_lt' methods).symm
    have versionRead : readU16At data data.length 0 = some (hello.clientVersion, 2) :=
      readU16At_iff.mpr ⟨room, version, rfl⟩
    have sessionRead : skipVector8 data (2 + 32) =
        some (UInt8.ofNat hello.sessionId.length, 34 + (vector8 hello.sessionId).length) :=
      skipVector8_iff.mpr ⟨_, sessionLength, sessionPlaced, rfl⟩
    have suitesRead : readU16At data data.length (34 + (vector8 hello.sessionId).length) =
        some (readU16 data (34 + (vector8 hello.sessionId).length),
          34 + (vector8 hello.sessionId).length + 2) := readU16At_iff.mpr ⟨suitesRoom, rfl, rfl⟩
    have methodsRead : skipVector8 data (34 + (vector8 hello.sessionId).length + 2 +
          hello.cipherSuites.length) =
        some (UInt8.ofNat hello.compressionMethods.length, hello.vectors.length) := by
      refine skipVector8_iff.mpr ⟨_, methodsLength, ?_, ?_⟩
      · rw [Nat.add_assoc _ 2, Nat.add_comm 2]
        exact methodsPlaced
      · rw [length_vectors random, length_vector16]
        omega
    have suitesZero : readU16 data (34 + (vector8 hello.sessionId).length) ≠ 0 := by
      intro zero
      rw [zero] at suitesValue
      exact someSuites (List.length_eq_zero_iff.mp suitesValue.symm)
    have suitesEven : readU16 data (34 + (vector8 hello.sessionId).length) % 2 = 0 := by
      apply UInt16.toNat_inj.mp
      rw [UInt16.toNat_mod, suitesValue]
      exact even
    have methodsZero : UInt8.ofNat hello.compressionMethods.length ≠ 0 := by
      intro zero
      rw [zero] at methodsLength
      exact someMethods (List.length_eq_zero_iff.mp methodsLength)
    rw [clientHelloVectors, versionRead]
    dsimp only
    rw [if_neg (by simp [remaining]; omega), sessionRead]
    dsimp only
    rw [suitesRead]
    dsimp only
    rw [suitesValue, if_neg, methodsRead]
    · dsimp only
      rw [if_neg methodsZero]
    · simp only [remaining, Bool.or_eq_true, decide_eq_true_eq, Bool.not_eq_true',
        Bool.and_eq_false_iff, decide_eq_false_iff_not]
      rintro ((zero | odd) | cut)
      · exact suitesZero zero
      · exact odd suitesEven
      · omega

end Vectors

/-! ### Records -/

namespace HelloRecord

variable (record : HelloRecord)

/-- The metadata that the extensions leave. -/
def kept : Option AppInfo := (record.hello.extensions.getD []).foldlM keepExtension record.base

theorem vectors_read :
    clientHelloVectors record.body =
      some (record.hello.clientVersion, record.hello.vectors.length) := by
  refine clientHelloVectors_iff.mpr ⟨record.hello, record.sized.vectors, rfl, ?_, rfl⟩
  rw [body, ClientHello.body, List.append_assoc]
  exact holdsAt_zero.mpr ⟨_, rfl⟩

theorem extensions_read (out : AppInfo) :
    parseExtensions record.body record.hello.vectors.length out =
      (record.hello.extensions.getD []).foldlM keepExtension out := by
  cases present : record.hello.extensions with
  | none =>
      have ends : record.body = record.hello.vectors := by
        rw [body, ClientHello.body, ClientHello.extensionBlock, present,
          record.behindBlock present, List.append_nil, List.append_nil]
      rw [ends, parseExtensions_none]
      rfl
  | some extensions =>
      have placed : HoldsAt record.body record.hello.vectors.length
          (vector16 (extensions.flatMap HelloExtension.encode)) := by
        have whole : HoldsAt record.body 0
            (record.hello.vectors ++ vector16 (extensions.flatMap HelloExtension.encode)) := by
          rw [body, ClientHello.body, ClientHello.extensionBlock, present]
          exact holdsAt_zero.mpr ⟨_, rfl⟩
        have split := (holdsAt_append.mp whole).2
        rwa [Nat.zero_add] at split
      rw [parseExtensions_block (record.sized.extensions _ present) placed]
      rfl

theorem body_read :
    parseClientHelloBody record.body
        { protocol := .tls, tlsRecordVersion := record.version,
          tlsHandshakeType := tlsHandshakeClientHello } = helloVerdict record.kept := by
  rw [parseClientHelloBody, record.vectors_read]
  dsimp only
  rw [record.extensions_read, kept]
  change (match (record.hello.extensions.getD []).foldlM keepExtension record.base with
    | none => _
    | some filled => _) = _
  cases (record.hello.extensions.getD []).foldlM keepExtension record.base <;> rfl

theorem length_body : record.body.length =
    record.hello.body.length + record.bodyRest.length := List.length_append

theorem length_handshake : record.handshake.length =
    record.body.length + record.recordRest.length + 4 := by
  simp only [handshake, List.length_cons, List.length_append, length_encodeU24]
  omega

/-- A record is decoded as the metadata that its extensions leave, whatever follows. -/
theorem decoded {data : List UInt8} (placed : HoldsAt data 0 record.wire) :
    appTlsDecodeClientHello data = helloVerdict record.kept := by
  have fits := record.fits
  rw [← record.length_body] at fits
  have sized := record.length_handshake
  have room := placed.length_le (List.cons_ne_nil _ _)
  rw [wire, List.length_cons, List.length_append, length_encodeU16, length_vector16] at room
  obtain ⟨⟨_, contentType⟩, placed⟩ := holdsAt_cons.mp placed
  obtain ⟨version, placed⟩ := holdsAt_append.mp placed
  obtain ⟨_, version⟩ := holdsAt_u16.mp version
  obtain ⟨_, length, placed⟩ := (holdsAt_vector16 (by omega)).mp placed
  obtain ⟨⟨_, clientHello⟩, placed⟩ := holdsAt_cons.mp placed
  obtain ⟨bodyLength, placed⟩ := holdsAt_append.mp placed
  obtain ⟨_, bodyLength⟩ := (holdsAt_u24 (by omega)).mp bodyLength
  obtain ⟨bodyPlaced, _⟩ := holdsAt_append.mp placed
  simp only [Nat.zero_add, length_encodeU16, length_encodeU24, Nat.reduceAdd] at *
  have recordHeader : tlsRecordHeaderLen = 5 := rfl
  have handshakeHeader : tlsHandshakeHeaderLen = 4 := rfl
  have readLength : handshakeLength data = record.body.length := by
    rw [handshakeLength_eq, bodyLength]
  rw [appTlsDecodeClientHello_eq (by omega), contentType, version, if_neg (by simp [record.tls]),
    length, if_neg (by omega), if_neg (by omega), decodeHandshake_eq _ (by omega) (by omega),
    clientHello, if_neg (by simp), readLength, length, if_neg (by omega),
    holdsAt_iff_slice.mp bodyPlaced, record.body_read]

end HelloRecord

/-- A body that is read is that of a message. -/
theorem hello_of_body {body : List UInt8} {out filled : AppInfo}
    (read : parseClientHelloBody body out = (.ok, filled)) :
    ∃ hello : ClientHello, hello.Sized ∧ ∃ bodyRest, body = hello.body ++ bodyRest ∧
      (hello.extensions = none → bodyRest = []) := by
  rw [parseClientHelloBody] at read
  split at read
  · simp at read
  next clientVersion offset vectors =>
    obtain ⟨hello, sized, rfl, placed, rfl⟩ := clientHelloVectors_iff.mp vectors
    split at read
    · simp at read
    next kept parsed =>
      rcases block_of_parseExtensions parsed with ends | ⟨extensions, extensionsSized, block⟩
      · refine ⟨{ hello with extensions := none }, ⟨⟨sized.random, sized.sessionId,
          sized.cipherSuites, sized.compressionMethods⟩, by simp⟩, [], ?_, fun _ => rfl⟩
        have same := placed.eq_of_length (by rw [List.drop_zero, ends])
        rw [ClientHello.body, ClientHello.extensionBlock, List.append_nil, List.append_nil]
        rw [List.drop_zero] at same
        exact same.symm
      · have whole : HoldsAt body 0
            (hello.vectors ++ vector16 (extensions.flatMap HelloExtension.encode)) :=
          holdsAt_append.mpr ⟨placed, by rwa [Nat.zero_add]⟩
        obtain ⟨bodyRest, same⟩ := holdsAt_zero.mp whole
        refine ⟨{ hello with extensions := some extensions }, ⟨⟨sized.random, sized.sessionId,
          sized.cipherSuites, sized.compressionMethods⟩, ?_⟩, bodyRest, same, by simp⟩
        rintro _ ⟨rfl⟩
        exact extensionsSized

/-- Only records that carry a ClientHello are decoded with OK. -/
theorem helloRecord_of_ok {data : List UInt8} (ok : (appTlsDecodeClientHello data).1 = .ok) :
    ∃ record : HelloRecord, HoldsAt data 0 record.wire := by
  have recordHeader : tlsRecordHeaderLen = 5 := rfl
  have handshakeHeader : tlsHandshakeHeaderLen = 4 := rfl
  by_cases short : data.length < tlsRecordHeaderLen
  · rw [appTlsDecodeClientHello] at ok
    split_ifs at ok
  rw [appTlsDecodeClientHello_eq (by omega)] at ok
  split_ifs at ok with refused cut tiny
  rw [decodeHandshake_eq _ (by omega) (by omega)] at ok
  split_ifs at ok with otherHandshake beyond
  have read := Prod.ext (show _ = (AppDecodeResult.ok, _).1 from ok) rfl
  obtain ⟨hello, sized, bodyRest, body, behindBlock⟩ := hello_of_body read
  simp only [Bool.or_eq_true, decide_eq_true_eq, not_or, not_not] at refused otherHandshake
  have small : (readU16 data 3).toNat < 65536 := UInt16.toNat_lt _
  have bodyInside : 9 + handshakeLength data ≤ data.length := by omega
  obtain ⟨bodyPlaced, bodySized⟩ := holdsAt_slice (handshakeLength data) bodyInside
  rw [body] at bodyPlaced bodySized
  have restInside : 9 + handshakeLength data +
      ((readU16 data 3).toNat - 4 - handshakeLength data) ≤ data.length := by omega
  obtain ⟨restPlaced, restSized⟩ := holdsAt_slice _ restInside
  generalize (data.drop (9 + handshakeLength data)).take
    ((readU16 data 3).toNat - 4 - handshakeLength data) = recordRest at restPlaced restSized
  rw [List.length_append] at bodySized
  let record : HelloRecord :=
    { version := readU16 data 1
      hello := hello
      bodyRest := bodyRest
      recordRest := recordRest
      tls := refused.2
      sized := sized
      behindBlock := behindBlock
      fits := by omega }
  have length : record.body.length = handshakeLength data := record.length_body.trans bodySized
  have handshakeSized := record.length_handshake
  rw [length, show record.recordRest = recordRest from rfl, restSized] at handshakeSized
  refine ⟨record, holdsAt_cons.mpr ⟨⟨by omega, refused.1⟩, holdsAt_append.mpr
    ⟨holdsAt_u16.mpr ⟨by omega, rfl⟩, (holdsAt_vector16 (by omega)).mpr ⟨?_, ?_, ?_⟩⟩⟩⟩
  · rw [length_encodeU16]
    omega
  · change (readU16 data 3).toNat = record.handshake.length
    omega
  · refine holdsAt_cons.mpr ⟨⟨by rw [length_encodeU16]; omega, otherHandshake⟩,
      holdsAt_append.mpr ⟨(holdsAt_u24 (by omega)).mpr ⟨?_, ?_⟩, holdsAt_append.mpr ⟨?_, ?_⟩⟩⟩
    · rw [length_encodeU16]
      omega
    · rw [length, handshakeLength_eq]
      rfl
    · exact bodyPlaced
    · rw [length]
      exact restPlaced

end MiniSniffer
