import MiniSniffer.App.HttpLines
import MiniSniffer.Foundation.LastValue

/-!
Contract: HTTP headers read back from their serialisation (`src/app_http.c`).

Owns start lines, headers and header blocks as data with their wire form, and that the decoder
returns what was serialised, whatever body follows.

Does not own which other start lines are accepted: see `App.HttpStartLines`.
-/

namespace MiniSniffer

open Foundation

/-! ### Messages -/

/-- A byte of a path or of a version. -/
def wordByte (byte : UInt8) : Bool := !isSpace byte && byte != 0

/-- A byte of a reason or of a header. -/
def lineByte (byte : UInt8) : Bool := byte != 13 && byte != 10 && byte != 0

structure HttpVersion where
  number : List UInt8
  word : number.all wordByte
  sized : 3 ≤ number.length ∧ number.length ≤ 10

def HttpVersion.text (version : HttpVersion) : List UInt8 := ascii "HTTP/" ++ version.number

structure HttpRequestLine where
  method : List UInt8
  known : method ∈ httpMethods
  path : List UInt8
  nonempty : path ≠ []
  word : path.all wordByte
  version : HttpVersion

structure HttpStatusLine where
  version : HttpVersion
  code : Nat
  threeDigits : code < 1000
  reason : Option (List UInt8)
  oneLine : (reason.getD []).all lineByte

inductive HttpStartLine where
  | request (line : HttpRequestLine)
  | status (line : HttpStatusLine)

def statusDigits (code : Nat) : List UInt8 :=
  [UInt8.ofNat (48 + code / 100), UInt8.ofNat (48 + code / 10 % 10), UInt8.ofNat (48 + code % 10)]

/-- What stands behind the version of a status line. -/
def HttpStatusLine.status (line : HttpStatusLine) : List UInt8 :=
  statusDigits line.code ++ (line.reason.map fun reason => 32 :: reason).getD []

def HttpStartLine.text : HttpStartLine → List UInt8
  | .request line => line.method ++ 32 :: (line.path ++ 32 :: line.version.text)
  | .status line => line.version.text ++ 32 :: line.status

namespace HttpStartLine

def method : HttpStartLine → List UInt8
  | .request line => line.method
  | .status _ => []

def path : HttpStartLine → List UInt8
  | .request line => line.path
  | .status _ => []

def version : HttpStartLine → HttpVersion
  | .request line => line.version
  | .status line => line.version

def code : HttpStartLine → Nat
  | .request _ => 0
  | .status line => line.code

def reason : HttpStartLine → List UInt8
  | .request _ => []
  | .status line => line.reason.getD []

/-- What the decoder stores of a start line. -/
def fields : HttpStartLine → AppInfo
  | .request line => requestFields line.method line.path line.version.text { protocol := .http }
  | .status line => statusFields line.version.text line.status { protocol := .http }

end HttpStartLine

structure HttpHeader where
  name : List UInt8
  named : name ≠ []
  colonless : 58 ∉ name
  nameLine : name.all lineByte
  value : List UInt8
  valueLine : value.all lineByte

def HttpHeader.text (header : HttpHeader) : List UInt8 := header.name ++ 58 :: header.value

/-- The trimmed and cut value of a header with that name, in any case. -/
def HttpHeader.valueOf (name : List UInt8) (header : HttpHeader) : Option (List UInt8) :=
  if header.name.map toLower = name.map toLower then some ((trimSpaces header.value).take 255)
  else none

structure HttpMessage where
  line : HttpStartLine
  headers : List HttpHeader

def headerBlock (headers : List HttpHeader) : List UInt8 :=
  headers.flatMap fun header => header.text ++ crlf

def HttpMessage.wire (message : HttpMessage) : List UInt8 :=
  message.line.text ++ crlf ++ (headerBlock message.headers ++ crlf)

/-- What the decoder stores of a message. -/
def HttpMessage.metadata (message : HttpMessage) : AppInfo :=
  message.headers.foldl (fun out header => parseHeader header.text out) message.line.fields

/-! ### Bytes of lines -/

section Bytes

variable {bytes : List UInt8} {byte : UInt8}

theorem wordByte_iff : wordByte byte = true ↔ isSpace byte = false ∧ byte ≠ 0 := by
  simp [wordByte]

theorem cr_not_mem_line (oneLine : bytes.all lineByte) : 13 ∉ bytes := by
  intro member
  exact absurd (List.all_eq_true.mp oneLine 13 member) (by decide)

theorem not_mem_word (byte : UInt8) (word : bytes.all wordByte) (other : wordByte byte = false) :
    byte ∉ bytes := by
  intro member
  exact absurd (List.all_eq_true.mp word byte member) (Bool.eq_false_iff.mp other)

theorem isSpace_of_word (word : bytes.all wordByte) : ∀ byte ∈ bytes, isSpace byte = false :=
  fun byte member => (wordByte_iff.mp (List.all_eq_true.mp word byte member)).1

end Bytes

/-! ### Versions and digits -/

section Words

variable (version : HttpVersion)

theorem HttpVersion.length_text : version.text.length = version.number.length + 5 :=
  List.length_append.trans (Nat.add_comm _ _)

theorem HttpVersion.text_word : version.text.all wordByte := by
  rw [HttpVersion.text, List.all_append, version.word]
  decide

theorem HttpVersion.starts : ascii "HTTP/" <+: version.text := List.prefix_append _ _

theorem HttpVersion.copied : copyTrimmed 16 version.text = version.text := by
  have short : version.text.length ≤ 15 := by
    rw [version.length_text]
    have := version.sized
    omega
  rw [copyTrimmed_eq, trimSpaces_word (isSpace_of_word version.text_word)]
  exact List.take_of_length_le short

theorem statusDigits_spec {code : Nat} (small : code < 1000) (rest : List UInt8) :
    startsWithStatus (statusDigits code ++ rest) ∧
      statusCode (statusDigits code ++ rest) = code := by
  have digit : ∀ value < 10, isDigit (UInt8.ofNat (48 + value)) = true ∧
      (UInt8.ofNat (48 + value)).toNat - 48 = value := by decide
  have hundreds := digit (code / 100) (by omega)
  have tens := digit (code / 10 % 10) (by omega)
  have ones := digit (code % 10) (by omega)
  refine ⟨⟨hundreds.1, tens.1, ones.1⟩, ?_⟩
  show ((UInt8.ofNat (48 + code / 100)).toNat - 48) * 100 +
    ((UInt8.ofNat (48 + code / 10 % 10)).toNat - 48) * 10 +
    ((UInt8.ofNat (48 + code % 10)).toNat - 48) = code
  rw [hundreds.2, tens.2, ones.2]
  omega

end Words

/-! ### Start lines -/

section StartLines

theorem cr_not_mem_status (line : HttpStatusLine) : 13 ∉ line.status := by
  have digit : ∀ value < 10, (13 : UInt8) ≠ UInt8.ofNat (48 + value) := by decide
  have small := line.threeDigits
  rw [HttpStatusLine.status, List.mem_append, not_or]
  constructor
  · simp only [statusDigits, List.mem_cons, List.not_mem_nil, or_false, not_or]
    exact ⟨digit _ (by omega), digit _ (by omega), digit _ (by omega)⟩
  · have oneLine := line.oneLine
    cases reason : line.reason with
    | none => exact List.not_mem_nil
    | some reason =>
        rw [reason] at oneLine
        exact fun member => (List.mem_cons.mp member).elim (by decide) (cr_not_mem_line oneLine)

theorem HttpStartLine.cr_not_mem (line : HttpStartLine) : 13 ∉ line.text := by
  cases line with
  | request line =>
      have method := (methodText_of_known line.known).oneLine
      have path := not_mem_word 13 line.word (by decide)
      have version := not_mem_word 13 line.version.text_word (by decide)
      simp [HttpStartLine.text, method, path, version]
  | status line =>
      have version := not_mem_word 13 line.version.text_word (by decide)
      simp [HttpStartLine.text, cr_not_mem_status line, version]

theorem HttpStartLine.looksLikeHttp_text (line : HttpStartLine) (rest : List UInt8) :
    looksLikeHttp (line.text ++ rest) = true := by
  cases line with
  | request line =>
      rw [looksLikeHttp, Bool.or_eq_true]
      refine Or.inr (List.any_eq_true.mpr ⟨line.method, line.known, ?_⟩)
      rw [Bool.or_eq_true, startsWith_iff]
      refine Or.inl ?_
      rw [HttpStartLine.text, List.append_assoc]
      exact List.prefix_append _ _
  | status line =>
      rw [looksLikeHttp, Bool.or_eq_true, startsWith_iff]
      refine Or.inl (line.version.starts.trans ?_)
      rw [HttpStartLine.text, List.append_assoc]
      exact List.prefix_append _ _

/-- The start line is parsed into its fields. -/
theorem HttpStartLine.parsed (line : HttpStartLine) :
    (if startsWith line.text (ascii "HTTP/") then parseStatusLine line.text { protocol := .http }
      else parseRequestLine line.text { protocol := .http }) = some line.fields := by
  cases line with
  | request line =>
      have method := methodText_of_known line.known
      have pathWord := not_mem_word 32 line.word (by decide)
      have long := line.version.length_text
      have sized := line.version.sized
      have notStatus : ¬ startsWith (HttpStartLine.request line).text (ascii "HTTP/") = true := by
        rw [startsWith_iff, HttpStartLine.text, prefix_append_cons_iff noSpace_http]
        exact method.notStatus
      rw [if_neg notStatus, HttpStartLine.text, parseRequestLine_split method.oneWord pathWord,
        if_neg]
      · rfl
      · rintro (noMethod | noPath | short | noVersion)
        · exact method.nonempty noMethod
        · exact line.nonempty noPath
        · omega
        · exact noVersion line.version.starts
  | status line =>
      have versionWord := not_mem_word 32 line.version.text_word (by decide)
      have long := line.version.length_text
      have sized := line.version.sized
      have digits : (statusDigits line.code).length = 3 := rfl
      have three : 3 ≤ line.status.length := by
        rw [HttpStatusLine.status, List.length_append, digits]
        exact Nat.le_add_right 3 _
      have isStatus : startsWith (HttpStartLine.status line).text (ascii "HTTP/") = true := by
        rw [startsWith_iff]
        exact line.version.starts.trans (List.prefix_append _ _)
      rw [if_pos isStatus, HttpStartLine.text, parseStatusLine_split versionWord, if_neg]
      · rfl
      · rintro (short | noVersion | noStatus | noDigits)
        · omega
        · exact noVersion line.version.starts
        · omega
        · exact noDigits (statusDigits_spec line.threeDigits _).1

/-- What the fields of a start line are. -/
theorem HttpStartLine.fields_eq (line : HttpStartLine) :
    line.fields.httpMethod = line.method ∧ line.fields.httpPath = line.path.take 255 ∧
      line.fields.httpVersion = line.version.text ∧
      line.fields.httpStatusCode = UInt16.ofNat line.code ∧
      line.fields.httpReason = (trimSpaces line.reason).take 255 := by
  cases line with
  | request line =>
      have known := methodText_of_known line.known
      have method : copyTrimmed 16 line.method = line.method := by
        rw [copyTrimmed_eq, trimSpaces_word known.visible]
        exact List.take_of_length_le known.short
      have path : copyTrimmed minisnifferAppTextLen line.path = line.path.take 255 := by
        rw [copyTrimmed_eq, trimSpaces_word (isSpace_of_word line.word)]
        rfl
      exact ⟨method, path, line.version.copied, rfl, rfl⟩
  | status line =>
      have code := fun rest => (statusDigits_spec line.threeDigits rest).2
      have version := line.version.copied
      simp only [HttpStartLine.fields, statusFields, HttpStatusLine.status,
        HttpStartLine.method, HttpStartLine.path, HttpStartLine.version, HttpStartLine.code,
        HttpStartLine.reason, code]
      cases line.reason with
      | none => exact ⟨rfl, rfl, version, rfl, rfl⟩
      | some reason => exact ⟨rfl, rfl, version, rfl, rfl⟩

end StartLines

/-! ### Headers -/

section Headers

variable (header : HttpHeader) (headers : List HttpHeader) (out : AppInfo)

theorem HttpHeader.cr_not_mem : 13 ∉ header.text := by
  have name := cr_not_mem_line header.nameLine
  have value := cr_not_mem_line header.valueLine
  simp [HttpHeader.text, name, value]

theorem headerNameEquals_iff {bytes name : List UInt8} :
    headerNameEquals bytes name = true ↔ bytes.map toLower = name.map toLower := by
  rw [headerNameEquals, Bool.and_eq_true, beq_iff_eq, beq_iff_eq]
  constructor
  · exact And.right
  · intro same
    refine ⟨?_, same⟩
    simpa using congrArg List.length same

/-- One header line stores the value of the header it holds. -/
theorem parseHeader_text :
    (parseHeader header.text out).httpHost =
        (header.valueOf (ascii "Host")).getD out.httpHost ∧
      (parseHeader header.text out).httpUserAgent =
        (header.valueOf (ascii "User-Agent")).getD out.httpUserAgent ∧
      (parseHeader header.text out).httpContentType =
        (header.valueOf (ascii "Content-Type")).getD out.httpContentType := by
  have hostAgent : (ascii "Host").map toLower ≠ (ascii "User-Agent").map toLower := by decide
  have hostType : (ascii "Host").map toLower ≠ (ascii "Content-Type").map toLower := by decide
  have agentType : (ascii "User-Agent").map toLower ≠ (ascii "Content-Type").map toLower := by
    decide
  have value : header.text.drop (header.name.length + 1) = header.value := by
    rw [HttpHeader.text, drop_word]
  have name : header.text.take header.name.length = header.name := List.take_left
  have colon : memchr header.text 58 = some header.name.length :=
    memchr_append header.colonless header.value
  rw [parseHeader, colon]
  simp only [value, name, headerNameEquals_iff, HttpHeader.valueOf, copyTrimmed_eq]
  by_cases host : header.name.map toLower = (ascii "Host").map toLower
  · rw [host, if_pos rfl, if_pos rfl, if_neg hostAgent, if_neg hostType]
    exact ⟨rfl, rfl, rfl⟩
  by_cases agent : header.name.map toLower = (ascii "User-Agent").map toLower
  · rw [agent, if_neg hostAgent.symm, if_pos rfl, if_neg hostAgent.symm, if_pos rfl,
      if_neg agentType]
    exact ⟨rfl, rfl, rfl⟩
  by_cases type : header.name.map toLower = (ascii "Content-Type").map toLower
  · rw [type, if_neg hostType.symm, if_neg agentType.symm, if_pos rfl, if_neg hostType.symm,
      if_neg agentType.symm, if_pos rfl]
    exact ⟨rfl, rfl, rfl⟩
  · rw [if_neg host, if_neg agent, if_neg type, if_neg host, if_neg agent, if_neg type]
    exact ⟨rfl, rfl, rfl⟩

/-- The fields of the start line. -/
def startFields (out : AppInfo) : List UInt8 × List UInt8 × List UInt8 × UInt16 × List UInt8 :=
  (out.httpMethod, out.httpPath, out.httpVersion, out.httpStatusCode, out.httpReason)

theorem parseHeader_startFields (line : List UInt8) :
    startFields (parseHeader line out) = startFields out := by
  rw [parseHeader]
  split
  · rfl
  · simp only
    split_ifs <;> rfl

theorem parseHeadersLoop_block {passes : Nat} (enough : headers.length < passes) :
    parseHeadersLoop passes (headerBlock headers ++ crlf) out =
      headers.foldl (fun out header => parseHeader header.text out) out := by
  induction headers generalizing passes out with
  | nil =>
      obtain ⟨passes, rfl⟩ := Nat.exists_eq_succ_of_ne_zero (Nat.ne_zero_of_lt enough)
      rfl
  | cons header headers inductionHypothesis =>
      obtain ⟨passes, rfl⟩ := Nat.exists_eq_succ_of_ne_zero (Nat.ne_zero_of_lt enough)
      have someByte : header.text.length ≠ 0 := by
        rw [HttpHeader.text, List.length_append]
        exact Nat.succ_ne_zero _
      have block : headerBlock (header :: headers) ++ crlf =
          header.text ++ crlf ++ (headerBlock headers ++ crlf) := by
        rw [headerBlock, List.flatMap_cons, List.append_assoc]
        rfl
      have after : (header.text ++ crlf ++ (headerBlock headers ++ crlf)).drop
          (header.text.length + 2) = headerBlock headers ++ crlf :=
        List.drop_left' (List.length_append)
      rw [block, parseHeadersLoop, findCrlf_append header.cr_not_mem]
      simp only
      rw [if_neg someByte, after, List.append_assoc, List.take_left, List.foldl_cons]
      exact inductionHypothesis _ (Nat.lt_of_succ_lt_succ enough)

theorem length_le_headerBlock : headers.length ≤ (headerBlock headers).length := by
  induction headers with
  | nil => exact Nat.le_refl 0
  | cons header headers inductionHypothesis =>
      have ends : crlf.length = 2 := rfl
      rw [headerBlock, List.flatMap_cons, List.length_append, List.length_cons,
        List.length_append]
      rw [headerBlock] at inductionHypothesis
      omega

/-- The header block is read back header by header. -/
theorem parseHeaders_block :
    parseHeaders (headerBlock headers ++ crlf) out =
      headers.foldl (fun out header => parseHeader header.text out) out := by
  have bound := length_le_headerBlock headers
  have ends : crlf.length = 2 := rfl
  apply parseHeadersLoop_block
  rw [List.length_append]
  omega

/-- The first blank line is the one that ends the headers. -/
theorem firstMatch_headerEnd {line : List UInt8} (absent : 13 ∉ line) (body : List UInt8) :
    firstMatch [13, 10, 13, 10] (line ++ crlf ++ (headerBlock headers ++ crlf ++ body)) =
      some (line.length + (headerBlock headers).length) := by
  induction headers generalizing line with
  | nil =>
      rw [List.append_assoc, firstMatch_append_right absent]
      show Option.map (· + line.length) (some 0) = _
      rw [Option.map_some, Nat.zero_add]
      rfl
  | cons header headers inductionHypothesis =>
      have block : headerBlock (header :: headers) ++ crlf ++ body =
          header.text ++ crlf ++ (headerBlock headers ++ crlf ++ body) := by
        rw [headerBlock, List.flatMap_cons]
        simp only [List.append_assoc]
        rfl
      obtain ⟨first, rest, text⟩ : ∃ first rest, header.text = first :: rest :=
        List.exists_cons_of_ne_nil (by simp [HttpHeader.text])
      have notCr : first ≠ 13 := by
        intro same
        apply header.cr_not_mem
        rw [text, same]
        exact List.mem_cons_self
      have next := inductionHypothesis header.cr_not_mem
      have notBlank : ¬ [13, 10, 13, 10].isPrefixOf (13 :: 10 :: first :: (rest ++ crlf ++
          (headerBlock headers ++ crlf ++ body))) = true := by
        rw [List.isPrefixOf_iff_prefix]
        simp [notCr.symm]
      have notLf : ¬ [13, 10, 13, 10].isPrefixOf (10 :: first :: (rest ++ crlf ++
          (headerBlock headers ++ crlf ++ body))) = true := by
        rw [List.isPrefixOf_iff_prefix]
        simp
      have skip : firstMatch [13, 10, 13, 10] (crlf ++ (header.text ++ crlf ++
          (headerBlock headers ++ crlf ++ body))) =
          (firstMatch [13, 10, 13, 10] (header.text ++ crlf ++
            (headerBlock headers ++ crlf ++ body))).map (· + 2) := by
        rw [text]
        show firstMatch _ (13 :: 10 :: first :: (rest ++ crlf ++ (headerBlock headers ++ crlf ++
          body))) = _
        rw [firstMatch, if_neg notBlank, firstMatch, if_neg notLf, Option.map_map]
        rfl
      have total : (headerBlock (header :: headers)).length =
          header.text.length + 2 + (headerBlock headers).length := by
        rw [headerBlock, List.flatMap_cons, List.length_append, List.length_append]
        rfl
      rw [block, List.append_assoc, firstMatch_append_right absent, skip, next, Option.map_some,
        Option.map_some, total]
      congr 1
      omega

end Headers

/-! ### The decoder -/

section Decoder

variable (message : HttpMessage)

theorem findHeaderEnd_wire (body : List UInt8) :
    findHeaderEnd (message.wire ++ body) = some message.wire.length := by
  have ends : crlf.length = 2 := rfl
  have found := firstMatch_headerEnd message.headers message.line.cr_not_mem body
  rw [findHeaderEnd, HttpMessage.wire, List.append_assoc, found, Option.map_some]
  simp only [List.length_append, ends]
  congr 1
  omega

theorem decodeHttpBlock_wire : decodeHttpBlock message.wire = (.ok, message.metadata) := by
  have after : message.wire.drop (message.line.text.length + 2) =
      headerBlock message.headers ++ crlf := List.drop_left' List.length_append
  have line : message.wire.take message.line.text.length = message.line.text := by
    rw [HttpMessage.wire, List.append_assoc, List.take_left]
  have found : findCrlf message.wire = some message.line.text.length :=
    findCrlf_append message.line.cr_not_mem _
  rw [decodeHttpBlock, found]
  simp only
  rw [line, message.line.parsed, after]
  simp only
  rw [parseHeaders_block]
  rfl

theorem appHttpDecode_wire (body : List UInt8) :
    appHttpDecode (message.wire ++ body) = (.ok, message.metadata) := by
  have looks : looksLikeHttp (message.wire ++ body) = true := by
    rw [HttpMessage.wire, List.append_assoc, List.append_assoc]
    exact message.line.looksLikeHttp_text _
  have someByte : (message.wire ++ body).length ≠ 0 := by
    intro empty
    rw [List.eq_nil_of_length_eq_zero empty] at looks
    contradiction
  rw [appHttpDecode, if_neg someByte, looks, if_neg (by decide), findHeaderEnd_wire]
  simp only
  rw [List.take_left, decodeHttpBlock_wire]

/-- Headers touch only their own fields, and the last one with a name is the one that is kept. -/
theorem HttpMessage.metadata_eq :
    startFields message.metadata = startFields message.line.fields ∧
      message.metadata.httpHost =
        (lastValue (HttpHeader.valueOf (ascii "Host")) message.headers).getD [] ∧
      message.metadata.httpUserAgent =
        (lastValue (HttpHeader.valueOf (ascii "User-Agent")) message.headers).getD [] ∧
      message.metadata.httpContentType =
        (lastValue (HttpHeader.valueOf (ascii "Content-Type")) message.headers).getD [] := by
  have cleared : message.line.fields.httpHost = [] ∧ message.line.fields.httpUserAgent = [] ∧
      message.line.fields.httpContentType = [] := by
    cases message.line with
    | request line => exact ⟨rfl, rfl, rfl⟩
    | status line =>
        simp only [HttpStartLine.fields, statusFields]
        split_ifs <;> exact ⟨rfl, rfl, rfl⟩
  have unchanged := @foldl_unchanged HttpHeader AppInfo _ startFields
    (fun out header => parseHeader header.text out)
    (fun out header => parseHeader_startFields out header.text) message.headers message.line.fields
  have host := @foldl_lastValue HttpHeader AppInfo _ _ AppInfo.httpHost _
    (fun out header => (parseHeader_text header out).1) message.headers message.line.fields
  have agent := @foldl_lastValue HttpHeader AppInfo _ _ AppInfo.httpUserAgent _
    (fun out header => (parseHeader_text header out).2.1) message.headers message.line.fields
  have type := @foldl_lastValue HttpHeader AppInfo _ _ AppInfo.httpContentType _
    (fun out header => (parseHeader_text header out).2.2) message.headers message.line.fields
  rw [cleared.1] at host
  rw [cleared.2.1] at agent
  rw [cleared.2.2] at type
  exact ⟨unchanged, host, agent, type⟩

end Decoder

/-- A header block is read back whatever body follows: the words of the start line, with path and
reason cut to their arrays, and of each header that is kept the last value. -/
theorem http_message_read_back (message : HttpMessage) :
    ∃ info : AppInfo, (∀ body, appHttpDecode (message.wire ++ body) = (.ok, info)) ∧
      info.httpMethod = message.line.method ∧
      info.httpPath = message.line.path.take 255 ∧
      info.httpVersion = message.line.version.text ∧
      info.httpStatusCode = UInt16.ofNat message.line.code ∧
      info.httpReason = (trimSpaces message.line.reason).take 255 ∧
      info.httpHost = (lastValue (HttpHeader.valueOf (ascii "Host")) message.headers).getD [] ∧
      info.httpUserAgent =
        (lastValue (HttpHeader.valueOf (ascii "User-Agent")) message.headers).getD [] ∧
      info.httpContentType =
        (lastValue (HttpHeader.valueOf (ascii "Content-Type")) message.headers).getD [] := by
  obtain ⟨start, kept⟩ := message.metadata_eq
  obtain ⟨method, path, version, code, reason⟩ := message.line.fields_eq
  rw [startFields, startFields, Prod.mk.injEq, Prod.mk.injEq, Prod.mk.injEq, Prod.mk.injEq] at start
  obtain ⟨sameMethod, samePath, sameVersion, sameCode, sameReason⟩ := start
  exact ⟨message.metadata, appHttpDecode_wire message, sameMethod.trans method,
    samePath.trans path, sameVersion.trans version, sameCode.trans code, sameReason.trans reason,
    kept⟩

/-- A response with a reason one byte too long for its array. -/
def longReasonMessage : HttpMessage where
  line := .status
    { version := { number := ascii "1.1", word := rfl, sized := by decide }
      code := 200
      threeDigits := by decide
      reason := some (List.replicate 256 97)
      oneLine := by rw [Option.getD_some, List.all_replicate]; rfl }
  headers := []

/-- The reason is cut like every other text. -/
theorem long_reason_cut : ¬ ∀ message : HttpMessage, ∃ info : AppInfo,
    (∀ body, appHttpDecode (message.wire ++ body) = (.ok, info)) ∧
      info.httpReason = trimSpaces message.line.reason := by
  intro uncut
  obtain ⟨info, decoded, reason⟩ := uncut longReasonMessage
  have metadata : info = longReasonMessage.metadata :=
    congrArg Prod.snd ((decoded []).symm.trans (appHttpDecode_wire longReasonMessage []))
  have stored : info.httpReason = (trimSpaces longReasonMessage.line.reason).take 255 := by
    rw [metadata]
    exact longReasonMessage.line.fields_eq.2.2.2.2
  have spaceless : ∀ byte ∈ List.replicate 256 (97 : UInt8), isSpace byte = false := by
    intro byte member
    rw [List.eq_of_mem_replicate member]
    rfl
  have sent : trimSpaces longReasonMessage.line.reason = List.replicate 256 97 :=
    trimSpaces_word spaceless
  have lengths := congrArg List.length (reason.symm.trans stored)
  rw [sent, List.length_take, List.length_replicate] at lengths
  omega

end MiniSniffer
