import MiniSniffer.App.HttpLines

/-!
Contract: which start lines the HTTP decoder accepts (`src/app_http.c`).

Owns the start lines of HTTP as lines of words, the lines that are accepted beside them, and that
the decoder accepts exactly complete header blocks that begin with one or the other.

Does not own what is stored of a line: see `App.HttpMessages`.
-/

namespace MiniSniffer

open Foundation

/-! ### Lines -/

/-- The bytes before the first CRLF. -/
def startLine (data : List UInt8) : List UInt8 :=
  match findCrlf data with
  | none => data
  | some lineEnd => data.take lineEnd

def blankLine : List UInt8 := crlf ++ crlf

/-- Two words and a version, with a space between them. -/
structure RequestShape (line token path version : List UInt8) : Prop where
  words : line = token ++ 32 :: (path ++ 32 :: version)
  tokenWord : 32 ∉ token
  somePath : path ≠ []
  pathWord : 32 ∉ path
  versioned : ascii "HTTP/" <+: version

/-- A version, a space and three digits. -/
structure StatusShape (line version digits rest : List UInt8) : Prop where
  words : line = ascii "HTTP/" ++ version ++ 32 :: (digits ++ rest)
  versionWord : 32 ∉ version
  three : digits.length = 3
  numeric : digits.all isDigit

def GoodRequestLine (line : List UInt8) : Prop :=
  ∃ token path version, RequestShape line token path version ∧ token ∈ httpMethods

def GoodStatusLine (line : List UInt8) : Prop :=
  ∃ version digits rest, StatusShape line version digits rest ∧ version ≠ [] ∧
    (rest = [] ∨ ∃ reason, rest = 32 :: reason)

/-- A longer word that begins with a method stands where the method should. -/
def ExtendedMethodLine (line : List UInt8) : Prop :=
  ∃ token path version, RequestShape line token path version ∧ 8 ≤ version.length ∧
    (∃ method ∈ httpMethods, method <+: token) ∧ token ∉ httpMethods

/-- The digits go on into something else, or the version is missing. -/
def LooseStatusLine (line : List UInt8) : Prop :=
  ∃ version digits rest, StatusShape line version digits rest ∧ 12 ≤ line.length ∧
    (version = [] ∨ ∃ other more, rest = other :: more ∧ other ≠ 32)

/-- What the request parser and the signature let through. -/
def AcceptedRequestLine (line : List UInt8) : Prop :=
  ∃ token path version, RequestShape line token path version ∧ 8 ≤ version.length ∧
    ∃ method ∈ httpMethods, method <+: token

/-- What the status parser lets through. -/
def AcceptedStatusLine (line : List UInt8) : Prop :=
  ∃ version digits rest, StatusShape line version digits rest ∧ 12 ≤ line.length

/-! ### Shapes -/

section Shapes

variable {line token path version digits rest : List UInt8}

theorem words_unique {front other tail others : List UInt8} (absent : 32 ∉ front)
    (otherAbsent : 32 ∉ other) (same : front ++ 32 :: tail = other ++ 32 :: others) :
    front = other ∧ tail = others := by
  have found := memchr_append absent tail
  rw [same, memchr_append otherAbsent] at found
  obtain ⟨fronts, tails⟩ := List.append_inj same (Option.some.inj found).symm
  exact ⟨fronts, List.tail_eq_of_cons_eq tails⟩

/-- A request line is no status line. -/
theorem RequestShape.not_http (shape : RequestShape line token path version)
    {method : List UInt8} (known : method ∈ httpMethods) (starts : method <+: token) :
    ¬ ascii "HTTP/" <+: line := by
  rw [shape.words, prefix_append_cons_iff noSpace_http]
  intro status
  have method := methodText_of_known known
  exact (List.prefix_or_prefix_of_prefix starts status).elim method.notStatusHead method.notStatus

theorem StatusShape.http (shape : StatusShape line version digits rest) :
    ascii "HTTP/" <+: line := by
  rw [shape.words, List.append_assoc]
  exact List.prefix_append _ _

theorem RequestShape.token_unique {otherToken otherPath otherVersion : List UInt8}
    (shape : RequestShape line token path version)
    (other : RequestShape line otherToken otherPath otherVersion) : token = otherToken :=
  (words_unique shape.tokenWord other.tokenWord (shape.words.symm.trans other.words)).1

theorem StatusShape.unique {otherVersion otherDigits otherRest : List UInt8}
    (shape : StatusShape line version digits rest)
    (other : StatusShape line otherVersion otherDigits otherRest) :
    version = otherVersion ∧ rest = otherRest := by
  have word : ∀ {version : List UInt8}, 32 ∉ version → 32 ∉ ascii "HTTP/" ++ version :=
    fun absent member => (List.mem_append.mp member).elim noSpace_http absent
  obtain ⟨versions, tails⟩ := words_unique (word shape.versionWord) (word other.versionWord)
    (shape.words.symm.trans other.words)
  exact ⟨List.append_cancel_left versions,
    (List.append_inj tails (shape.three.trans other.three.symm)).2⟩

/-- The lines that are accepted beside the good ones are not good. -/
theorem not_good_of_extended (extended : ExtendedMethodLine line) :
    ¬ (GoodRequestLine line ∨ GoodStatusLine line) := by
  obtain ⟨token, path, version, shape, _, ⟨method, known, starts⟩, unknown⟩ := extended
  rintro (⟨goodToken, _, _, good, goodKnown⟩ | ⟨_, _, _, good, _⟩)
  · exact unknown (shape.token_unique good ▸ goodKnown)
  · exact shape.not_http known starts good.http

theorem not_good_of_loose (loose : LooseStatusLine line) :
    ¬ (GoodRequestLine line ∨ GoodStatusLine line) := by
  obtain ⟨version, digits, rest, shape, _, wrong⟩ := loose
  rintro (⟨token, _, _, good, known⟩ | ⟨_, _, _, good, someVersion, ends⟩)
  · exact good.not_http known List.prefix_rfl shape.http
  · obtain ⟨rfl, rfl⟩ := shape.unique good
    rcases wrong with noVersion | ⟨other, more, continued, notSpace⟩
    · exact someVersion noVersion
    · rcases ends with ended | ⟨reason, spaced⟩
      · exact List.cons_ne_nil _ _ (continued.symm.trans ended)
      · exact notSpace (List.head_eq_of_cons_eq (continued.symm.trans spaced))

end Shapes

/-! ### Parsers -/

section Parsers

variable {line : List UInt8} {out : AppInfo}

theorem parseRequestLine_isSome : (parseRequestLine line out).isSome = true ↔
    ∃ token path version, RequestShape line token path version ∧ token ≠ [] ∧
      8 ≤ version.length := by
  constructor
  · intro parsed
    by_cases oneWord : 32 ∉ line
    · rw [parseRequestLine_noSpace oneWord] at parsed
      contradiction
    obtain ⟨token, others, rfl, tokenWord⟩ := List.eq_append_cons_of_mem (not_not.mp oneWord)
    by_cases twoWords : 32 ∉ others
    · rw [parseRequestLine_oneSpace tokenWord twoWords] at parsed
      contradiction
    obtain ⟨path, version, rfl, pathWord⟩ := List.eq_append_cons_of_mem (not_not.mp twoWords)
    rw [parseRequestLine_split tokenWord pathWord] at parsed
    split_ifs at parsed with wrong
    · contradiction
    · rw [not_or, not_or, not_or, not_not, Nat.not_lt] at wrong
      obtain ⟨someToken, somePath, long, versioned⟩ := wrong
      exact ⟨token, path, version, ⟨rfl, tokenWord, somePath, pathWord, versioned⟩, someToken,
        long⟩
  · rintro ⟨token, path, version, shape, someToken, long⟩
    rw [shape.words, parseRequestLine_split shape.tokenWord shape.pathWord, if_neg]
    · rfl
    · rintro (noToken | noPath | short | noVersion)
      · exact someToken noToken
      · exact shape.somePath noPath
      · omega
      · exact noVersion shape.versioned

/-- A byte past the end reads as zero, which is no digit. -/
theorem startsWithStatus_iff {status : List UInt8} : startsWithStatus status ↔
    ∃ digits rest, status = digits ++ rest ∧ digits.length = 3 ∧ digits.all isDigit = true := by
  constructor
  · rintro ⟨first, second, third⟩
    match status with
    | [] => contradiction
    | [_] => contradiction
    | [_, _] => contradiction
    | hundreds :: tens :: ones :: rest =>
        refine ⟨[hundreds, tens, ones], rest, rfl, rfl, ?_⟩
        rw [List.all_eq_true]
        intro digit member
        rcases List.mem_cons.mp member with rfl | member
        · exact first
        rcases List.mem_cons.mp member with rfl | member
        · exact second
        · rw [List.mem_singleton.mp member]
          exact third
  · rintro ⟨digits, rest, rfl, three, numeric⟩
    match digits, three with
    | [hundreds, tens, ones], _ =>
        rw [List.all_eq_true] at numeric
        exact ⟨numeric hundreds (by simp), numeric tens (by simp), numeric ones (by simp)⟩

theorem parseStatusLine_isSome :
    (parseStatusLine line out).isSome = true ↔ AcceptedStatusLine line := by
  constructor
  · intro parsed
    by_cases oneWord : 32 ∉ line
    · rw [parseStatusLine_noSpace oneWord] at parsed
      contradiction
    obtain ⟨version, status, rfl, versionWord⟩ := List.eq_append_cons_of_mem (not_not.mp oneWord)
    rw [parseStatusLine_split versionWord] at parsed
    split_ifs at parsed with wrong
    · contradiction
    · rw [not_or, not_or, not_or, not_not, not_not, Nat.not_lt] at wrong
      obtain ⟨long, ⟨number, rfl⟩, _, status⟩ := wrong
      obtain ⟨digits, rest, rfl, three, numeric⟩ := startsWithStatus_iff.mp status
      refine ⟨number, digits, rest, ⟨rfl, ?_, three, numeric⟩, ?_⟩
      · exact fun member => versionWord (List.mem_append_right _ member)
      · rw [List.length_append, List.length_cons]
        omega
  · rintro ⟨version, digits, rest, shape, long⟩
    have versionWord : 32 ∉ ascii "HTTP/" ++ version :=
      fun member => (List.mem_append.mp member).elim noSpace_http shape.versionWord
    have total := congrArg List.length shape.words
    have three := shape.three
    rw [List.length_append, List.length_cons] at total
    rw [shape.words, parseStatusLine_split versionWord, if_neg]
    · rfl
    · rintro (short | noVersion | noStatus | noDigits)
      · omega
      · exact noVersion (List.prefix_append _ _)
      · rw [List.length_append] at noStatus
        omega
      · exact noDigits (startsWithStatus_iff.mpr ⟨digits, rest, rfl, three, shape.numeric⟩)

/-- A line that looks like HTTP and is parsed. -/
theorem accepted_iff :
    (ascii "HTTP/" <+: line ∨ ∃ method ∈ httpMethods, method <+: line) ∧
        (if startsWith line (ascii "HTTP/") then parseStatusLine line out
          else parseRequestLine line out).isSome = true ↔
      AcceptedRequestLine line ∨ AcceptedStatusLine line := by
  by_cases status : ascii "HTTP/" <+: line
  · have noRequest : ¬ AcceptedRequestLine line := by
      rintro ⟨_, _, _, shape, _, method, known, starts⟩
      exact shape.not_http known starts status
    rw [if_pos (startsWith_iff.mpr status), parseStatusLine_isSome]
    simp only [status, noRequest, true_or, true_and, false_or]
  · have noStatus : ¬ AcceptedStatusLine line := by
      rintro ⟨_, _, _, shape, _⟩
      exact status shape.http
    rw [if_neg (fun starts => status (startsWith_iff.mp starts)),
      parseRequestLine_isSome]
    simp only [status, noStatus, false_or, or_false]
    constructor
    · rintro ⟨⟨method, known, starts⟩, token, path, version, shape, _, long⟩
      rw [shape.words, prefix_append_cons_iff (methodText_of_known known).oneWord] at starts
      exact ⟨token, path, version, shape, long, method, known, starts⟩
    · rintro ⟨token, path, version, shape, long, method, known, starts⟩
      refine ⟨⟨method, known, ?_⟩, token, path, version, shape, ?_, long⟩
      · rw [shape.words]
        exact starts.trans (List.prefix_append _ _)
      · rintro rfl
        exact (methodText_of_known known).nonempty (List.prefix_nil.mp starts)

end Parsers

/-! ### The decoder -/

section Decoder

variable {data : List UInt8}

/-- What the signature sees of data is in its start line. -/
theorem looksLikeHttp_iff {lineEnd : Nat} (found : findCrlf data = some lineEnd) :
    looksLikeHttp data = true ↔ ascii "HTTP/" <+: data.take lineEnd ∨
      ∃ method ∈ httpMethods, method <+: data.take lineEnd := by
  obtain ⟨rest, after⟩ := firstMatch_holds found
  have split : data = data.take lineEnd ++ 13 :: (10 :: rest) := by
    conv => lhs; rw [← List.take_append_drop lineEnd data, ← after]
    rfl
  have noCr : 13 ∉ ascii "HTTP/" := by decide
  have same : ∀ {word : List UInt8}, 13 ∉ word → (startsWith data word = true ↔
      word <+: data.take lineEnd) := by
    intro word absent
    rw [startsWith_iff]
    conv => lhs; rw [split]
    exact prefix_append_cons_iff absent
  rw [looksLikeHttp, Bool.or_eq_true, same noCr, maybeHttpRequestPrefix, List.any_eq_true]
  apply or_congr_right
  apply exists_congr
  intro method
  apply and_congr_right
  intro known
  rw [Bool.or_eq_true, same (methodText_of_known known).oneLine]
  constructor
  · rintro (starts | head)
    · exact starts
    · -- data that is only the head of a method holds no line end
      rw [Bool.and_eq_true, List.isPrefixOf_iff_prefix] at head
      have lineBreak : 13 ∈ data := by
        rw [split]
        exact List.mem_append_right _ List.mem_cons_self
      exact absurd (head.2.subset lineBreak) (methodText_of_known known).oneLine
  · exact Or.inl

/-- Exactly complete header blocks with an accepted start line are decoded. -/
theorem appHttpDecode_ok_iff : (appHttpDecode data).1 = .ok ↔ blankLine <:+: data ∧
    (AcceptedRequestLine (startLine data) ∨ AcceptedStatusLine (startLine data)) := by
  have someBlank : blankLine ≠ [] := List.cons_ne_nil _ _
  by_cases complete : blankLine <:+: data
  · obtain ⟨position, blank⟩ : ∃ position, firstMatch blankLine data = some position := by
      rw [← Option.ne_none_iff_exists', ne_eq, firstMatch_eq_none_iff someBlank]
      exact not_not.mpr complete
    have inside := firstMatch_bound blank
    have headerEnd : findHeaderEnd data = some (position + 4) := congrArg (Option.map (· + 4)) blank
    have someByte : data.length ≠ 0 := by
      intro empty
      have four : blankLine.length = 4 := rfl
      omega
    -- the block holds a line end, which is the first one of the data
    obtain ⟨lineEnd, found⟩ : ∃ lineEnd, findCrlf (data.take (position + 4)) = some lineEnd := by
      rw [← Option.ne_none_iff_exists', ne_eq, findCrlf, firstMatch_eq_none_iff (by decide),
        not_not, List.take_add]
      have held : blankLine = (data.drop position).take 4 :=
        List.prefix_iff_eq_take.mp (firstMatch_holds blank)
      rw [← held]
      exact ⟨data.take position, crlf, by simp [blankLine, crlf]⟩
    have first : findCrlf data = some lineEnd := by
      conv => lhs; rw [← List.take_append_drop (position + 4) data]
      exact firstMatch_append _ found
    have lineInBlock := firstMatch_bound found
    have line : (data.take (position + 4)).take lineEnd = startLine data := by
      rw [List.length_take] at lineInBlock
      rw [startLine, first, List.take_take, Nat.min_eq_left (by omega)]
    have start : data.take lineEnd = startLine data := by rw [startLine, first]
    have looks := looksLikeHttp_iff first
    rw [start] at looks
    rw [← @accepted_iff _ { protocol := .http }, ← looks, appHttpDecode, if_neg someByte,
      headerEnd]
    simp only
    rw [decodeHttpBlock, found]
    simp only
    rw [line]
    cases looksLikeHttp data with
    | false => simp
    | true =>
        simp only [Bool.not_true, Bool.false_eq_true, if_false, complete, true_and]
        split <;> simp_all
  · have notFound : findHeaderEnd data = none :=
      congrArg (Option.map (· + 4)) ((firstMatch_eq_none_iff someBlank).mpr complete)
    rw [appHttpDecode, notFound]
    split_ifs <;> simp [complete]

end Decoder

/-- The decoder accepts only good start lines exactly where the data does not begin with one of the
two other kinds of line in a complete header block. -/
theorem http_start_line_iff (data : List UInt8) :
    ((appHttpDecode data).1 = .ok →
        GoodRequestLine (startLine data) ∨ GoodStatusLine (startLine data)) ↔
      ¬ (blankLine <:+: data ∧
        (ExtendedMethodLine (startLine data) ∨ LooseStatusLine (startLine data))) := by
  rw [appHttpDecode_ok_iff]
  constructor
  · rintro good ⟨complete, extended | loose⟩
    · obtain ⟨token, path, version, shape, long, starts, _⟩ := id extended
      exact not_good_of_extended extended
        (good ⟨complete, Or.inl ⟨token, path, version, shape, long, starts⟩⟩)
    · obtain ⟨version, digits, rest, shape, long, _⟩ := id loose
      exact not_good_of_loose loose
        (good ⟨complete, Or.inr ⟨version, digits, rest, shape, long⟩⟩)
  · rintro neither ⟨complete, ⟨token, path, version, shape, long, starts⟩ |
      ⟨version, digits, rest, shape, long⟩⟩
    · left
      by_contra notGood
      have unknown : token ∉ httpMethods :=
        fun known => notGood ⟨token, path, version, shape, known⟩
      exact neither ⟨complete, Or.inl ⟨token, path, version, shape, long, starts, unknown⟩⟩
    · right
      by_contra notGood
      refine neither ⟨complete, Or.inr ⟨version, digits, rest, shape, long, ?_⟩⟩
      by_cases noVersion : version = []
      · exact Or.inl noVersion
      match rest with
      | [] => exact absurd ⟨version, digits, [], shape, noVersion, Or.inl rfl⟩ notGood
      | other :: more =>
          refine Or.inr ⟨other, more, rfl, ?_⟩
          rintro rfl
          exact notGood ⟨version, digits, _, shape, noVersion, Or.inr ⟨more, rfl⟩⟩

/-- A word that begins with a method, and a status of four digits. -/
theorem extended_method_accepted :
    (appHttpDecode (ascii "GETX / HTTP/1.1" ++ blankLine)).1 = .ok ∧
      ¬ (GoodRequestLine (startLine (ascii "GETX / HTTP/1.1" ++ blankLine)) ∨
        GoodStatusLine (startLine (ascii "GETX / HTTP/1.1" ++ blankLine))) := by
  have line : startLine (ascii "GETX / HTTP/1.1" ++ blankLine) = ascii "GETX / HTTP/1.1" := by
    decide
  refine ⟨by decide, ?_⟩
  rw [line]
  refine not_good_of_extended ⟨ascii "GETX", ascii "/", ascii "HTTP/1.1", ?_, by decide, ?_,
    by decide⟩
  · exact ⟨by decide, by decide, by decide, by decide, List.prefix_rfl.trans ⟨ascii "1.1", rfl⟩⟩
  · exact ⟨ascii "GET", by decide, ascii "X", rfl⟩

end MiniSniffer
