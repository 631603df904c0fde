import Mathlib.Data.List.DropRight
import MiniSniffer.App.Http

/-!
Contract: what the line scans of the HTTP decoder find (`src/app_http.c`).

Owns where a byte, a line end and the end of the headers are found in bytes of known parts, what
the known methods have in common, and each start-line parser as a function of the words of its
line.

Does not own which lines are well formed: see `App.HttpMessages` and `App.HttpStartLines`.
-/

namespace MiniSniffer

open Foundation

def crlf : List UInt8 := [13, 10]

/-- Whitespace taken off both ends. -/
def trimSpaces (bytes : List UInt8) : List UInt8 := (bytes.dropWhile isSpace).rdropWhile isSpace

theorem copyTrimmed_eq (destinationSize : Nat) (bytes : List UInt8) :
    copyTrimmed destinationSize bytes = (trimSpaces bytes).take (destinationSize - 1) := rfl

theorem trimSpaces_word {bytes : List UInt8} (word : ∀ byte ∈ bytes, isSpace byte = false) :
    trimSpaces bytes = bytes := by
  have front : bytes.dropWhile isSpace = bytes := by
    cases bytes with
    | nil => rfl
    | cons head rest => rw [List.dropWhile_cons, if_neg (by simp [word head List.mem_cons_self])]
  rw [trimSpaces, front, List.rdropWhile_eq_self_iff]
  intro someByte
  rw [word _ (List.getLast_mem someByte)]
  decide

/-! ### Scans -/

theorem startsWith_iff {data expected : List UInt8} :
    startsWith data expected = true ↔ expected <+: data := List.isPrefixOf_iff_prefix

section Scans

variable {front rest : List UInt8} {wanted : UInt8}

theorem memchr_append (absent : wanted ∉ front) (rest : List UInt8) :
    memchr (front ++ wanted :: rest) wanted = some front.length := by
  have none : front.findIdx? (· == wanted) = none := by
    rw [List.findIdx?_eq_none_iff]
    intro byte member
    exact beq_false_of_ne fun same => absent (same ▸ member)
  rw [memchr, List.findIdx?_append, none, List.findIdx?_cons, beq_self_eq_true]
  simp

theorem memchr_absent (absent : wanted ∉ front) : memchr front wanted = none := by
  rw [memchr, List.findIdx?_eq_none_iff]
  intro byte member
  exact beq_false_of_ne fun same => absent (same ▸ member)

/-- What follows a word and the byte behind it. -/
theorem drop_word (front rest : List UInt8) (wanted : UInt8) :
    (front ++ wanted :: rest).drop (front.length + 1) = rest := by
  rw [List.drop_length_add_append]
  rfl

theorem findCrlf_append (absent : 13 ∉ front) (rest : List UInt8) :
    findCrlf (front ++ crlf ++ rest) = some front.length := by
  rw [findCrlf, crlf, List.append_assoc, firstMatch_append_right absent]
  show Option.map (· + front.length) (some 0) = _
  rw [Option.map_some, Nat.zero_add]

/-- A word in front of a byte that it lacks lies before that byte. -/
theorem prefix_append_cons_iff {word : List UInt8} (absent : wanted ∉ word) :
    word <+: front ++ wanted :: rest ↔ word <+: front := by
  constructor
  · intro inWhole
    rcases List.prefix_or_prefix_of_prefix inWhole (List.prefix_append front _) with inside | past
    · exact inside
    · obtain ⟨more, rfl⟩ := past
      cases more with
      | nil => simp
      | cons first more =>
          rw [List.prefix_append_right_inj, List.cons_prefix_cons] at inWhole
          rw [inWhole.1] at absent
          exact absurd (List.mem_append_right _ List.mem_cons_self) absent
  · intro inFront
    exact inFront.trans (List.prefix_append front _)

end Scans

/-! ### Methods -/

theorem noSpace_http : 32 ∉ ascii "HTTP/" := by decide

/-- What the decoder relies on in the text of a method. -/
structure MethodText (method : List UInt8) : Prop where
  nonempty : method ≠ []
  short : method.length ≤ 15
  oneWord : 32 ∉ method
  oneLine : 13 ∉ method
  visible : ∀ byte ∈ method, isSpace byte = false
  notStatus : ¬ ascii "HTTP/" <+: method
  notStatusHead : ¬ method <+: ascii "HTTP/"

theorem methodText_of_known {method : List UInt8} (known : method ∈ httpMethods) :
    MethodText method := by
  have each : ∀ method ∈ httpMethods, method ≠ [] ∧ method.length ≤ 15 ∧ 32 ∉ method ∧
      13 ∉ method ∧ method.all (fun byte => !isSpace byte) = true ∧
      ¬ ascii "HTTP/" <+: method ∧ ¬ method <+: ascii "HTTP/" := by decide
  obtain ⟨nonempty, short, oneWord, oneLine, visible, notStatus, notStatusHead⟩ :=
    each method known
  have spaceless : ∀ byte ∈ method, isSpace byte = false := by
    intro byte member
    have seen := List.all_eq_true.mp visible byte member
    simpa using seen
  exact ⟨nonempty, short, oneWord, oneLine, spaceless, notStatus, notStatusHead⟩

/-! ### Start lines -/

section StartLines

variable {token path version status : List UInt8}

/-- What a request line stores. -/
def requestFields (token path version : List UInt8) (out : AppInfo) : AppInfo :=
  let method := copyTrimmed 16 token
  let shownPath := copyTrimmed minisnifferAppTextLen path
  { out with
    httpMethod := method
    httpPath := shownPath
    httpVersion := copyTrimmed 16 version
    summary := fitText minisnifferAppSummaryLen
      (ascii "HTTP request " ++ cString method ++ ascii " " ++ cString shownPath) }

/-- A request line by its words. -/
theorem parseRequestLine_split (tokenWord : 32 ∉ token) (pathWord : 32 ∉ path) (out : AppInfo) :
    parseRequestLine (token ++ 32 :: (path ++ 32 :: version)) out =
      if token = [] ∨ path = [] ∨ version.length < 8 ∨ ¬ ascii "HTTP/" <+: version then none
      else some (requestFields token path version out) := by
  rw [parseRequestLine, memchr_append tokenWord]
  simp only
  rw [drop_word, memchr_append pathWord]
  simp only
  rw [drop_word, List.take_left, List.take_left]
  simp only [List.length_eq_zero_iff, Bool.or_eq_true, decide_eq_true_eq, Bool.not_eq_true',
    ← Bool.not_eq_true, startsWith_iff]
  by_cases noToken : token = []
  · rw [if_pos noToken, if_pos (Or.inl noToken)]
  by_cases noPath : path = []
  · rw [if_neg noToken, if_pos noPath, if_pos (Or.inr (Or.inl noPath))]
  · rw [if_neg noToken, if_neg noPath]
    simp only [noToken, noPath, false_or]
    rfl

theorem parseRequestLine_noSpace {line : List UInt8} (oneWord : 32 ∉ line) (out : AppInfo) :
    parseRequestLine line out = none := by
  rw [parseRequestLine, memchr_absent oneWord]

theorem parseRequestLine_oneSpace (tokenWord : 32 ∉ token) (pathWord : 32 ∉ path)
    (out : AppInfo) : parseRequestLine (token ++ 32 :: path) out = none := by
  rw [parseRequestLine, memchr_append tokenWord]
  simp only
  rw [drop_word, memchr_absent pathWord]
  split <;> rfl

/-- The number of three digits. -/
def statusCode (status : List UInt8) : Nat :=
  ((byteAt status 0).toNat - 48) * 100 + ((byteAt status 1).toNat - 48) * 10 +
    ((byteAt status 2).toNat - 48)

def startsWithStatus (status : List UInt8) : Prop :=
  isDigit (byteAt status 0) = true ∧ isDigit (byteAt status 1) = true ∧
    isDigit (byteAt status 2) = true

instance (status : List UInt8) : Decidable (startsWithStatus status) :=
  inferInstanceAs (Decidable (_ ∧ _))

/-- What a status line stores: a reason only behind a space. -/
def statusFields (version status : List UInt8) (out : AppInfo) : AppInfo :=
  let versioned :=
    { out with
      httpVersion := copyTrimmed 16 version
      httpStatusCode := UInt16.ofNat (statusCode status) }
  let reason := status.drop 3
  let withReason :=
    if reason.head? = some 32 then
      { versioned with httpReason := copyTrimmed minisnifferAppTextLen (reason.drop 1) }
    else versioned
  { withReason with
    summary := fitText minisnifferAppSummaryLen
      (ascii "HTTP response " ++ decimalText (statusCode status)) }

/-- A status line by its words. -/
theorem parseStatusLine_split (versionWord : 32 ∉ version) (out : AppInfo) :
    parseStatusLine (version ++ 32 :: status) out =
      if version.length + status.length < 11 ∨ ¬ ascii "HTTP/" <+: version ∨ status.length < 3 ∨
          ¬ startsWithStatus status then none
      else some (statusFields version status out) := by
  have total : (version ++ 32 :: status).length = version.length + status.length + 1 := by
    rw [List.length_append, List.length_cons, Nat.add_assoc]
  have long : ¬ (version.length + status.length + 1 < 12 ∨ ¬ ascii "HTTP/" <+: version) ↔
      ¬ version.length + status.length < 11 ∧ ascii "HTTP/" <+: version := by
    rw [not_or, not_not, show version.length + status.length + 1 < 12 ↔
      version.length + status.length < 11 by omega]
  rw [parseStatusLine, memchr_append versionWord]
  simp only [total, Bool.or_eq_true, decide_eq_true_eq, Bool.not_eq_true', ← Bool.not_eq_true,
    startsWith_iff, prefix_append_cons_iff noSpace_http]
  rw [drop_word, List.take_left]
  by_cases short : version.length + status.length < 11
  · rw [if_pos (Or.inl (by omega)), if_pos (Or.inl short)]
  by_cases other : ¬ ascii "HTTP/" <+: version
  · rw [if_pos (Or.inr other), if_pos (Or.inr (Or.inl other))]
  by_cases noStatus : status.length < 3
  · rw [if_neg (long.mpr ⟨short, not_not.mp other⟩), if_pos (by omega),
      if_pos (Or.inr (Or.inr (Or.inl noStatus)))]
  rw [if_neg (long.mpr ⟨short, not_not.mp other⟩), if_neg (by omega)]
  simp only [short, other, noStatus, false_or, startsWithStatus, not_and_or, or_assoc]
  rfl

theorem parseStatusLine_noSpace {line : List UInt8} (oneWord : 32 ∉ line) (out : AppInfo) :
    parseStatusLine line out = none := by
  rw [parseStatusLine, memchr_absent oneWord]
  split <;> rfl

end StartLines

end MiniSniffer
