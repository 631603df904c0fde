import MiniSniffer.App.HelloMetadata
import MiniSniffer.Filters

/-!
Contract: the ALPN filter against the messages themselves.

Owns the elements that the filter finds in a stored protocol list, in terms of the message's
protocol names, and the lists on which the filter is exact. The decoder stores names joined by
commas in a bounded array, so a comma inside a name, a NUL byte or the end of the array can part
the stored elements from the names.

Does not own the other display filters.
-/

namespace MiniSniffer

open Foundation

/-! ### Stored pieces -/

/-- The names as a reader of the stored list sees them: up to a NUL byte, and none before the first
that shows a byte. -/
def shownProtocols (protocols : List (List UInt8)) : List (List UInt8) :=
  (protocols.map cString).dropWhile List.isEmpty

/-- Where one more piece starts behind the given ones. -/
def nextPiece (pieces : List (List UInt8)) : Nat :=
  if pieces.isEmpty then 0 else ((ascii ",").intercalate pieces).length + 1

/-- What the array keeps of the shown names: the last ends where the array does. -/
def storedPieces (protocols : List (List UInt8)) : List (List UInt8) :=
  (shownProtocols protocols).dropLast ++
    ((shownProtocols protocols).getLast?.map fun last =>
      last.take (255 - nextPiece (shownProtocols protocols).dropLast)).toList

/-! ### Exact lists -/

/-- Between the commas of a text stand only names of the message, or nothing. -/
def NamesBetweenCommas (protocols : List (List UInt8)) (text : List UInt8) : Prop :=
  ∀ part ∈ text.splitOn 44, part ≠ [] → part ∈ protocols

/-- The bytes of the 255 that the last name finds free, behind a comma unless it comes first. -/
def roomForLast (protocols : List (List UInt8)) : Nat :=
  let before := (alpnText protocols.dropLast).length
  if before = 0 then 255 else 254 - before

/-- A name stands in front of the last one too: it is sent twice, or stands between the commas in
front of a NUL byte. -/
def StandsBefore (protocols : List (List UInt8)) (name : List UInt8) : Prop :=
  ∃ other ∈ protocols.dropLast, other = name ∨ 0 ∈ other ∧ name ∈ (cString other).splitOn 44

/-- No name without a NUL byte has a comma; what stands in front of a NUL byte has only names
between its commas; and a last name that does not fit stands elsewhere, and what is left of it has
only names between its commas. -/
structure AlpnListExact (protocols : List (List UInt8)) : Prop where
  noComma : ∀ protocol ∈ protocols, 0 ∉ protocol → 44 ∉ protocol
  beforeNul : ∀ protocol ∈ protocols.dropLast, 0 ∈ protocol →
    NamesBetweenCommas protocols (cString protocol)
  lastBeforeNul : ∀ last ∈ protocols.getLast?, 0 ∈ last →
    NamesBetweenCommas protocols ((cString last).take (roomForLast protocols))
  lastCut : ∀ last ∈ protocols.getLast?, 0 ∉ last → roomForLast protocols < last.length →
    StandsBefore protocols last ∧
      NamesBetweenCommas protocols (last.take (roomForLast protocols))

/-- Only the ALPN filter is on. -/
def alpnConfig (needle : List UInt8) : AppConfig :=
  { filterTlsAlpnEnabled := true, filterTlsAlpn := needle }

section Elements

variable {needle : List UInt8} {protocols : List (List UInt8)}

/-- The filter's token accumulator is the first element of a split. -/
theorem alpnListHas_iff (needle token list : List UInt8) :
    alpnListHas needle token list = true ↔
      needle ∈ (list.splitOn 44).modifyHead (token ++ ·) := by
  induction list generalizing token with
  | nil => simp [alpnListHas, eq_comm]
  | cons byte rest inductionHypothesis =>
      rw [alpnListHas, List.splitOn_cons_eq_if_modifyHead]
      by_cases comma : byte = 44
      · have whole : (rest.splitOn 44).modifyHead ([] ++ ·) = rest.splitOn 44 := by
          cases rest.splitOn 44 <;> rfl
        rw [if_pos comma, if_pos (by simpa using comma), Bool.or_eq_true, inductionHypothesis,
          whole]
        simp [eq_comm]
      · rw [if_neg comma, if_neg (by simpa using comma), inductionHypothesis]
        cases rest.splitOn 44 with
        | nil => rfl
        | cons first others => simp

theorem appHasAlpn_iff (list : List UInt8) (nonempty : needle ≠ []) (nulFree : 0 ∉ needle) :
    appHasAlpn list needle = true ↔ needle ∈ (cString list).splitOn 44 := by
  rw [appHasAlpn, cString_of_nulFree nulFree, if_neg nonempty, alpnListHas_iff]
  cases (cString list).splitOn 44 <;> rfl

theorem alpnText_eq_shown (protocols : List (List UInt8)) :
    alpnText protocols = (ascii ",").intercalate (shownProtocols protocols) :=
  foldl_joinWith _ _

/-- What stands before the last shown name is the text of the names before it. -/
theorem shown_concat (protocols : List (List UInt8)) (protocol : List UInt8) :
    shownProtocols (protocols ++ [protocol]) =
      if (shownProtocols protocols).isEmpty && (cString protocol).isEmpty then []
      else shownProtocols protocols ++ [cString protocol] := by
  rw [shownProtocols, List.map_append, List.dropWhile_append]
  rw [← shownProtocols]
  cases shown : shownProtocols protocols with
  | nil => cases seen : cString protocol <;> simp [seen]
  | cons first others => simp

/-- What is stored is the pieces joined by commas. -/
theorem stored_eq (fits : (alpnText protocols.dropLast).length ≤ 254) :
    (alpnText protocols).take 255 = (ascii ",").intercalate (storedPieces protocols) := by
  cases protocols using List.reverseRecOn with
  | nil => rfl
  | append_singleton protocols protocol =>
      rw [List.dropLast_concat, alpnText_eq_shown] at fits
      rw [alpnText_eq_shown, storedPieces, shown_concat]
      split_ifs with hidden
      · rfl
      · rw [List.dropLast_concat, List.getLast?_concat, Option.map_some, Option.toList_some,
          nextPiece]
        cases shown : shownProtocols protocols with
        | nil => simp
        | cons first others =>
            rw [shown] at fits
            have comma : (ascii ",").length = 1 := rfl
            rw [intercalate_concat (List.cons_ne_nil _ _),
              intercalate_concat (List.cons_ne_nil _ _), List.take_append, List.take_of_length_le]
            · simp [comma]
            · rw [List.length_append, comma]
              omega

/-- The filter finds exactly the elements of the stored pieces. -/
theorem alpn_matches_iff {alpn : List UInt8} (fits : (alpnText protocols.dropLast).length ≤ 254)
    (seen : cString alpn = (alpnText protocols).take 255) (nonempty : needle ≠ [])
    (nulFree : 0 ∉ needle) :
    appHasAlpn alpn needle = true ↔
      ∃ piece ∈ storedPieces protocols, needle ∈ piece.splitOn 44 := by
  rw [appHasAlpn_iff alpn nonempty nulFree, seen, stored_eq fits]
  by_cases empty : storedPieces protocols = []
  · rw [empty]
    simp [nonempty]
  · have split := splitOn_intercalate_eq_flatMap (44 : UInt8) empty
    rw [show ascii "," = [44] from rfl, split, List.mem_flatMap]

/-- Empty pieces have no elements. -/
theorem dropWhile_elements (nonempty : needle ≠ []) (pieces : List (List UInt8)) :
    (∃ piece ∈ pieces.dropWhile List.isEmpty, needle ∈ piece.splitOn 44) ↔
      ∃ piece ∈ pieces, needle ∈ piece.splitOn 44 := by
  induction pieces with
  | nil => rfl
  | cons piece pieces inductionHypothesis =>
      rw [List.dropWhile_cons]
      split_ifs with empty
      · rw [List.isEmpty_iff.mp empty, inductionHypothesis]
        simp [nonempty]
      · rfl

theorem alpnText_length_pos (shown : shownProtocols protocols ≠ []) :
    0 < (alpnText protocols).length := by
  rw [alpnText_eq_shown]
  cases pieces : shownProtocols protocols with
  | nil => contradiction
  | cons first others =>
      have seen : first.isEmpty = false := by
        have head := List.head?_dropWhile_not List.isEmpty (protocols.map cString)
        rw [← shownProtocols, pieces] at head
        simpa using head
      have some : 0 < first.length := by
        cases first with
        | nil => contradiction
        | cons byte bytes => exact Nat.succ_pos _
      cases others with
      | nil => simpa using some
      | cons second others =>
          rw [List.intercalate_cons_cons, List.length_append, List.length_append]
          omega

theorem roomForLast_concat (protocols : List (List UInt8)) (protocol : List UInt8) :
    roomForLast (protocols ++ [protocol]) = 255 - nextPiece (shownProtocols protocols) := by
  rw [roomForLast, List.dropLast_concat]
  by_cases shown : shownProtocols protocols = []
  · have none : (alpnText protocols).length = 0 := by
      rw [alpnText_eq_shown, shown]
      rfl
    rw [if_pos none, shown]
    rfl
  · have some := alpnText_length_pos shown
    rw [if_neg (by omega), nextPiece, if_neg (by simpa using shown), ← alpnText_eq_shown]
    omega

/-- The text stands between the commas of a name in front of the last, up to a NUL byte, or of what
fits of the last. -/
def StandsStored (protocols : List (List UInt8)) (needle : List UInt8) : Prop :=
  (∃ other ∈ protocols.dropLast, needle ∈ (cString other).splitOn 44) ∨
    ∃ last ∈ protocols.getLast?, needle ∈ ((cString last).take (roomForLast protocols)).splitOn 44

theorem stored_elements (nonempty : needle ≠ []) :
    (∃ piece ∈ storedPieces protocols, needle ∈ piece.splitOn 44) ↔
      StandsStored protocols needle := by
  have shown (protocols : List (List UInt8)) :
      (∃ piece ∈ shownProtocols protocols, needle ∈ piece.splitOn 44) ↔
        ∃ other ∈ protocols, needle ∈ (cString other).splitOn 44 := by
    rw [shownProtocols, dropWhile_elements nonempty]
    simp
  cases protocols using List.reverseRecOn with
  | nil => simp [storedPieces, shownProtocols, StandsStored]
  | append_singleton protocols protocol =>
      rw [StandsStored, List.dropLast_concat, List.getLast?_concat, roomForLast_concat, ← shown,
        storedPieces, shown_concat]
      split_ifs with hidden
      · rw [Bool.and_eq_true, List.isEmpty_iff, List.isEmpty_iff] at hidden
        simp [hidden.1, hidden.2, nonempty]
      · rw [List.dropLast_concat, List.getLast?_concat]
        simp [or_and_right, exists_or]

/-- A name without a NUL byte and a comma is stored as its own only element. -/
theorem plain_elements {protocol : List UInt8} (nulFree : 0 ∉ protocol) (noComma : 44 ∉ protocol) :
    (cString protocol).splitOn 44 = [protocol] := by
  rw [cString_of_nulFree nulFree, List.splitOn_eq_singleton noComma]

/-- Where exactly the names are stored, the list is exact. -/
theorem alpnListExact_of_agrees (sized : ∀ protocol ∈ protocols, ProtocolSized protocol)
    (agrees : ∀ needle : List UInt8, needle ≠ [] → 0 ∉ needle →
      (StandsStored protocols needle ↔ needle ∈ protocols)) : AlpnListExact protocols := by
  have noComma : ∀ protocol ∈ protocols, 0 ∉ protocol → 44 ∉ protocol := by
    intro protocol member nulFree
    rcases (agrees protocol (sized protocol member).1 nulFree).mpr member with
      ⟨_, _, element⟩ | ⟨_, _, element⟩ <;> exact not_mem_of_mem_splitOn element
  have between {text : List UInt8} (nulFree : 0 ∉ text)
      (stored : ∀ part ∈ text.splitOn 44, StandsStored protocols part) :
      NamesBetweenCommas protocols text := by
    intro part element nonempty
    refine (agrees part nonempty ?_).mp (stored part element)
    exact fun zero => nulFree (mem_of_mem_splitOn element zero)
  have kept (last : List UInt8) (isLast : last ∈ protocols.getLast?) :
      NamesBetweenCommas protocols ((cString last).take (roomForLast protocols)) :=
    between (fun zero => zero_not_mem_cString last (List.mem_of_mem_take zero))
      fun part element => Or.inr ⟨last, isLast, element⟩
  refine ⟨noComma, ?_, fun last isLast _ => kept last isLast, ?_⟩
  · intro protocol member _
    exact between (zero_not_mem_cString protocol)
      fun part element => Or.inl ⟨protocol, member, element⟩
  · intro last isLast nulFree cut
    have member := List.mem_of_getLast? isLast
    have names := kept last isLast
    rw [cString_of_nulFree nulFree] at names
    refine ⟨?_, names⟩
    rcases (agrees last (sized last member).1 nulFree).mpr member with
      ⟨other, before, element⟩ | ⟨same, isSame, element⟩
    · refine ⟨other, before, ?_⟩
      by_cases otherNul : 0 ∈ other
      · exact Or.inr ⟨otherNul, element⟩
      · rw [plain_elements otherNul (noComma other (List.mem_of_mem_dropLast before) otherNul),
          List.mem_singleton] at element
        exact Or.inl element.symm
    · -- what is left of the name is shorter than the name
      obtain rfl := Option.some.inj (isLast.symm.trans isSame)
      have noCommaLeft : 44 ∉ last.take (roomForLast protocols) :=
        fun comma => noComma last member nulFree (List.mem_of_mem_take comma)
      rw [cString_of_nulFree nulFree, List.splitOn_eq_singleton noCommaLeft,
        List.mem_singleton] at element
      have shorter := congrArg List.length element
      rw [List.length_take] at shorter
      omega

/-- What an exact list stores are its names. -/
theorem AlpnListExact.mem_of_stored (exact : AlpnListExact protocols) (nonempty : needle ≠ [])
    (stored : StandsStored protocols needle) : needle ∈ protocols := by
  rcases stored with ⟨other, before, element⟩ | ⟨last, isLast, element⟩
  · have member := List.mem_of_mem_dropLast before
    by_cases nul : 0 ∈ other
    · exact exact.beforeNul other before nul needle element nonempty
    · rw [plain_elements nul (exact.noComma other member nul), List.mem_singleton] at element
      rwa [element]
  · have member := List.mem_of_getLast? isLast
    by_cases nul : 0 ∈ last
    · exact exact.lastBeforeNul last isLast nul needle element nonempty
    · by_cases cut : roomForLast protocols < last.length
      · rw [cString_of_nulFree nul] at element
        exact (exact.lastCut last isLast nul cut).2 needle element nonempty
      · rw [List.take_of_length_le (by rw [cString_of_nulFree nul]; omega),
          plain_elements nul (exact.noComma last member nul), List.mem_singleton] at element
        rwa [element]

/-- An exact list stores each of its names. -/
theorem AlpnListExact.stored_of_mem (exact : AlpnListExact protocols) (nulFree : 0 ∉ needle)
    (member : needle ∈ protocols) : StandsStored protocols needle := by
  have own := plain_elements nulFree (exact.noComma needle member nulFree)
  cases protocols using List.reverseRecOn with
  | nil => contradiction
  | append_singleton protocols last =>
      rcases List.mem_append.mp member with before | isLast
      · refine Or.inl ⟨needle, by rwa [List.dropLast_concat], ?_⟩
        rw [own]
        exact List.mem_singleton_self needle
      · obtain rfl := List.mem_singleton.mp isLast
        by_cases cut : roomForLast (protocols ++ [needle]) < needle.length
        · obtain ⟨⟨other, before, same | ⟨-, element⟩⟩, -⟩ :=
            exact.lastCut needle List.getLast?_concat nulFree cut
          · refine Or.inl ⟨other, before, ?_⟩
            rw [same, own]
            exact List.mem_singleton_self needle
          · exact Or.inl ⟨other, before, element⟩
        · refine Or.inr ⟨needle, List.getLast?_concat, ?_⟩
          rw [List.take_of_length_le (by rw [cString_of_nulFree nulFree]; omega), own]
          exact List.mem_singleton_self needle

/-- The elements of the stored pieces are the protocol names exactly on exact lists. -/
theorem alpnListExact_iff (sized : ∀ protocol ∈ protocols, ProtocolSized protocol) :
    (∀ needle : List UInt8, needle ≠ [] → 0 ∉ needle →
      ((∃ piece ∈ storedPieces protocols, needle ∈ piece.splitOn 44) ↔ needle ∈ protocols)) ↔
      AlpnListExact protocols := by
  constructor
  · intro agrees
    apply alpnListExact_of_agrees sized
    intro needle nonempty nulFree
    exact (stored_elements nonempty).symm.trans (agrees needle nonempty nulFree)
  · intro exact needle nonempty nulFree
    rw [stored_elements nonempty]
    exact ⟨exact.mem_of_stored nonempty, exact.stored_of_mem nulFree⟩

theorem length_intercalate_concat (pieces : List (List UInt8)) (last : List UInt8) :
    ((ascii ",").intercalate (pieces ++ [last])).length = nextPiece pieces + last.length := by
  cases pieces with
  | nil => simp [nextPiece]
  | cons first others =>
      rw [intercalate_concat (List.cons_ne_nil _ _), List.length_append, List.length_append]
      rfl

/-- Plain names that fit whole are an exact list. -/
theorem alpnListExact_of_plain (nulFree : ∀ protocol ∈ protocols, 0 ∉ protocol)
    (noComma : ∀ protocol ∈ protocols, 44 ∉ protocol)
    (sized : ∀ protocol ∈ protocols, ProtocolSized protocol)
    (fits : ((ascii ",").intercalate protocols).length ≤ 255) : AlpnListExact protocols := by
  refine ⟨fun protocol member _ => noComma protocol member, ?_, ?_, ?_⟩
  · intro protocol member nul
    exact absurd nul (nulFree protocol (List.mem_of_mem_dropLast member))
  · intro last isLast nul
    exact absurd nul (nulFree last (List.mem_of_getLast? isLast))
  · intro last isLast _ cut
    cases protocols using List.reverseRecOn with
    | nil => contradiction
    | append_singleton protocols protocol =>
        obtain rfl := Option.some.inj (List.getLast?_concat.symm.trans isLast)
        have shown : shownProtocols protocols = protocols :=
          shown_nulFree (fun other member => sized other (List.mem_append_left _ member))
            fun other member => nulFree other (List.mem_append_left _ member)
        rw [length_intercalate_concat] at fits
        rw [roomForLast_concat, shown] at cut
        omega

end Elements

/-! ### Messages -/

/-- The metadata of a decoded record: a TLS message whose stored list is seen as the text of its
protocol names, cut to the array. -/
theorem HelloRecord.stored (record : HelloRecord) {data : List UInt8} {info : AppInfo}
    (placed : HoldsAt data 0 record.wire) (decoded : appTlsDecodeClientHello data = (.ok, info)) :
    info.protocol = .tls ∧ (alpnText record.hello.protocols.dropLast).length ≤ 254 ∧
      cString info.tlsAlpn = (alpnText record.hello.protocols).take 255 := by
  rw [record.decoded placed, record.kept_eq] at decoded
  have appended := appendProtocols_eq record.hello.protocols
  split_ifs at appended with fits
  · obtain ⟨alpn, appended, seen⟩ := appended
    rw [appended] at decoded
    obtain rfl := (Prod.mk.inj decoded).2
    exact ⟨rfl, fits, seen⟩
  · rw [appended] at decoded
    exact absurd (Prod.mk.inj decoded).1 (by decide)

theorem filtersMatch_alpn (idna : IdnaLookup) (packet : PacketInfo) (info : AppInfo)
    (needle : List UInt8) (tls : info.protocol = .tls) :
    filtersMatch idna (alpnConfig needle) { packet := packet, packetApp := some info } =
      appHasAlpn info.tlsAlpn needle := by
  simp [filtersMatch, packetFiltersMatch, protocolFilterMatches, portFilterMatches,
    hostFilterMatches, payloadTextFilterMatches, payloadHexFilterMatches, payloadFilterMatches,
    appFiltersMatch, appFiltersEnabled, appFilterMatchesOne, appFieldMatches, alpnConfig, tls]

/-- The ALPN filter finds exactly the protocol names of a decoded message, when these form an exact
list and only then. -/
theorem alpn_filter_exact (idna : IdnaLookup) (packet : PacketInfo) {data : List UInt8}
    {info : AppInfo} (decoded : appTlsDecodeClientHello data = (.ok, info)) :
    (∃ record : HelloRecord, HoldsAt data 0 record.wire) ∧
      ∀ record : HelloRecord, HoldsAt data 0 record.wire →
        ((∀ needle : List UInt8, needle ≠ [] → 0 ∉ needle →
            (filtersMatch idna (alpnConfig needle)
              { packet := packet, packetApp := some info } = true ↔
                needle ∈ record.hello.protocols)) ↔
          AlpnListExact record.hello.protocols) := by
  refine ⟨helloRecord_of_ok (by rw [decoded]), ?_⟩
  intro record placed
  obtain ⟨tls, fits, seen⟩ := record.stored placed decoded
  rw [← alpnListExact_iff record.sized.protocols]
  refine forall_congr' fun needle => forall_congr' fun nonempty => forall_congr' fun nulFree => ?_
  rw [filtersMatch_alpn idna packet info needle tls, alpn_matches_iff fits seen nonempty nulFree]

theorem alpn_filter_exact_sample :
    (∃ record : HelloRecord, HoldsAt sampleHelloRecord.wire 0 record.wire) ∧
      ∀ record : HelloRecord, HoldsAt sampleHelloRecord.wire 0 record.wire →
        ((∀ needle : List UInt8, needle ≠ [] → 0 ∉ needle →
            (filtersMatch none (alpnConfig needle)
              { packet := {}, packetApp := some sampleHelloRecord.metadata } = true ↔
                needle ∈ record.hello.protocols)) ↔
          AlpnListExact record.hello.protocols) :=
  alpn_filter_exact none {} (by decide +kernel)

/-- A ClientHello whose only protocol name has a comma. -/
def commaProtocolRecord : HelloRecord :=
  { sampleHelloRecord with
    hello := { sampleHello with extensions := some [.alpn [ascii "a,b"]] }
    sized := by
      refine ⟨⟨rfl, by decide, by decide, by decide⟩, ?_⟩
      rintro _ ⟨rfl⟩
      refine ⟨?_, by decide⟩
      intro extension member
      rw [List.mem_singleton.mp member]
      exact ⟨by decide, by decide⟩
    behindBlock := fun absent => absurd absent (Option.some_ne_none _)
    fits := by decide }

/-- The filter finds a name that the message does not offer, and misses the one it does. -/
theorem comma_splits_protocol :
    (appTlsDecodeClientHello commaProtocolRecord.wire).1 = .ok ∧
      ascii "a" ∉ commaProtocolRecord.hello.protocols ∧
      filtersMatch none (alpnConfig (ascii "a"))
        { packet := {}, packetApp := some (appTlsDecodeClientHello commaProtocolRecord.wire).2 } =
          true ∧
      ascii "a,b" ∈ commaProtocolRecord.hello.protocols ∧
      filtersMatch none (alpnConfig (ascii "a,b"))
        { packet := {}, packetApp := some (appTlsDecodeClientHello commaProtocolRecord.wire).2 } =
          false := by
  decide +kernel

end MiniSniffer
