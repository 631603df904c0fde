import MiniSniffer.Parser.Parse

/-!
Contract: the loop over IPv6 extension headers (`find_ipv6_transport` of `src/parser.c`).

Owns the loop as a relation whose derivations are its passes, that it ends on every input with one
result, and that the bounded walk of the parser returns that result.

Does not own what the chain is made of: see `Parser.ExtensionChain`.
-/

namespace MiniSniffer

open Foundation

/-- The bytes of the header at an offset. -/
def extensionLengthAt (packet : List UInt8) (nextHeader : UInt8) (offset : Nat) : Nat :=
  ipv6ExtensionHeaderLength (byteAt packet (offset + 1)) nextHeader

/-- The loop from a header at an offset to where it stops. -/
inductive ExtensionWalk (packet : List UInt8) (packetLen : Nat) :
    UInt8 → Nat → IPv6Transport → Prop
  | reached {nextHeader : UInt8} {offset : Nat}
      (other : ipv6ExtensionHeaderIsSkippable nextHeader = false) :
      ExtensionWalk packet packetLen nextHeader offset ⟨nextHeader, offset, true⟩
  | cut {nextHeader : UInt8} {offset : Nat}
      (skippable : ipv6ExtensionHeaderIsSkippable nextHeader = true)
      (short : packetLen < offset + 2 ∨
        packetLen < offset + extensionLengthAt packet nextHeader offset) :
      ExtensionWalk packet packetLen nextHeader offset ⟨nextHeader, offset, false⟩
  | skip {nextHeader : UInt8} {offset : Nat} {result : IPv6Transport}
      (skippable : ipv6ExtensionHeaderIsSkippable nextHeader = true)
      (captured : offset + extensionLengthAt packet nextHeader offset ≤ packetLen)
      (rest : ExtensionWalk packet packetLen (byteAt packet offset)
        (offset + extensionLengthAt packet nextHeader offset) result) :
      ExtensionWalk packet packetLen nextHeader offset result

section Walk

variable {packet : List UInt8} {packetLen passes offset : Nat} {nextHeader : UInt8}
variable {result other : IPv6Transport}

/-- No extension header is shorter than eight bytes. -/
theorem eight_le_extensionLength (lengthByte nextHeader : UInt8) :
    8 ≤ ipv6ExtensionHeaderLength lengthByte nextHeader := by
  rw [ipv6ExtensionHeaderLength]
  split_ifs <;> omega

theorem eight_le_extensionLengthAt : 8 ≤ extensionLengthAt packet nextHeader offset :=
  eight_le_extensionLength _ _

/-- A pass for each byte behind the offset, and one more, are enough. -/
theorem skipIpv6Extensions_walk (enough : packetLen - offset < passes) :
    ExtensionWalk packet packetLen nextHeader offset
      (skipIpv6Extensions packet packetLen passes nextHeader offset) := by
  induction passes generalizing nextHeader offset with
  | zero => exact absurd enough (Nat.not_lt_zero _)
  | succ passes inductionHypothesis =>
      have eight : 8 ≤ extensionLengthAt packet nextHeader offset := eight_le_extensionLengthAt
      rw [skipIpv6Extensions]
      cases skippable : ipv6ExtensionHeaderIsSkippable nextHeader with
      | false => exact .reached skippable
      | true =>
          rw [if_neg (by decide)]
          by_cases noLength : packetLen < offset + 2
          · rw [if_pos noLength]
            exact .cut skippable (Or.inl noLength)
          rw [if_neg noLength]
          simp only
          split_ifs with stops
          · rw [Bool.or_eq_true, decide_eq_true_eq, decide_eq_true_eq] at stops
            exact .cut skippable (Or.inr (stops.resolve_left (Nat.not_lt.mpr eight)))
          · rw [Bool.or_eq_true, decide_eq_true_eq, decide_eq_true_eq, not_or] at stops
            have captured := Nat.le_of_not_lt stops.2
            exact .skip skippable captured
              (inductionHypothesis (show packetLen - (offset + extensionLengthAt _ _ _) < passes by
                omega))

theorem ExtensionWalk.unique (walk : ExtensionWalk packet packetLen nextHeader offset result)
    (again : ExtensionWalk packet packetLen nextHeader offset other) : result = other := by
  induction walk with
  | reached notSkippable =>
      cases again with
      | reached => rfl
      | cut skippable => exact absurd skippable (by simp [notSkippable])
      | skip skippable => exact absurd skippable (by simp [notSkippable])
  | @cut nextHeader offset skippable short =>
      have eight : 8 ≤ extensionLengthAt packet nextHeader offset := eight_le_extensionLengthAt
      cases again with
      | reached notSkippable => exact absurd skippable (by simp [notSkippable])
      | cut => rfl
      | skip _ captured => omega
  | @skip nextHeader offset _ skippable captured rest inductionHypothesis =>
      have eight : 8 ≤ extensionLengthAt packet nextHeader offset := eight_le_extensionLengthAt
      cases again with
      | reached notSkippable => exact absurd skippable (by simp [notSkippable])
      | cut _ short => omega
      | skip _ _ again => exact inductionHypothesis again

/-- The loop ends on every input, with what the bounded walk returns. -/
theorem extensionWalk_iff : ExtensionWalk packet packetLen nextHeader offset result ↔
    skipIpv6Extensions packet packetLen (packetLen + 1) nextHeader offset = result := by
  have ends : ExtensionWalk packet packetLen nextHeader offset
      (skipIpv6Extensions packet packetLen (packetLen + 1) nextHeader offset) :=
    skipIpv6Extensions_walk (by omega)
  constructor
  · intro walk
    exact ends.unique walk
  · rintro rfl
    exact ends

end Walk

/-- What is made of the header that the loop stopped at. -/
def transportBehind (packet : List UInt8) (packetLen : Nat) (stopped : IPv6Transport) :
    IPv6Transport :=
  if !stopped.transportReachable then stopped
  else if stopped.nextHeader = ipv6ProtocolFragment then
    { stopped with
      nextHeader :=
        if packetLen ≥ stopped.transportOffset + 8 then byteAt packet stopped.transportOffset
        else stopped.nextHeader
      transportReachable := false }
  else if stopped.nextHeader = ipv6ProtocolEsp || stopped.nextHeader = ipv6ProtocolNoNext then
    { stopped with transportReachable := false }
  else stopped

theorem findIpv6Transport_of_walk {packet : List UInt8} {packetLen offset : Nat}
    {nextHeader : UInt8} {stopped : IPv6Transport}
    (walk : ExtensionWalk packet packetLen nextHeader offset stopped) :
    findIpv6Transport packet packetLen offset nextHeader =
      transportBehind packet packetLen stopped := by
  rw [findIpv6Transport, extensionWalk_iff.mp walk]
  rfl

end MiniSniffer
