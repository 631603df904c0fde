import MiniSniffer.Capture.Prefilter
import MiniSniffer.Foundation.Separated

/-!
Contract: the text of the kernel pre-filter (`append_bpf_clause` and `build_bpf_filter_expression`
in `src/capture.c`).

Owns the expression as `pcap_compile` reads it and as it is reported, the bounded array it is built
in, and that the array refuses no clause: the text is always the join of the expression's
primitives.

Does not own what a primitive accepts: see `Capture.Prefilter`.
-/

namespace MiniSniffer

open Foundation

def captureBpfExpressionLen : Nat := 256

/-- A clause that does not fit is refused, and the caller gives the expression up. -/
def appendBpfClause (expressionSize : Nat) (expression clause : List UInt8) :
    Option (List UInt8) :=
  let written := if expression.isEmpty then clause else ascii " and " ++ clause
  if written.length < expressionSize - expression.length then some (expression ++ written)
  else none

section Text

variable (addressText : IpText → List UInt8)

/-- The clause of a primitive, cut to the array it is printed into. -/
def BpfPrimitive.clause (primitive : BpfPrimitive) : List UInt8 :=
  match primitive with
  | .tcp => ascii "tcp"
  | .udp => ascii "udp"
  | .icmpOrIcmp6 => ascii "(icmp or icmp6)"
  | .arp => ascii "arp"
  | .port number => (ascii "port " ++ decimalText number.toNat).take 31
  | .host address => (ascii "host " ++ cString (addressText address)).take 53

/-- `build_bpf_filter_expression` -/
def bpfFilterText (config : AppConfig) : Option (List UInt8) :=
  let clauses := (buildBpfFilterExpression config).map (BpfPrimitive.clause addressText)
  if clauses.isEmpty then none
  else clauses.foldlM (appendBpfClause captureBpfExpressionLen) []

variable {addressText} {config : AppConfig} {expression clause : List UInt8}

theorem appendBpfClause_eq {expressionSize : Nat}
    (fits : expression.length + clause.length + 5 < expressionSize) :
    appendBpfClause expressionSize expression clause =
      some (joinWith (ascii " and ") expression clause) := by
  have separator : (ascii " and ").length = 5 := rfl
  unfold appendBpfClause joinWith
  by_cases first : expression.isEmpty = true
  · rw [List.isEmpty_iff.mp first]
    simp only [List.isEmpty_nil, if_true, List.length_nil, List.nil_append, Nat.sub_zero]
    rw [if_pos (by omega)]
  · simp only [first, Bool.false_eq_true, if_false, List.append_assoc]
    rw [if_pos (by rw [List.length_append, separator]; omega)]

theorem length_joinWith_le {α : Type} (separator text piece : List α) :
    (joinWith separator text piece).length ≤ text.length + separator.length + piece.length := by
  unfold joinWith
  split_ifs
  · omega
  · rw [List.length_append, List.length_append]

theorem foldlM_appendBpfClause {clauses : List (List UInt8)}
    (short : ∀ clause ∈ clauses, clause.length ≤ 53)
    (fits : expression.length + 58 * clauses.length < captureBpfExpressionLen) :
    clauses.foldlM (appendBpfClause captureBpfExpressionLen) expression =
      some (clauses.foldl (joinWith (ascii " and ")) expression) := by
  induction clauses generalizing expression with
  | nil => rfl
  | cons clause clauses inductionHypothesis =>
      rw [List.forall_mem_cons] at short
      rw [List.length_cons] at fits
      have longer := length_joinWith_le (ascii " and ") expression clause
      have separator : (ascii " and ").length = 5 := rfl
      rw [List.foldlM_cons, appendBpfClause_eq (by omega)]
      exact inductionHypothesis short.2 (by omega)

theorem BpfPrimitive.length_clause_le (primitive : BpfPrimitive) :
    (primitive.clause addressText).length ≤ 53 := by
  cases primitive with
  | tcp => exact (by decide : (ascii "tcp").length ≤ 53)
  | udp => exact (by decide : (ascii "udp").length ≤ 53)
  | icmpOrIcmp6 => exact (by decide : (ascii "(icmp or icmp6)").length ≤ 53)
  | arp => exact (by decide : (ascii "arp").length ≤ 53)
  | port number => exact (List.length_take_le _ _).trans (by decide)
  | host address => exact List.length_take_le _ _

/-- A protocol, a port and a host. -/
theorem length_buildBpfFilterExpression_le (config : AppConfig) :
    (buildBpfFilterExpression config).length ≤ 3 := by
  have protocol : (protocolPrimitive config.filterProtocol).toList.length ≤ 1 := by
    cases protocolPrimitive config.filterProtocol <;> simp
  unfold buildBpfFilterExpression
  split_ifs <;> simp <;> omega

/-- No clause is ever refused. -/
theorem bpfFilterText_eq (some_clause : buildBpfFilterExpression config ≠ []) :
    bpfFilterText addressText config =
      some (((buildBpfFilterExpression config).map (BpfPrimitive.clause addressText)).foldl
        (joinWith (ascii " and ")) []) := by
  have short : ∀ clause ∈ (buildBpfFilterExpression config).map
      (BpfPrimitive.clause addressText), clause.length ≤ 53 := by
    intro clause member
    obtain ⟨primitive, -, rfl⟩ := List.mem_map.mp member
    exact primitive.length_clause_le
  have few := length_buildBpfFilterExpression_le config
  unfold bpfFilterText
  rw [if_neg (by simpa using some_clause)]
  refine foldlM_appendBpfClause short ?_
  rw [List.length_nil, List.length_map, captureBpfExpressionLen]
  omega

end Text

end MiniSniffer
