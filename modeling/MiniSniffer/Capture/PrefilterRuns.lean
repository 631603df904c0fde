import MiniSniffer.Capture.Effective
import MiniSniffer.Capture.Operations
import MiniSniffer.Fragment.Invariant
import MiniSniffer.Fragment.Part

/-!
Contract: runs of the capture loop with and without the pre-filter.

Owns the comparison of a run over all captured frames with the run over those that the expression
lets through. Behind the pre-filter the tables hold the part that the expression stands for, so the
same packets are displayed as long as no frame tells the two runs apart: a rejected frame hides a
transport that the expression stands for, fragments that a port clause rejects make up a packet that
it stands for, a bounded table is short of room for what the expression stands for because of other
traffic, or the clock of a table runs backwards past a rejected frame.

Does not own what one frame means to the expression: see `Capture.Prefilter`.
-/

namespace MiniSniffer

open Foundation

/-! ### Steps that do not tell the runs apart -/

/-- Only the run of all frames makes anything of the frame: it is rejected, or it is a fragment
under a port clause, which keeps every other fragment of its datagram out. -/
def isUnseen (config : AppConfig) (captured : CapturedPacket) : Bool :=
  !delivers config captured.bytes ||
    (hasPortClause config && (parsedPacket config captured).isIpv4Fragment)

/-- The packet belongs to a connection that is tracked. -/
def touchesFlow (config : AppConfig) (packet : PacketInfo) : Bool :=
  config.reassemble && (trackedAs packet).isSome

/-- The fragment table or the flow table is swept at the frame's time. -/
def readsClock (config : AppConfig) (captured : CapturedPacket) : Bool :=
  (parsedPacket config captured).isIpv4Fragment ||
    touchesFlow config (parsedPacket config captured)

/-- Of two frames that sweep a table, one that both runs see is no older than a frame before it that
only one sees. -/
def InOrder (config : AppConfig) (earlier later : CapturedPacket) : Prop :=
  isUnseen config earlier = true → isUnseen config later = false →
    readsClock config earlier = true → readsClock config later = true →
      earlier.seconds ≤ later.seconds

instance (config : AppConfig) : DecidableRel (InOrder config) := fun _ _ =>
  inferInstanceAs (Decidable (_ → _))

/-- The filters do not display the packet, and no connection is tracked for it. -/
def leavesNoTrace (idna : IdnaLookup) (config : AppConfig) (packet : PacketInfo) (now : Nat) :
    Bool :=
  !touchesFlow config packet &&
    !filtersMatch idna config (decodeCapture config none packet now).2.filterContext

/-- A rejected frame whose transport is not where the expression looks carries no packet that the
expression stands for, or one that leaves no trace. -/
def showsTransport (idna : IdnaLookup) (config : AppConfig) (captured : CapturedPacket) : Bool :=
  delivers config captured.bytes || !hidesTransport captured.bytes ||
    !isDescribed config (parsedPacket config captured) ||
    leavesNoTrace idna config (parsedPacket config captured) captured.seconds

/-- Under a port clause no fragment completes a packet that the expression stands for, unless it
leaves no trace. -/
def completesNothing (idna : IdnaLookup) (config : AppConfig) (state : CaptureState)
    (captured : CapturedPacket) : Bool :=
  !hasPortClause config || !(parsedPacket config captured).isIpv4Fragment ||
    !isDescribed config (effectiveCapture config state captured).2 ||
    leavesNoTrace idna config (effectiveCapture config state captured).2 captured.seconds

/-- Without a port clause, a fragment that is let through finds the room that it finds among the
datagrams the expression stands for. -/
def findsFragmentRoom (config : AppConfig) (state : CaptureState) (captured : CapturedPacket) :
    Bool :=
  hasPortClause config || !delivers config captured.bytes ||
    fragmentIsMalformed (parsedPacket config captured) ||
    fairRoom (isDescribedDatagram config) state.fragmentTable.maxDatagrams
      state.fragmentTable.maxBytes
      (state.fragmentTable.datagrams.filter
        (survives state.fragmentTable.timeoutSeconds captured.seconds))
      (parsedPacket config captured)

/-- No flow that the expression stands for gives its slot to other traffic. -/
def keepsFlows (config : AppConfig) (flowTable : Option FlowTable) (packet : PacketInfo)
    (now : Nat) : Bool :=
  match flowTable, trackedAs packet with
  | some table, some (key, _) =>
      fairEviction (isDescribedFlow config) table.maxFlows (evictStaleFlows table now).flows key
  | _, _ => true

/-- The frame does not tell the run of all frames from the run behind the pre-filter. -/
def PrefilterHarmless (idna : IdnaLookup) (config : AppConfig) (state : CaptureState)
    (captured : CapturedPacket) : Prop :=
  captureIsDone config state = false →
    showsTransport idna config captured = true ∧
      completesNothing idna config state captured = true ∧
      findsFragmentRoom config state captured = true ∧
      keepsFlows config state.flowTable (effectiveCapture config state captured).2
        captured.seconds = true

instance (idna : IdnaLookup) (config : AppConfig) (state : CaptureState)
    (captured : CapturedPacket) : Decidable (PrefilterHarmless idna config state captured) :=
  inferInstanceAs (Decidable (_ → _))

/-! ### Flows -/

/-- Either both runs track flows, and one tracks the part that the expression stands for, or
neither does. -/
inductive FlowsFollow (config : AppConfig) (clock : Nat) :
    Option FlowTable → Option FlowTable → Prop
  | untracked : FlowsFollow config clock none none
  | tracked {part whole : FlowTable}
      (partOf : PartOf (isDescribedFlow config) clock part whole) :
      FlowsFollow config clock (some part) (some whole)

section Flows

variable {idna : IdnaLookup} {config : AppConfig} {packet : PacketInfo} {now clock after : Nat}
variable {part whole : Option FlowTable}

theorem FlowsFollow.later (follows : FlowsFollow config clock part whole)
    (inOrder : clock ≤ after) : FlowsFollow config after part whole := by
  cases follows with
  | untracked => exact .untracked
  | tracked partOf => exact .tracked (partOf.later inOrder)

/-- A packet that the expression does not stand for is not displayed. -/
theorem undescribed_hidden (undescribed : isDescribed config packet = false)
    (flowTable : Option FlowTable) (now : Nat) :
    (displayPacket idna config flowTable packet now).2 = none := by
  cases displayed : (displayPacket idna config flowTable packet now).2 with
  | none => rfl
  | some shown =>
      have passes := packetFiltersMatch_of_displayed displayed
      rw [isDescribed_of_packetFiltersMatch passes] at undescribed
      contradiction

/-- A packet of no tracked connection leaves the flows alone and is displayed as without them. -/
theorem displayPacket_untouched (idna : IdnaLookup) (now : Nat)
    (noTable : config.reassemble = false → whole = none)
    (untouched : touchesFlow config packet = false) :
    displayPacket idna config whole packet now =
      (whole, (displayPacket idna config none packet now).2) := by
  cases tracked : trackedAs packet with
  | none => exact displayPacket_untracked idna config whole tracked now
  | some keyed =>
      have off : config.reassemble = false := by simpa [touchesFlow, tracked] using untouched
      rw [noTable off]
      exact Prod.ext (displayPacket_none idna config packet now) rfl

/-- A packet that the expression does not stand for moves the run of all frames alone. -/
theorem FlowsFollow.foreign (follows : FlowsFollow config clock part whole)
    (undescribed : isDescribed config packet = false)
    (addressed : ∀ key direction, trackedAs packet = some (key, direction) → packet.Addressed)
    (keeps : keepsFlows config whole packet now = true) (inOrder : clock ≤ after)
    (passed : now ≤ after) :
    FlowsFollow config after part (displayPacket idna config whole packet now).1 := by
  cases tracked : trackedAs packet with
  | none =>
      rw [displayPacket_untracked idna config whole tracked]
      exact follows.later inOrder
  | some keyed =>
      rcases keyed with ⟨key, direction⟩
      cases follows with
      | untracked =>
          rw [displayPacket_none]
          exact .untracked
      | tracked partOf =>
          have foreign := isDescribed_tracked config tracked (addressed key direction tracked)
          rw [undescribed] at foreign
          obtain ⟨keyedFlow, next, placed, shown⟩ :=
            displayPacket_tracked idna config now partOf.wholeWellformed tracked
          simp only [keepsFlows, tracked] at keeps
          rw [shown]
          refine .tracked (partOf.foreign placed ?_ ?_ inOrder passed)
          · rw [keyedFlow]
            exact foreign.symm
          · rw [keyedFlow]
            exact keeps

/-- A packet that the expression does not stand for, or that leaves no trace, displays nothing. -/
theorem FlowsFollow.harmless (follows : FlowsFollow config clock part whole)
    (noTable : config.reassemble = false → whole = none)
    (harmless : isDescribed config packet = false ∨ leavesNoTrace idna config packet now = true)
    (addressed : ∀ key direction, trackedAs packet = some (key, direction) → packet.Addressed)
    (keeps : keepsFlows config whole packet now = true) (inOrder : clock ≤ after)
    (passed : touchesFlow config packet = true → now ≤ after) :
    (displayPacket idna config whole packet now).2 = none ∧
      FlowsFollow config after part (displayPacket idna config whole packet now).1 := by
  cases touched : touchesFlow config packet with
  | true =>
      have undescribed : isDescribed config packet = false := by
        simpa [leavesNoTrace, touched] using harmless
      exact ⟨undescribed_hidden undescribed whole now,
        follows.foreign undescribed addressed keeps inOrder (passed touched)⟩
  | false =>
      have hidden : (displayPacket idna config none packet now).2 = none := by
        rcases harmless with undescribed | noTrace
        · exact undescribed_hidden undescribed none now
        · have hides : filtersMatch idna config
              (decodeCapture config none packet now).2.filterContext = false := by
            simpa [leavesNoTrace, touched] using noTrace
          simp only [displayPacket, hides, Bool.not_false, if_true]
      rw [displayPacket_untouched idna now noTable touched]
      exact ⟨hidden, follows.later inOrder⟩

/-- A packet that both runs see displays the same in both. -/
theorem FlowsFollow.both (follows : FlowsFollow config clock part whole)
    (noTable : config.reassemble = false → whole = none)
    (timely : touchesFlow config packet = true → clock ≤ now)
    (described : ∀ key direction, trackedAs packet = some (key, direction) →
      isDescribedFlow config key = true)
    (keeps : keepsFlows config whole packet now = true) :
    (displayPacket idna config part packet now).2 = (displayPacket idna config whole packet now).2 ∧
      FlowsFollow config clock (displayPacket idna config part packet now).1
        (displayPacket idna config whole packet now).1 := by
  cases tracked : trackedAs packet with
  | none =>
      rw [displayPacket_untracked idna config whole tracked,
        displayPacket_untracked idna config part tracked]
      exact ⟨rfl, follows⟩
  | some keyed =>
      rcases keyed with ⟨key, direction⟩
      cases follows with
      | untracked =>
          rw [displayPacket_none]
          exact ⟨rfl, .untracked⟩
      | tracked partOf =>
          have on : config.reassemble = true := by
            by_contra off
            exact Option.some_ne_none _ (noTable (eq_false_of_ne_true off))
          have inOrder : clock ≤ now := timely (by simp [touchesFlow, on, tracked])
          have own := described key direction tracked
          have assigned := (partOf.later inOrder).assigned_eq own
          obtain ⟨keyedFlow, wholeNext, wholePlaced, wholeShown⟩ :=
            displayPacket_tracked idna config now partOf.wholeWellformed tracked
          obtain ⟨-, partNext, partPlaced, partShown⟩ :=
            displayPacket_tracked idna config now partOf.partWellformed tracked
          rw [assigned] at partPlaced partShown
          simp only [keepsFlows, tracked] at keeps
          rw [partShown, wholeShown]
          refine ⟨rfl, .tracked (partOf.both inOrder partPlaced wholePlaced ?_ ?_)⟩
          · rw [keyedFlow]
            exact own
          · rw [keyedFlow]
            exact keeps

end Flows

/-! ### Frames in both runs or in one -/

section Seen

variable {idna : IdnaLookup} {config : AppConfig} {state : CaptureState}
variable {captured : CapturedPacket} {key : FlowKey} {direction : FlowDirection}

/-- What the run of all frames makes of an unseen frame, the expression does not stand for, or it
leaves no trace. -/
theorem unseen_harmless (effectiveFields : EffectiveFields (parsedPacket config captured)
      (effectiveCapture config state captured).2)
    (shows : showsTransport idna config captured = true)
    (completes : completesNothing idna config state captured = true)
    (unseen : isUnseen config captured = true) :
    isDescribed config (effectiveCapture config state captured).2 = false ∨
      leavesNoTrace idna config (effectiveCapture config state captured).2 captured.seconds =
        true := by
  simp only [isUnseen, Bool.or_eq_true, Bool.not_eq_true', Bool.and_eq_true] at unseen
  cases isFragment : (parsedPacket config captured).isIpv4Fragment with
  | false =>
      have undelivered : delivers config captured.bytes = false := by
        simpa [isFragment] using unseen
      rw [(effectiveCapture_whole isFragment).2]
      cases hidden : hidesTransport captured.bytes with
      | false =>
          exact Or.inl
            (isDescribed_of_undelivered (parsedPacket_fields config captured) hidden undelivered)
      | true => simpa [showsTransport, undelivered, hidden] using shows
  | true =>
      cases portClause : hasPortClause config with
      | true => simpa [completesNothing, portClause, isFragment] using completes
      | false =>
          have undelivered : delivers config captured.bytes = false := by
            simpa [portClause] using unseen
          left
          rcases effectiveFields.isDescribed_fragment (fragment_fields isFragment).2 isFragment
            portClause with ⟨size, unparsed⟩ | same
          · rw [unparsed]
            apply isDescribed_unknown
            intro nothing
            rw [delivers, nothing] at undelivered
            contradiction
          · rw [same]
            exact undescribed_datagram isFragment portClause undelivered

/-- The flow of a frame that both runs see is one that the expression stands for. -/
theorem seen_described (effectiveFields : EffectiveFields (parsedPacket config captured)
      (effectiveCapture config state captured).2)
    (seen : isUnseen config captured = false)
    (tracked : trackedAs (effectiveCapture config state captured).2 = some (key, direction)) :
    isDescribedFlow config key = true := by
  have fields := parsedPacket_fields config captured
  rw [← isDescribed_tracked config tracked (effectiveFields.addressed fields tracked)]
  have carried := trackedAs_fields tracked
  simp only [isUnseen, Bool.or_eq_false_iff, Bool.not_eq_false', Bool.and_eq_false_iff] at seen
  cases isFragment : (parsedPacket config captured).isIpv4Fragment with
  | false =>
      rw [(effectiveCapture_whole isFragment).2] at carried ⊢
      exact isDescribed_of_delivered_tcp fields carried.1 carried.2.1 seen.1
  | true =>
      have portless : hasPortClause config = false := by simpa [isFragment] using seen.2
      rcases effectiveFields.isDescribed_fragment (fragment_fields isFragment).2 isFragment
        portless with ⟨size, unparsed⟩ | same
      · rw [unparsed] at tracked
        contradiction
      · rw [same]
        exact described_datagram isFragment portless seen.1

end Seen

/-! ### One pass in lockstep -/

/-- `part` is the state behind the pre-filter where `whole` is the state of the run of all frames,
as far as a frame at `clock` can tell. -/
structure Follows (config : AppConfig) (clock : Nat) (part whole : CaptureState) : Prop where
  displayed : part.capturedPackets = whole.capturedPackets
  flows : FlowsFollow config clock part.flowTable whole.flowTable
  noTable : config.reassemble = false → whole.flowTable = none
  partWellformed : part.fragmentTable.Wellformed
  wholeWellformed : whole.fragmentTable.Wellformed
  headers : ∀ datagram ∈ whole.fragmentTable.datagrams, CarriesKey datagram.key datagram.header
  fragments : hasPortClause config = false →
    FragmentsPartOf (isDescribedDatagram config) clock part.fragmentTable whole.fragmentTable
  unended : hasPortClause config = true →
    ∀ datagram ∈ part.fragmentTable.datagrams, datagram.hasLastFragment = false

section Lockstep

variable {idna : IdnaLookup} {config : AppConfig} {clock after : Nat} {part whole : CaptureState}
variable {captured : CapturedPacket}

theorem Follows.done_eq (follows : Follows config clock part whole) :
    captureIsDone config part = captureIsDone config whole := by
  rw [captureIsDone, captureIsDone, follows.displayed]

/-- Past the end of the loop a pass changes nothing. -/
theorem capturePass_done {state : CaptureState} (done : captureIsDone config state = true) :
    (captureLoop idna config .en10mb).next state captured = state ∧
      (captureLoop idna config .en10mb).output state captured = none := by
  simp [Machine.next, Machine.output, captureLoop, capturePass, done]

/-- Without reassembly there is no flow table behind a packet either. -/
theorem Follows.noTable_next (follows : Follows config clock part whole) (packet : PacketInfo)
    (now : Nat) (off : config.reassemble = false) :
    (displayPacket idna config whole.flowTable packet now).1 = none := by
  rw [follows.noTable off]
  exact displayPacket_none idna config packet now

/-- What a pass goes on with touches a tracked connection only if its frame reads the clock. -/
theorem readsClock_of_touches {state : CaptureState}
    (touched : touchesFlow config (effectiveCapture config state captured).2 = true) :
    readsClock config captured = true := by
  cases isFragment : (parsedPacket config captured).isIpv4Fragment with
  | true => rw [readsClock, isFragment, Bool.true_or]
  | false =>
      rw [(effectiveCapture_whole isFragment).2] at touched
      rw [readsClock, touched, Bool.or_true]

/-- An unseen frame displays nothing in the run of all frames, which stays ahead by what the
expression does not stand for. -/
theorem Follows.unseen (follows : Follows config clock part whole)
    (running : captureIsDone config whole = false)
    (harmless : PrefilterHarmless idna config whole captured)
    (unseen : isUnseen config captured = true) (inOrder : clock ≤ after)
    (passed : readsClock config captured = true → captured.seconds ≤ after) :
    (captureLoop idna config .en10mb).output whole captured = none ∧
      Follows config after part ((captureLoop idna config .en10mb).next whole captured) := by
  obtain ⟨shows, completes, -, keeps⟩ := harmless running
  obtain ⟨output, fragmentTable, flowTable, capturedPackets⟩ :=
    @capturePass_parts idna config whole captured running
  obtain ⟨wellformed, headers, effectiveFields⟩ :=
    @effectiveCapture_fields config whole follows.wholeWellformed follows.headers captured
  have undescribed := unseen_harmless effectiveFields shows completes unseen
  have addressed := fun key direction =>
    @EffectiveFields.addressed _ _ key direction _ (parsedPacket_fields config captured)
      effectiveFields
  obtain ⟨hidden, flows⟩ := follows.flows.harmless follows.noTable undescribed addressed keeps
    inOrder fun touched => passed (readsClock_of_touches touched)
  simp only [Machine.output, Machine.next, captureLoop]
  refine ⟨output.trans hidden, ?_⟩
  exact
    { displayed := by
        rw [capturedPackets, hidden, follows.displayed]
        exact (UInt32.add_zero _).symm
      flows := by
        rw [flowTable]
        exact flows
      noTable := by
        intro off
        rw [flowTable]
        exact follows.noTable_next _ _ off
      partWellformed := follows.partWellformed
      wholeWellformed := by
        rw [fragmentTable]
        exact wellformed
      headers := by
        rw [fragmentTable]
        exact headers
      fragments := by
        intro portless
        rw [fragmentTable]
        cases isFragment : (parsedPacket config captured).isIpv4Fragment with
        | false =>
            rw [(effectiveCapture_whole isFragment).1]
            exact (follows.fragments portless).later inOrder
        | true =>
            have undelivered : delivers config captured.bytes = false := by
              simpa [isUnseen, portless] using unseen
            have notDescribed := undescribed_datagram isFragment portless undelivered
            have fragments := follows.fragments portless
            rw [(effectiveCapture_fragment isFragment).1]
            have reads : readsClock config captured = true := by
              rw [readsClock, isFragment, Bool.true_or]
            apply fragments.foreign _ inOrder (passed reads)
            intro acceptable
            exact notDescribed
      unended := follows.unended }

/-- A fragment that a port clause lets through displays nothing behind the pre-filter. -/
theorem Follows.firstFragment (follows : Follows config clock part whole)
    (running : captureIsDone config part = false)
    (delivered : delivers config captured.bytes = true)
    (portClause : hasPortClause config = true)
    (isFragment : (parsedPacket config captured).isIpv4Fragment = true) :
    (captureLoop idna config .en10mb).output part captured = none ∧
      Follows config clock ((captureLoop idna config .en10mb).next part captured) whole := by
  obtain ⟨output, fragmentTable, flowTable, capturedPackets⟩ :=
    @capturePass_parts idna config part captured running
  have fields := (fragment_fields isFragment).2
  have more := moreFragments_of_delivered (parsedPacket_fields config captured) isFragment
    portClause delivered
  have wellformed : (countedFragments part).1.Wellformed := follows.partWellformed
  have unended := @process_unended (fragmentEvent config captured) (countedFragments part)
    wellformed (follows.unended portClause) more
  obtain ⟨tableEq, completed⟩ := @effectiveCapture_fragment config part captured isFragment
  have effective : (effectiveCapture config part captured).2 = parsedPacket config captured := by
    rcases completed with ⟨packet, reassembled, _⟩ | ⟨_, same⟩
    · exact absurd reassembled (unended.2 packet)
    · exact same
  have portless : (parsedPacket config captured).hasPorts = false := by
    cases ported : (parsedPacket config captured).hasPorts with
    | false => rfl
    | true =>
        rw [(fields.ports ported).1] at isFragment
        contradiction
  have untracked : trackedAs (parsedPacket config captured) = none := by
    simp [trackedAs, flowKeyFromPacket, portless]
  have hidden := @undescribed_hidden idna config _ (isDescribed_portless portClause portless)
    part.flowTable captured.seconds
  rw [effective] at output flowTable capturedPackets
  rw [tableEq] at fragmentTable
  rw [displayPacket_untracked idna config part.flowTable untracked] at flowTable
  simp only [Machine.output, Machine.next, captureLoop]
  refine ⟨output.trans hidden, ?_⟩
  exact
    { displayed := by
        rw [capturedPackets, hidden, ← follows.displayed]
        exact UInt32.add_zero _
      flows := by
        rw [flowTable]
        exact follows.flows
      noTable := follows.noTable
      partWellformed := by
        rw [fragmentTable]
        exact process_wellformed wellformed _
      wholeWellformed := follows.wholeWellformed
      headers := follows.headers
      fragments := by
        intro without
        rw [portClause] at without
        contradiction
      unended := by
        intro _
        rw [fragmentTable]
        exact unended.1 }

/-- Both runs go on with the same packet of a frame that both see. -/
theorem Follows.effective_eq (follows : Follows config clock part whole)
    (room : findsFragmentRoom config whole captured = true)
    (seen : isUnseen config captured = false)
    (timely : readsClock config captured = true → clock ≤ captured.seconds) :
    (effectiveCapture config part captured).2 = (effectiveCapture config whole captured).2 ∧
      (hasPortClause config = false →
        FragmentsPartOf (isDescribedDatagram config) clock
          (effectiveCapture config part captured).1.1
          (effectiveCapture config whole captured).1.1) ∧
      (hasPortClause config = true →
        (effectiveCapture config part captured).1.1 = part.fragmentTable) := by
  simp only [isUnseen, Bool.or_eq_false_iff, Bool.not_eq_false', Bool.and_eq_false_iff] at seen
  cases isFragment : (parsedPacket config captured).isIpv4Fragment with
  | false =>
      have partPass := @effectiveCapture_whole config part captured isFragment
      have wholePass := @effectiveCapture_whole config whole captured isFragment
      rw [partPass.1, partPass.2, wholePass.1, wholePass.2]
      exact ⟨rfl, follows.fragments, fun _ => rfl⟩
  | true =>
      have portless : hasPortClause config = false := by simpa [isFragment] using seen.2
      have inOrder := timely (by rw [readsClock, isFragment, Bool.true_or])
      have partPass := @effectiveCapture_fragment config part captured isFragment
      have wholePass := @effectiveCapture_fragment config whole captured isFragment
      have fair : AcceptableFragment (parsedPacket config captured) →
          fairRoom (isDescribedDatagram config) whole.fragmentTable.maxDatagrams
            whole.fragmentTable.maxBytes
            (whole.fragmentTable.datagrams.filter
              (survives whole.fragmentTable.timeoutSeconds captured.seconds))
            (parsedPacket config captured) = true := by
        intro acceptable
        simpa [findsFragmentRoom, portless, seen.1, acceptable.2] using room
      have step := @FragmentsPartOf.both (isDescribedDatagram config) clock part.fragmentTable
        whole.fragmentTable (fragmentEvent config captured) (follows.fragments portless) inOrder
        isFragment (described_datagram isFragment portless seen.1) fair
        (countedFragments part).2 (countedFragments whole).2
      rw [partPass.1, wholePass.1]
      refine ⟨?_, fun _ => step.2, fun portClause => ?_⟩
      · by_cases acceptable : AcceptableFragment (parsedPacket config captured)
        · have same : fragmentReassembly.output (countedFragments part)
              (fragmentEvent config captured) = fragmentReassembly.output
                (countedFragments whole) (fragmentEvent config captured) := step.1 acceptable
          rcases partPass.2 with ⟨packet, partOutput, partEq⟩ | ⟨partNone, partEq⟩
          · rcases wholePass.2 with ⟨other, wholeOutput, wholeEq⟩ | ⟨wholeNone, wholeEq⟩
            · rw [partOutput, wholeOutput] at same
              rw [partEq, wholeEq, IPv4FragmentProcessResult.reassembled.inj same]
            · exact absurd (same.symm.trans partOutput) (wholeNone packet)
          · rcases wholePass.2 with ⟨other, wholeOutput, wholeEq⟩ | ⟨wholeNone, wholeEq⟩
            · exact absurd (same.trans wholeOutput) (partNone other)
            · rw [partEq, wholeEq]
        · have unchanged : ∀ state : CaptureState, (effectiveCapture config state captured).2 =
              parsedPacket config captured := by
            intro state
            rcases (@effectiveCapture_fragment config state captured isFragment).2 with
              ⟨packet, reassembled, _⟩ | ⟨_, same⟩
            · rcases (@process_unacceptable (countedFragments state)
                (fragmentEvent config captured) acceptable).2 with ignored | malformed
              · rw [ignored] at reassembled
                contradiction
              · rw [malformed] at reassembled
                contradiction
            · exact same
          rw [unchanged, unchanged]
      · rw [portless] at portClause
        contradiction

/-- A frame that both runs see displays the same in both. -/
theorem Follows.seen (follows : Follows config clock part whole)
    (running : captureIsDone config whole = false)
    (harmless : PrefilterHarmless idna config whole captured)
    (seen : isUnseen config captured = false)
    (timely : readsClock config captured = true → clock ≤ captured.seconds) :
    (captureLoop idna config .en10mb).output part captured =
        (captureLoop idna config .en10mb).output whole captured ∧
      Follows config clock ((captureLoop idna config .en10mb).next part captured)
        ((captureLoop idna config .en10mb).next whole captured) := by
  obtain ⟨-, -, room, keeps⟩ := harmless running
  obtain ⟨partOutput, partFragments, partFlows, partDisplayed⟩ :=
    @capturePass_parts idna config part captured (follows.done_eq.trans running)
  obtain ⟨wholeOutput, wholeFragments, wholeFlows, wholeDisplayed⟩ :=
    @capturePass_parts idna config whole captured running
  obtain ⟨effective, fragments, unchanged⟩ := follows.effective_eq room seen timely
  obtain ⟨wellformed, headers, effectiveFields⟩ :=
    @effectiveCapture_fields config whole follows.wholeWellformed follows.headers captured
  have described := fun key direction => @seen_described config whole captured key direction
    effectiveFields seen
  have step := @FlowsFollow.both idna config _ _ _ _ _ follows.flows follows.noTable
    (fun touched => timely (readsClock_of_touches touched)) described keeps
  rw [effective] at partOutput partFlows partDisplayed
  simp only [Machine.output, Machine.next, captureLoop]
  refine ⟨by rw [partOutput, wholeOutput, step.1], ?_⟩
  exact
    { displayed := by rw [partDisplayed, wholeDisplayed, step.1, follows.displayed]
      flows := by
        rw [partFlows, wholeFlows]
        exact step.2
      noTable := by
        intro off
        rw [wholeFlows]
        exact follows.noTable_next _ _ off
      partWellformed := by
        rw [partFragments]
        cases portClause : hasPortClause config with
        | true =>
            rw [unchanged portClause]
            exact follows.partWellformed
        | false => exact (fragments portClause).partWellformed
      wholeWellformed := by
        rw [wholeFragments]
        exact wellformed
      headers := by
        rw [wholeFragments]
        exact headers
      fragments := by
        intro portless
        rw [partFragments, wholeFragments]
        exact fragments portless
      unended := by
        intro portClause
        rw [partFragments, unchanged portClause]
        exact follows.unended portClause }

end Lockstep

/-! ### Runs -/

/-- What a capture displays of the frames that it is handed. -/
def displayedBy (idna : IdnaLookup) (config : AppConfig) (initial : CaptureState)
    (packets : List CapturedPacket) : List DisplayedPacket :=
  ((captureLoop idna config .en10mb).outputs initial packets).reduceOption

/-- The frames that the pre-filter hands over. -/
def deliveredPackets (config : AppConfig) (packets : List CapturedPacket) : List CapturedPacket :=
  packets.filter fun captured => delivers config captured.bytes

/-- The state behind the pre-filter before some frames, and that of the run of all frames. -/
def FollowsUntil (config : AppConfig) (packets : List CapturedPacket) (part whole : CaptureState) :
    Prop :=
  ∃ clock, Follows config clock part whole ∧
    (∀ captured ∈ packets, isUnseen config captured = false →
      readsClock config captured = true → clock ≤ captured.seconds) ∧
    packets.Pairwise (InOrder config)

section Runs

variable {idna : IdnaLookup} {config : AppConfig} {initial part whole : CaptureState}
variable {captured : CapturedPacket} {packets : List CapturedPacket}

theorem captureInit_follows (started : captureInit config = some initial) :
    Follows config 0 initial initial := by
  unfold captureInit at started
  cases fragments : ipv4FragmentTableInit config.ipv4FragmentMaxDatagrams
      config.ipv4FragmentMaxBytes config.ipv4FragmentTimeoutSeconds with
  | none =>
      rw [fragments] at started
      contradiction
  | some fragmentTable =>
      rw [fragments] at started
      have represented := ipv4FragmentTableInit_represented fragments
      have empty : fragmentTable.datagrams = [] := by
        unfold ipv4FragmentTableInit at fragments
        split at fragments
        · contradiction
        · rw [← Option.some.inj fragments]
      have follows : ∀ flowTable, FlowsFollow config 0 flowTable flowTable →
          (config.reassemble = false → flowTable = none) →
          Follows config 0 { fragmentTable := fragmentTable, flowTable := flowTable }
            { fragmentTable := fragmentTable, flowTable := flowTable } := by
        intro flowTable flows noTable
        exact
          { displayed := rfl
            flows := flows
            noTable := noTable
            partWellformed := represented.toWellformed
            wholeWellformed := represented.toWellformed
            headers := by simp [empty]
            fragments := fun _ =>
              { partWellformed := represented.toWellformed
                wholeWellformed := represented.toWellformed
                limits := rfl
                lookup_eq := by simp [datagramOf, empty, lookup] }
            unended := by simp [empty] }
      simp only at started
      split_ifs at started with on
      · obtain ⟨flowTable, initialized, rfl⟩ := Option.map_eq_some_iff.mp started
        have consistent := flowTableInit_consistent initialized
        refine follows _ ?_ fun off => absurd on (Bool.eq_false_iff.mp off)
        exact .tracked
          { partWellformed := consistent.toWellformed
            wholeWellformed := consistent.toWellformed
            limits := rfl
            flows_eq := by rw [flowTableInit_flows initialized]; rfl }
      · obtain rfl := Option.some.inj started
        exact follows none .untracked fun _ => rfl

/-- A frame past the end of the loop leaves both states as they are. -/
theorem FollowsUntil.done (follows : FollowsUntil config (captured :: packets) part whole) :
    FollowsUntil config packets part whole := by
  obtain ⟨clock, step, after, ordered⟩ := follows
  exact ⟨clock, step, fun other member => after other (List.mem_cons_of_mem _ member),
    (List.pairwise_cons.mp ordered).2⟩

/-- A frame that only the run of all frames sees. -/
theorem FollowsUntil.skipped (follows : FollowsUntil config (captured :: packets) part whole)
    (harmless : PrefilterHarmless idna config whole captured)
    (unseen : isUnseen config captured = true) :
    (captureLoop idna config .en10mb).output whole captured = none ∧
      FollowsUntil config packets part ((captureLoop idna config .en10mb).next whole captured) := by
  cases done : captureIsDone config whole with
  | true =>
      rw [(capturePass_done done).1, (capturePass_done done).2]
      exact ⟨rfl, follows.done⟩
  | false =>
      obtain ⟨clock, step, after, ordered⟩ := follows
      have later := fun other member =>
        after other (List.mem_cons_of_mem captured member)
      obtain ⟨first, rest⟩ := List.pairwise_cons.mp ordered
      cases reads : readsClock config captured with
      | false =>
          obtain ⟨hidden, next⟩ := @Follows.unseen idna config clock clock part whole captured step
            done harmless unseen le_rfl (by simp [reads])
          exact ⟨hidden, clock, next, later, rest⟩
      | true =>
          obtain ⟨hidden, next⟩ := @Follows.unseen idna config clock (max clock captured.seconds)
            part whole captured step done harmless unseen (Nat.le_max_left _ _)
              fun _ => Nat.le_max_right _ _
          refine ⟨hidden, max clock captured.seconds, next, ?_, rest⟩
          intro other member seen timely
          exact Nat.max_le.mpr
            ⟨later other member seen timely, first other member unseen seen reads timely⟩

/-- A frame that the pre-filter hands over displays the same in both runs. -/
theorem FollowsUntil.selected (follows : FollowsUntil config (captured :: packets) part whole)
    (harmless : PrefilterHarmless idna config whole captured)
    (delivered : delivers config captured.bytes = true) :
    (captureLoop idna config .en10mb).output part captured =
        (captureLoop idna config .en10mb).output whole captured ∧
      FollowsUntil config packets ((captureLoop idna config .en10mb).next part captured)
        ((captureLoop idna config .en10mb).next whole captured) := by
  obtain ⟨clock, step, after, ordered⟩ := follows
  cases done : captureIsDone config whole with
  | true =>
      have partDone := step.done_eq.trans done
      rw [(capturePass_done done).1, (capturePass_done done).2, (capturePass_done partDone).1,
        (capturePass_done partDone).2]
      exact ⟨rfl, FollowsUntil.done ⟨clock, step, after, ordered⟩⟩
  | false =>
      cases unseen : isUnseen config captured with
      | false =>
          have both := @Follows.seen idna config clock part whole captured step done harmless
            unseen (after captured List.mem_cons_self unseen)
          refine ⟨both.1, clock, both.2, ?_, (List.pairwise_cons.mp ordered).2⟩
          intro other member
          exact after other (List.mem_cons_of_mem _ member)
      | true =>
          have first : hasPortClause config = true ∧
              (parsedPacket config captured).isIpv4Fragment = true := by
            simpa [isUnseen, delivered] using unseen
          obtain ⟨partHidden, partStep⟩ := @Follows.firstFragment idna config clock part whole
            captured step (step.done_eq.trans done) delivered first.1 first.2
          obtain ⟨wholeHidden, next⟩ := @FollowsUntil.skipped idna config _ whole captured packets
            ⟨clock, partStep, after, ordered⟩ harmless unseen
          exact ⟨partHidden.trans wholeHidden.symm, next⟩

/-- Over every run of frames that do not tell it apart from a run without, the pre-filter changes
nothing of what is displayed. -/
theorem prefilter_displays_same (idna : IdnaLookup) (started : captureInit config = some initial)
    (ordered : packets.Pairwise (InOrder config))
    (harmless : (captureLoop idna config .en10mb).AllSteps (PrefilterHarmless idna config) initial
      packets) :
    displayedBy idna config initial packets =
      displayedBy idna config initial (deliveredPackets config packets) := by
  have start : FollowsUntil config packets initial initial :=
    ⟨0, captureInit_follows started, fun _ _ _ _ => Nat.zero_le _, ordered⟩
  apply @Machine.reduceOption_outputs_filter _ _ _ (captureLoop idna config .en10mb)
    (fun captured => delivers config captured.bytes) (PrefilterHarmless idna config)
    (FollowsUntil config) _ _ _ _ _ start harmless
  · intro captured packets part whole follows harmless delivered
    exact follows.selected harmless delivered
  · intro captured packets part whole follows harmless undelivered
    apply follows.skipped harmless
    simp only [isUnseen, undelivered, Bool.not_false, Bool.true_or]

/-! ### Sample frames -/

/-- A frame between two hosts, from port 4000 to port 53. -/
def sampleIpv4Frame (protocol : UInt8) (fragmentField : UInt16) (payload : List UInt8) :
    List UInt8 :=
  List.replicate 12 0 ++ [0x08, 0x00] ++
    [0x45, 0, 0, UInt8.ofNat (20 + payload.length), 0, 1, highByte fragmentField,
      lowByte fragmentField, 64, protocol, 0, 0, 10, 0, 0, 1, 10, 0, 0, 2] ++ payload

def sampleTcpHeader : List UInt8 :=
  [0x0f, 0xa0, 0, 53, 0, 0, 0, 1, 0, 0, 0, 0, 0x50, 0x02, 0, 0, 0, 0, 0, 0]

/-- A UDP datagram of sixteen bytes. -/
def sampleUdpDatagram : List UInt8 := [0x0f, 0xa0, 0, 53, 0, 16, 0, 0] ++ List.replicate 8 7

/-- A TCP segment over IPv6 behind a Hop-by-Hop header. -/
def sampleHopByHopFrame : List UInt8 :=
  List.replicate 12 0 ++ [0x86, 0xdd] ++ [0x60, 0, 0, 0, 0, 28, 0, 64] ++ List.replicate 16 1 ++
    List.replicate 16 2 ++ [6, 0, 0, 0, 0, 0, 0, 0] ++ sampleTcpHeader

/-- A frame with UDP, which `tcp` rejects, before one with TCP. -/
def samplePackets : List CapturedPacket :=
  [{ bytes := sampleIpv4Frame 17 0 sampleUdpDatagram, seconds := 1 },
    { bytes := sampleIpv4Frame 6 0 sampleTcpHeader, seconds := 2 }]

/-- A UDP datagram in two fragments, of which `port` rejects the second. -/
def sampleFragments : List CapturedPacket :=
  [{ bytes := sampleIpv4Frame 17 0x2000 (sampleUdpDatagram.take 8), seconds := 1 },
    { bytes := sampleIpv4Frame 17 1 (sampleUdpDatagram.drop 8), seconds := 1 }]

def sampleTcpConfig : AppConfig :=
  { reassemble := true, filterProtocolEnabled := true, filterProtocol := .tcp }

def samplePortConfig : AppConfig := { filterPortEnabled := true, filterPort := 53 }

/-- The state that a capture with default limits starts in. -/
def sampleCaptureState (config : AppConfig) : CaptureState where
  fragmentTable := { maxDatagrams := 64, maxBytes := 1048576, timeoutSeconds := 30 }
  flowTable :=
    if config.reassemble then
      some { maxFlows := 512, streamBufferBytes := 32768, timeoutSeconds := 60 }
    else none

theorem prefilter_displays_same_samplePackets :
    displayedBy none sampleTcpConfig (sampleCaptureState sampleTcpConfig) samplePackets =
      displayedBy none sampleTcpConfig (sampleCaptureState sampleTcpConfig)
        (deliveredPackets sampleTcpConfig samplePackets) :=
  prefilter_displays_same none (by decide +kernel) (by decide +kernel) (by decide +kernel)

/-- An extension header hides a transport from `tcp`, and `port` does not see the ports of a
datagram in its fragments: what is displayed without the pre-filter is lost behind it. -/
theorem prefilter_loses_packets :
    (captureInit sampleTcpConfig = some (sampleCaptureState sampleTcpConfig) ∧
        displayedBy none sampleTcpConfig (sampleCaptureState sampleTcpConfig)
            [{ bytes := sampleHopByHopFrame, seconds := 1 }] ≠
          displayedBy none sampleTcpConfig (sampleCaptureState sampleTcpConfig)
            (deliveredPackets sampleTcpConfig
              [{ bytes := sampleHopByHopFrame, seconds := 1 }])) ∧
      captureInit samplePortConfig = some (sampleCaptureState samplePortConfig) ∧
        displayedBy none samplePortConfig (sampleCaptureState samplePortConfig) sampleFragments ≠
          displayedBy none samplePortConfig (sampleCaptureState samplePortConfig)
            (deliveredPackets samplePortConfig sampleFragments) := by
  decide +kernel

end Runs

end MiniSniffer
