import MiniSniffer.Capture.Connection
import MiniSniffer.Flow.Identity

/-!
Contract: what a gracefully closed connection leaves in the flow table.

A trace in which both sides of a connection send one FIN each is followed on the
connection machine: up to the last FIN the flow is open, whether the first FIN is
still remembered then decides whether it closes, and the first packet of the
connection after it has closed opens another flow. Owns what such a connection is
counted as and what it leaves in the table.

Does not own connections that overflow, are reset, or are evicted as idle or for
capacity.
-/

namespace MiniSniffer

open Foundation

/-! ### Traces -/

/-- A FIN that one side of the connection sends. -/
def isFinOf (key : FlowKey) (side : FlowDirection) (event : FlowEvent) : Bool :=
  trackedAs event.packet = some (key, side) && ClosingFlag.fin.carried event.packet.tcpFlags

/-- A packet of the connection is a sequenced segment and no reset. -/
def Orderly (key : FlowKey) (event : FlowEvent) : Prop :=
  connectionOf event = some key →
    event.packet.hasTcpSequence = true ∧ ClosingFlag.rst.carried event.packet.tcpFlags = false

/-- No direction of the connection has overflowed. -/
def FitsBuffers (key : FlowKey) (table : FlowTable) (_ : FlowEvent) : Prop :=
  ∀ flow, flowOf table key = some flow → ∀ side, (flow.tcp side).unusable = false

/-- Both sides send one FIN: the opposite side before `lastFin`, `side` with it. Packets of other
connections may stand anywhere. -/
structure GracefulTrace (packetLocal : Bool) (key : FlowKey) (side : FlowDirection)
    (table : FlowTable) (before : List FlowEvent) (lastFin : FlowEvent) (after : List FlowEvent) :
    Prop where
  absent : flowOf table key = none
  orderly : ∀ event ∈ before ++ lastFin :: after, Orderly key event
  firstFin : before.countP (isFinOf key side.opposite) = 1
  noneEarlier : ∀ event ∈ before, isFinOf key side event = false
  closing : isFinOf key side lastFin = true
  noneLater : ∀ event ∈ after, ∀ other, isFinOf key other event = false
  spared : (flowCapture packetLocal).AllSteps (Spared key) table (before ++ lastFin :: after)
  fits : (flowCapture packetLocal).AllSteps (FitsBuffers key) table (before ++ lastFin :: after)

/-- The connection's flow is closed by FIN once, counting the final closed pass; it was created
once, and once more if it was reopened, in which case that pass leaves an entry. -/
structure ClosesOnce (reopened packetLocal : Bool) (key : FlowKey) (table : FlowTable)
    (events : List FlowEvent) : Prop where
  created : (flowCapture packetLocal).tally (createdBy packetLocal key) table events =
    1 + reopened.toNat
  finished : (flowCapture packetLocal).tally (finishedBy key) table events +
    finishedOf key ((flowCapture packetLocal).run table events) = 1
  left : (flowOf (flowTableEvictClosed ((flowCapture packetLocal).run table events)) key).isSome =
    reopened

/-! ### One packet on the connection machine -/

/-- No entry, or one that has seen no RST. -/
def Healthy (entry : Option FlowInfo) : Prop :=
  ∀ flow, entry = some flow → 0 < flow.streamBufferBytes ∧ ∀ side, (flow.tcp side).rstSeen = false

/-- Some entry has seen the side's FIN. -/
def finSeenOf (side : FlowDirection) (entry : Option FlowInfo) : Bool :=
  entry.any fun flow => (flow.tcp side).finSeen

/-- A FIN of the connection is reset, read off its entry. -/
def ResetsEntry (key : FlowKey) (entry : Option FlowInfo) (event : FlowEvent) : Prop :=
  ∃ direction flow, trackedAs event.packet = some (key, direction) ∧ entry = some flow ∧
    ResetsFin flow direction event.packet

/-- No direction of the entry has overflowed. -/
def FitsEntry (entry : Option FlowInfo) (_ : FlowEvent) : Prop :=
  ∀ flow, entry = some flow → ∀ side, (flow.tcp side).unusable = false

section Step

variable {packetLocal : Bool} {streamBufferBytes : Nat} {key : FlowKey}
variable {entry : Option FlowInfo} {event : FlowEvent} {side direction : FlowDirection}

/-- A flow nobody reset is closed when both sides sent FIN. -/
theorem flowIsClosed_of_healthy {flow : FlowInfo} (healthy : Healthy (some flow))
    (side : FlowDirection) :
    flowIsClosed flow = ((flow.tcp side).finSeen && (flow.tcp side.opposite).finSeen) := by
  have noRst := (healthy flow rfl).2
  have aToB := noRst .aToB
  have bToA := noRst .bToA
  simp only [FlowInfo.tcp, FlowInfo.direction] at aToB bToA
  cases side
  · simp [flowIsClosed, aToB, bToA, FlowInfo.tcp, FlowInfo.direction, FlowDirection.opposite]
  · simp [flowIsClosed, aToB, bToA, FlowInfo.tcp, FlowInfo.direction, FlowDirection.opposite,
      Bool.and_comm]

theorem openPart_of_open (healthy : Healthy entry) (side : FlowDirection)
    (unseen : finSeenOf side entry = false) : openPart entry = entry := by
  cases entry with
  | none => rfl
  | some flow =>
      have missing : (flow.tcp side).finSeen = false := unseen
      rw [openPart, Option.filter_some, flowIsClosed_of_healthy healthy side, missing]
      rfl

theorem Healthy.openPart (healthy : Healthy entry) : Healthy (openPart entry) := by
  intro flow found
  exact healthy flow (Option.filter_eq_some_iff.mp found).1

/-- The flow a packet of the connection visits. -/
def visitedFlow (streamBufferBytes : Nat) (key : FlowKey) (entry : Option FlowInfo) (now : Nat) :
    FlowInfo :=
  (openPart entry).getD (freshFlow streamBufferBytes key now)

variable (key) in
theorem visitedFlow_healthy (buffered : 0 < streamBufferBytes) (healthy : Healthy entry)
    (now : Nat) : Healthy (some (visitedFlow streamBufferBytes key entry now)) := by
  intro flow found
  obtain rfl := Option.some.inj found
  unfold visitedFlow
  cases left : openPart entry with
  | none => exact ⟨buffered, fun side => by cases side <;> rfl⟩
  | some flow => exact healthy.openPart flow left

theorem finSeen_visitedFlow (side : FlowDirection) (now : Nat) :
    ((visitedFlow streamBufferBytes key entry now).tcp side).finSeen =
      finSeenOf side (openPart entry) := by
  unfold visitedFlow
  cases openPart entry with
  | none => cases side <;> rfl
  | some flow => rfl

variable (packetLocal streamBufferBytes)

theorem connection_untracked (untracked : trackedAs event.packet = none) :
    (connection packetLocal streamBufferBytes key).next entry event = entry := by
  simp only [Machine.next, connection, untracked]

theorem connection_other {own : FlowKey} (tracked : trackedAs event.packet = some (own, direction))
    (different : own ≠ key) :
    (connection packetLocal streamBufferBytes key).next entry event = openPart entry := by
  simp only [Machine.next, connection, tracked, if_neg different]

theorem connection_own (tracked : trackedAs event.packet = some (key, direction)) :
    (connection packetLocal streamBufferBytes key).next entry event =
      some (visitFlow packetLocal (visitedFlow streamBufferBytes key entry event.now) direction
        event) := by
  simp only [Machine.next, connection, tracked, if_pos, visitedFlow]

/-- A packet outside the connection keeps an open flow and nothing else. -/
theorem connection_foreign (foreign : connectionOf event ≠ some key)
    (allOpen : openPart entry = entry) :
    (connection packetLocal streamBufferBytes key).next entry event = entry := by
  cases tracked : trackedAs event.packet with
  | none => exact connection_untracked packetLocal streamBufferBytes tracked
  | some keyed =>
      obtain ⟨own, direction⟩ := keyed
      rw [connectionOf_tracked tracked] at foreign
      rw [connection_other packetLocal streamBufferBytes tracked
        (fun same => foreign (by rw [same])), allOpen]

theorem tracked_of_connectionOf (belongs : connectionOf event = some key) :
    ∃ direction, trackedAs event.packet = some (key, direction) := by
  unfold connectionOf at belongs
  obtain ⟨⟨own, direction⟩, tracked, rfl⟩ := Option.map_eq_some_iff.mp belongs
  exact ⟨direction, tracked⟩

theorem seen_connection_own (flag : ClosingFlag) (buffered : 0 < streamBufferBytes)
    (healthy : Healthy entry) (tracked : trackedAs event.packet = some (key, direction)) :
    ∃ flow, (connection packetLocal streamBufferBytes key).next entry event = some flow ∧
      0 < flow.streamBufferBytes ∧
      ∀ side, flag.seen (flow.tcp side) =
        if side = direction then
          seenAfter flag (visitedFlow streamBufferBytes key entry event.now) direction event.packet
        else flag.seen ((visitedFlow streamBufferBytes key entry event.now).tcp side) := by
  have sized := (visitedFlow_healthy key buffered healthy event.now _ rfl).1
  refine ⟨_, connection_own packetLocal streamBufferBytes tracked, ?_, ?_⟩
  · rw [(visitFlow_key packetLocal direction event sized).2]
    exact sized
  · intro side
    exact seen_visitFlow flag _ direction side packetLocal event sized

theorem Healthy.next (buffered : 0 < streamBufferBytes) (healthy : Healthy entry)
    (orderly : Orderly key event) :
    Healthy ((connection packetLocal streamBufferBytes key).next entry event) := by
  cases tracked : trackedAs event.packet with
  | none =>
      rw [connection_untracked packetLocal streamBufferBytes tracked]
      exact healthy
  | some keyed =>
      obtain ⟨own, direction⟩ := keyed
      by_cases same : own = key
      · subst same
        have noRst := (orderly (connectionOf_tracked tracked)).2
        obtain ⟨flow, next, sized, seen⟩ :=
          seen_connection_own packetLocal streamBufferBytes .rst buffered healthy tracked
        rw [next]
        intro found equal
        obtain rfl := Option.some.inj equal
        refine ⟨sized, ?_⟩
        intro side
        have unseen := (visitedFlow_healthy own buffered healthy event.now _ rfl).2
        have value := seen side
        simp only [ClosingFlag.seen] at value
        rw [value]
        split_ifs
        · simp [seenAfter, ClosingFlag.seen, unseen direction, noRst]
        · exact unseen side
      · rw [connection_other packetLocal streamBufferBytes tracked same]
        exact healthy.openPart

/-- What a packet of the connection leaves of a FIN, read off its entry. -/
theorem finSeen_next_own (buffered : 0 < streamBufferBytes) (healthy : Healthy entry)
    (tracked : trackedAs event.packet = some (key, direction)) (side : FlowDirection) :
    finSeenOf side ((connection packetLocal streamBufferBytes key).next entry event) =
      if side = direction then
        seenAfter .fin (visitedFlow streamBufferBytes key entry event.now) direction event.packet
      else finSeenOf side (openPart entry) := by
  obtain ⟨flow, next, -, seen⟩ :=
    seen_connection_own packetLocal streamBufferBytes .fin buffered healthy tracked
  rw [next]
  show (flow.tcp side).finSeen = _
  have value := seen side
  simp only [ClosingFlag.seen] at value
  rw [value, finSeen_visitedFlow]

/-- A FIN that was not seen and is not carried is not seen afterwards. -/
theorem unseen_next (buffered : 0 < streamBufferBytes) (healthy : Healthy entry)
    (unseen : finSeenOf side entry = false) (bare : isFinOf key side event = false) :
    finSeenOf side ((connection packetLocal streamBufferBytes key).next entry event) = false := by
  have allOpen := openPart_of_open healthy side unseen
  by_cases foreign : connectionOf event = some key
  · obtain ⟨direction, tracked⟩ := tracked_of_connectionOf foreign
    rw [finSeen_next_own packetLocal streamBufferBytes buffered healthy tracked]
    split_ifs with same
    · subst same
      have silent : ClosingFlag.fin.carried event.packet.tcpFlags = false := by
        simpa [isFinOf, tracked] using bare
      have missing : ClosingFlag.fin.seen
          ((visitedFlow streamBufferBytes key entry event.now).tcp side) = false := by
        show ((visitedFlow streamBufferBytes key entry event.now).tcp side).finSeen = false
        rw [finSeen_visitedFlow, allOpen, unseen]
      simp [seenAfter, silent, missing]
    · rw [allOpen]
      exact unseen
  · rw [connection_foreign packetLocal streamBufferBytes foreign allOpen]
    exact unseen

/-- A FIN in a connection that fits its buffers is seen. -/
theorem seen_next_fin (buffered : 0 < streamBufferBytes) (healthy : Healthy entry)
    (orderly : Orderly key event) (fits : FitsEntry entry event)
    (fin : isFinOf key side event = true) :
    finSeenOf side ((connection packetLocal streamBufferBytes key).next entry event) = true := by
  obtain ⟨tracked, carried⟩ : trackedAs event.packet = some (key, side) ∧
      ClosingFlag.fin.carried event.packet.tcpFlags = true := by
    simpa [isFinOf] using fin
  have segment := (carriesSegment_of_tracked tracked).trans
    (orderly (connectionOf_tracked tracked)).1
  have usable : ((visitedFlow streamBufferBytes key entry event.now).tcp side).unusable =
      false := by
    unfold visitedFlow
    cases left : openPart entry with
    | none => cases side <;> rfl
    | some flow => exact fits flow (Option.filter_eq_some_iff.mp left).1 side
  rw [finSeen_next_own packetLocal streamBufferBytes buffered healthy tracked, if_pos rfl]
  simp [seenAfter, segment, carried, usable]

variable (key event) in
/-- A FIN that was seen in an open flow stays seen unless the packet resets it. -/
theorem keeps_next_iff (buffered : 0 < streamBufferBytes) (healthy : Healthy entry)
    (allOpen : openPart entry = entry) (seen : finSeenOf side entry = true)
    (otherUnseen : finSeenOf side.opposite entry = false) :
    finSeenOf side ((connection packetLocal streamBufferBytes key).next entry event) = true ↔
      ¬ ResetsEntry key entry event := by
  obtain ⟨flow, rfl⟩ : ∃ flow, entry = some flow := by
    cases entry with
    | none => contradiction
    | some flow => exact ⟨flow, rfl⟩
  have finSeen : (flow.tcp side).finSeen = true := seen
  have otherFin : (flow.tcp side.opposite).finSeen = false := otherUnseen
  by_cases foreign : connectionOf event = some key
  · obtain ⟨direction, tracked⟩ := tracked_of_connectionOf foreign
    have visited : visitedFlow streamBufferBytes key (some flow) event.now = flow := by
      rw [visitedFlow, allOpen]
      rfl
    have stillOpen : flowIsClosed flow = false := by
      rw [flowIsClosed_of_healthy healthy side, otherFin, Bool.and_false]
    have resets : ResetsEntry key (some flow) event ↔ ResetsFin flow direction event.packet := by
      constructor
      · intro entryResets
        obtain ⟨own, visitedFlow, keyed, found, packetResets⟩ := entryResets
        rw [tracked] at keyed
        cases keyed
        cases found
        exact packetResets
      · intro packetResets
        exact ⟨direction, flow, tracked, rfl, packetResets⟩
    rw [finSeen_next_own packetLocal streamBufferBytes buffered healthy tracked, visited, resets,
      ← seenAfter_keeps_iff (carriesSegment_of_tracked tracked) stillOpen]
    split_ifs with same
    · subst same
      constructor
      · intro kept flag flagSeen
        cases flag with
        | fin => exact kept
        | rst =>
            rw [ClosingFlag.seen, (healthy flow rfl).2 side] at flagSeen
            contradiction
      · intro keeps
        exact keeps .fin finSeen
    · rw [allOpen]
      refine iff_of_true finSeen ?_
      have other : direction = side.opposite := by
        cases side <;> cases direction <;> first | rfl | contradiction
      intro flag flagSeen
      cases flag with
      | fin =>
          rw [other, ClosingFlag.seen, otherFin] at flagSeen
          contradiction
      | rst =>
          rw [ClosingFlag.seen, (healthy flow rfl).2 direction] at flagSeen
          contradiction
  · rw [connection_foreign packetLocal streamBufferBytes foreign allOpen]
    refine iff_of_true seen ?_
    intro entryResets
    obtain ⟨direction, -, tracked, -⟩ := entryResets
    exact foreign (connectionOf_tracked tracked)

theorem isSome_connection_own (belongs : connectionOf event = some key) :
    ((connection packetLocal streamBufferBytes key).next entry event).isSome = true := by
  obtain ⟨direction, tracked⟩ := tracked_of_connectionOf belongs
  rw [connection_own packetLocal streamBufferBytes tracked]
  rfl

/-! ### Counting -/

/-- Without resets, a closed flow is a finished one. -/
theorem any_finished (healthy : Healthy entry) :
    entry.any flowIsFinished = (entry.isSome && (openPart entry).isNone) := by
  cases entry with
  | none => rfl
  | some flow =>
      have aToB := (healthy flow rfl).2 .aToB
      have bToA := (healthy flow rfl).2 .bToA
      simp only [FlowInfo.tcp, FlowInfo.direction] at aToB bToA
      cases closed : flowIsClosed flow <;>
        simp [flowIsFinished, flowIsReset, openPart, Option.filter_some, aToB, bToA, closed]

variable (key event) in
/-- One packet creates as many flows as it finishes, up to what is in the table. -/
theorem balance_next (healthy : Healthy entry) :
    createdFlows key entry event + entry.isSome.toNat =
      finishedFlows entry event +
        ((connection packetLocal streamBufferBytes key).next entry event).isSome.toNat := by
  cases tracked : trackedAs event.packet with
  | none =>
      rw [connection_untracked packetLocal streamBufferBytes tracked]
      simp [createdFlows, finishedFlows, connectionOf_untracked tracked]
  | some keyed =>
      obtain ⟨own, direction⟩ := keyed
      have connected := connectionOf_tracked tracked
      by_cases same : own = key
      · subst same
        rw [isSome_connection_own packetLocal streamBufferBytes connected]
        simp only [createdFlows, finishedFlows, connected, any_finished healthy]
        cases entry with
        | none => rfl
        | some flow => cases openPart (some flow) <;> rfl
      · rw [connection_other packetLocal streamBufferBytes tracked same]
        simp only [createdFlows, finishedFlows, connected, any_finished healthy]
        cases entry with
        | none => simp [openPart, same]
        | some flow => cases openPart (some flow) <;> simp [same]

theorem Healthy.run (buffered : 0 < streamBufferBytes) (healthy : Healthy entry)
    {events : List FlowEvent} (orderly : ∀ event ∈ events, Orderly key event) :
    Healthy ((connection packetLocal streamBufferBytes key).run entry events) := by
  apply Machine.run_invariant _ healthy (Machine.AllSteps.of_forall orderly entry)
  intro entry event healthy orderly
  exact healthy.next packetLocal streamBufferBytes buffered orderly

theorem balance_run (buffered : 0 < streamBufferBytes) (healthy : Healthy entry)
    {events : List FlowEvent} (orderly : ∀ event ∈ events, Orderly key event) :
    (connection packetLocal streamBufferBytes key).tally (createdFlows key) entry events +
        entry.isSome.toNat =
      (connection packetLocal streamBufferBytes key).tally finishedFlows entry events +
        ((connection packetLocal streamBufferBytes key).run entry events).isSome.toNat := by
  induction events generalizing entry with
  | nil => rfl
  | cons event events inductionHypothesis =>
      rw [List.forall_mem_cons] at orderly
      have step := balance_next packetLocal streamBufferBytes key event healthy
      have rest := inductionHypothesis
        (healthy.next packetLocal streamBufferBytes buffered orderly.1) orderly.2
      rw [Machine.tally_cons, Machine.tally_cons, Machine.run_cons]
      omega

/-! ### Runs -/

theorem unseen_run (buffered : 0 < streamBufferBytes) (healthy : Healthy entry)
    (unseen : finSeenOf side entry = false) {events : List FlowEvent}
    (orderly : ∀ event ∈ events, Orderly key event)
    (bare : ∀ event ∈ events, isFinOf key side event = false) :
    finSeenOf side ((connection packetLocal streamBufferBytes key).run entry events) = false := by
  have kept : ∀ (entry : Option FlowInfo) (event : FlowEvent),
      Healthy entry ∧ finSeenOf side entry = false →
      Orderly key event ∧ isFinOf key side event = false →
      Healthy ((connection packetLocal streamBufferBytes key).next entry event) ∧
        finSeenOf side ((connection packetLocal streamBufferBytes key).next entry event) =
          false := by
    intro entry event unsent step
    exact ⟨unsent.1.next packetLocal streamBufferBytes buffered step.1,
      unseen_next packetLocal streamBufferBytes buffered unsent.1 unsent.2 step.2⟩
  exact (Machine.run_invariant kept ⟨healthy, unseen⟩
    ((Machine.AllSteps.of_forall orderly entry).and (Machine.AllSteps.of_forall bare entry))).2

/-- While a side has not sent its FIN, nothing finishes and nothing leaves. -/
theorem open_run (buffered : 0 < streamBufferBytes) (healthy : Healthy entry)
    (unseen : finSeenOf side entry = false) {events : List FlowEvent}
    (orderly : ∀ event ∈ events, Orderly key event)
    (bare : ∀ event ∈ events, isFinOf key side event = false) :
    (connection packetLocal streamBufferBytes key).tally finishedFlows entry events = 0 ∧
      (entry.isSome = true →
        ((connection packetLocal streamBufferBytes key).run entry events).isSome = true) := by
  induction events generalizing entry with
  | nil => exact ⟨rfl, id⟩
  | cons event events inductionHypothesis =>
      rw [List.forall_mem_cons] at orderly bare
      have rest := inductionHypothesis
        (healthy.next packetLocal streamBufferBytes buffered orderly.1)
        (unseen_next packetLocal streamBufferBytes buffered healthy unseen bare.1) orderly.2 bare.2
      have allOpen := openPart_of_open healthy side unseen
      constructor
      · rw [Machine.tally_cons, rest.1]
        have unfinished : entry.any flowIsFinished = false := by
          rw [any_finished healthy, allOpen]
          cases entry <;> rfl
        simp [finishedFlows, unfinished]
      · intro present
        apply rest.2
        by_cases foreign : connectionOf event = some key
        · exact isSome_connection_own packetLocal streamBufferBytes foreign
        · rw [connection_foreign packetLocal streamBufferBytes foreign allOpen]
          exact present

/-- Once a side's FIN was seen, and while the other side is open, it stays seen exactly if no packet
resets it. -/
theorem keeps_run_iff (buffered : 0 < streamBufferBytes) (healthy : Healthy entry)
    (seen : finSeenOf side entry = true) (otherUnseen : finSeenOf side.opposite entry = false)
    {events : List FlowEvent} (orderly : ∀ event ∈ events, Orderly key event)
    (single : ∀ event ∈ events, isFinOf key side event = false)
    (otherBare : ∀ event ∈ events, isFinOf key side.opposite event = false) :
    finSeenOf side ((connection packetLocal streamBufferBytes key).run entry events) = true ↔
      (connection packetLocal streamBufferBytes key).AllSteps
        (fun entry event => ¬ ResetsEntry key entry event) entry events := by
  induction events generalizing entry with
  | nil => exact iff_of_true seen trivial
  | cons event events inductionHypothesis =>
      rw [List.forall_mem_cons] at orderly single otherBare
      have healthyNext := healthy.next packetLocal streamBufferBytes buffered orderly.1
      have keeps := keeps_next_iff packetLocal streamBufferBytes key event buffered healthy
        (openPart_of_open healthy _ otherUnseen) seen otherUnseen
      rw [Machine.run_cons, Machine.allSteps_cons, ← keeps]
      by_cases kept : finSeenOf side
          ((connection packetLocal streamBufferBytes key).next entry event) = true
      · rw [inductionHypothesis healthyNext kept (unseen_next packetLocal streamBufferBytes buffered
          healthy otherUnseen otherBare.1) orderly.2 single.2 otherBare.2]
        exact (and_iff_right kept).symm
      · rw [unseen_run packetLocal streamBufferBytes buffered healthyNext
          (Bool.eq_false_iff.mpr kept) orderly.2 single.2]
        simp [kept]

/-- The first packet that resets a FIN comes after that FIN. -/
theorem noReset_of_unseen (allUnseen : ∀ side, finSeenOf side entry = false) :
    ¬ ResetsEntry key entry event := by
  intro entryResets
  obtain ⟨direction, flow, -, found, resets⟩ := entryResets
  have unseen := allUnseen direction
  rw [found] at unseen
  exact absurd resets.2.2.2.2.1 (Bool.eq_false_iff.mp unseen)

/-- A side that sends one FIN has it seen at the end exactly if no packet resets it. -/
theorem firstFin_run_iff (buffered : 0 < streamBufferBytes) (healthy : Healthy entry)
    (unseen : finSeenOf side entry = false) (otherUnseen : finSeenOf side.opposite entry = false)
    {events : List FlowEvent} (orderly : ∀ event ∈ events, Orderly key event)
    (single : events.countP (isFinOf key side) = 1)
    (otherBare : ∀ event ∈ events, isFinOf key side.opposite event = false)
    (fits : (connection packetLocal streamBufferBytes key).AllSteps FitsEntry entry events) :
    finSeenOf side ((connection packetLocal streamBufferBytes key).run entry events) = true ↔
      (connection packetLocal streamBufferBytes key).AllSteps
        (fun entry event => ¬ ResetsEntry key entry event) entry events := by
  induction events generalizing entry with
  | nil => contradiction
  | cons event events inductionHypothesis =>
      rw [List.forall_mem_cons] at orderly otherBare
      have healthyNext := healthy.next packetLocal streamBufferBytes buffered orderly.1
      have otherNext := unseen_next packetLocal streamBufferBytes buffered healthy otherUnseen
        otherBare.1
      have harmless : ¬ ResetsEntry key entry event := by
        apply noReset_of_unseen
        intro other
        cases side <;> cases other <;> assumption
      rw [Machine.run_cons, Machine.allSteps_cons, and_iff_right harmless]
      cases fin : isFinOf key side event with
      | true =>
          have none_later : ∀ later ∈ events, isFinOf key side later = false := by
            rw [List.countP_cons_of_pos fin, Nat.succ.injEq, List.countP_eq_zero] at single
            intro later member
            exact Bool.eq_false_iff.mpr (single later member)
          exact keeps_run_iff packetLocal streamBufferBytes buffered healthyNext
            (seen_next_fin packetLocal streamBufferBytes buffered healthy orderly.1 fits.1 fin)
            otherNext orderly.2 none_later otherBare.2
      | false =>
          rw [List.countP_cons_of_neg (Bool.eq_false_iff.mp fin)] at single
          exact inductionHypothesis healthyNext
            (unseen_next packetLocal streamBufferBytes buffered healthy unseen fin)
            otherNext orderly.2 single otherBare.2 fits.2

/-- After the connection has closed, packets of other connections leave nothing to count. -/
theorem foreign_run (closed : openPart entry = none) {events : List FlowEvent}
    (foreign : ∀ event ∈ events, connectionOf event ≠ some key) :
    (connection packetLocal streamBufferBytes key).tally (createdFlows key) entry events = 0 ∧
      openPart ((connection packetLocal streamBufferBytes key).run entry events) = none ∧
      (connection packetLocal streamBufferBytes key).AllSteps
        (fun entry event => ¬ ResetsEntry key entry event) entry events := by
  induction events generalizing entry with
  | nil => exact ⟨rfl, closed, trivial⟩
  | cons event events inductionHypothesis =>
      rw [List.forall_mem_cons] at foreign
      have closedNext :
          openPart ((connection packetLocal streamBufferBytes key).next entry event) = none := by
        cases tracked : trackedAs event.packet with
        | none =>
            rw [connection_untracked packetLocal streamBufferBytes tracked]
            exact closed
        | some keyed =>
            obtain ⟨own, direction⟩ := keyed
            have different := foreign.1
            rw [connectionOf_tracked tracked] at different
            rw [connection_other packetLocal streamBufferBytes tracked
              (fun same => different (by rw [same])), closed]
            rfl
      have rest := inductionHypothesis closedNext foreign.2
      refine ⟨?_, rest.2.1, ?_, rest.2.2⟩
      · rw [Machine.tally_cons, rest.1, createdFlows, if_neg fun both => foreign.1 both.1]
      · intro entryResets
        obtain ⟨direction, -, tracked, -⟩ := entryResets
        exact foreign.1 (connectionOf_tracked tracked)

/-- The first packet of a connection that has closed opens another flow, and with no FIN to come
that one stays open. -/
theorem reopened_run (buffered : 0 < streamBufferBytes) (healthy : Healthy entry)
    (closed : openPart entry = none) {events : List FlowEvent}
    (orderly : ∀ event ∈ events, Orderly key event)
    (bare : ∀ event ∈ events, ∀ side, isFinOf key side event = false)
    (belongs : ∃ event ∈ events, connectionOf event = some key) :
    (connection packetLocal streamBufferBytes key).tally (createdFlows key) entry events = 1 ∧
      (openPart ((connection packetLocal streamBufferBytes key).run entry events)).isSome =
        true := by
  induction events generalizing entry with
  | nil =>
      obtain ⟨event, member, -⟩ := belongs
      contradiction
  | cons first events inductionHypothesis =>
      rw [List.forall_mem_cons] at orderly bare
      have healthyNext := healthy.next packetLocal streamBufferBytes buffered orderly.1
      rw [Machine.tally_cons, Machine.run_cons]
      by_cases firstOwn : connectionOf first = some key
      · obtain ⟨direction, tracked⟩ := tracked_of_connectionOf firstOwn
        have present : ((connection packetLocal streamBufferBytes key).next entry first).isSome =
            true := isSome_connection_own packetLocal streamBufferBytes firstOwn
        have silent : ClosingFlag.fin.carried first.packet.tcpFlags = false := by
          simpa [isFinOf, tracked] using bare.1 direction
        have unseen : finSeenOf .aToB
            ((connection packetLocal streamBufferBytes key).next entry first) = false := by
          rw [finSeen_next_own packetLocal streamBufferBytes buffered healthy tracked, closed]
          have missing : ClosingFlag.fin.seen
              ((visitedFlow streamBufferBytes key entry first.now).tcp direction) = false := by
            show ((visitedFlow streamBufferBytes key entry first.now).tcp direction).finSeen = false
            rw [finSeen_visitedFlow, closed]
            rfl
          split_ifs
          · simp [seenAfter, silent, missing]
          · rfl
        have noneLater : ∀ event ∈ events, isFinOf key .aToB event = false :=
          fun event member => bare.2 event member .aToB
        have stays := open_run packetLocal streamBufferBytes buffered healthyNext unseen orderly.2
          noneLater
        have balance := balance_run packetLocal streamBufferBytes buffered healthyNext orderly.2
        rw [stays.1, stays.2 present, present] at balance
        have stillHealthy := healthyNext.run packetLocal streamBufferBytes buffered orderly.2
        rw [openPart_of_open stillHealthy .aToB (unseen_run packetLocal streamBufferBytes buffered
          healthyNext unseen orderly.2 noneLater)]
        rw [createdFlows, if_pos ⟨firstOwn, closed⟩]
        exact ⟨by omega, stays.2 present⟩
      · have foreign : ∀ event ∈ [first], connectionOf event ≠ some key := by
          simpa using firstOwn
        have stillClosed := (foreign_run packetLocal streamBufferBytes closed foreign).2.1
        have later : ∃ event ∈ events, connectionOf event = some key := by
          obtain ⟨event, member, own⟩ := belongs
          rcases List.mem_cons.mp member with same | later
          · rw [same] at own
            contradiction
          · exact ⟨event, later, own⟩
        have rest := inductionHypothesis healthyNext stillClosed orderly.2 bare.2 later
        rw [rest.1, createdFlows, if_neg fun both => firstOwn both.1]
        exact ⟨rfl, rest.2⟩

/-- The last FIN is seen, and forgets nothing of the other side. -/
theorem closing_next (buffered : 0 < streamBufferBytes) (healthy : Healthy entry)
    (unseen : finSeenOf side entry = false) (closing : isFinOf key side event = true) :
    finSeenOf side.opposite ((connection packetLocal streamBufferBytes key).next entry event) =
        finSeenOf side.opposite entry ∧
      ¬ ResetsEntry key entry event ∧ connectionOf event = some key := by
  obtain ⟨tracked, -⟩ : trackedAs event.packet = some (key, side) ∧
      ClosingFlag.fin.carried event.packet.tcpFlags = true := by
    simpa [isFinOf] using closing
  refine ⟨?_, ?_, connectionOf_tracked tracked⟩
  · rw [finSeen_next_own packetLocal streamBufferBytes buffered healthy tracked,
      openPart_of_open healthy side unseen]
    cases side <;> rfl
  · intro entryResets
    obtain ⟨direction, flow, keyed, found, resets⟩ := entryResets
    rw [tracked] at keyed
    cases keyed
    rw [found] at unseen
    exact absurd resets.2.2.2.2.1 (Bool.eq_false_iff.mp unseen)

/-- A connection that starts from nothing and sends both FINs has created one flow by the last of
them, which is closed exactly if no packet reset the first. -/
theorem established (buffered : 0 < streamBufferBytes) {before : List FlowEvent}
    {lastFin : FlowEvent}
    (orderly : ∀ event ∈ before ++ [lastFin], Orderly key event)
    (firstFin : before.countP (isFinOf key side.opposite) = 1)
    (noneEarlier : ∀ event ∈ before, isFinOf key side event = false)
    (closing : isFinOf key side lastFin = true)
    (fits : (connection packetLocal streamBufferBytes key).AllSteps FitsEntry none
      (before ++ [lastFin])) :
    let last := (connection packetLocal streamBufferBytes key).run none (before ++ [lastFin])
    Healthy last ∧ last.isSome = true ∧
      (connection packetLocal streamBufferBytes key).tally (createdFlows key) none
        (before ++ [lastFin]) = 1 ∧
      (openPart last = none ↔ finSeenOf side.opposite last = true) ∧
      (finSeenOf side.opposite last = true ↔
        (connection packetLocal streamBufferBytes key).AllSteps
          (fun entry event => ¬ ResetsEntry key entry event) none (before ++ [lastFin])) := by
  intro last
  have nothing : Healthy none := fun flow found => by contradiction
  have orderlyBefore : ∀ event ∈ before, Orderly key event :=
    fun event member => orderly event (List.mem_append_left _ member)
  have orderlyLast : Orderly key lastFin := orderly lastFin (by simp)
  rw [Machine.allSteps_append] at fits
  have swapped : side.opposite.opposite = side := by cases side <;> rfl
  have unfinished := (open_run packetLocal streamBufferBytes buffered nothing
    (show finSeenOf side none = false from rfl) orderlyBefore noneEarlier).1
  have balanceBefore := balance_run packetLocal streamBufferBytes buffered nothing orderlyBefore
  have keptBefore := firstFin_run_iff packetLocal streamBufferBytes buffered nothing
    (show finSeenOf side.opposite none = false from rfl) rfl orderlyBefore firstFin
    (by rw [swapped]; exact noneEarlier) fits.1
  have healthy := nothing.run packetLocal streamBufferBytes buffered orderlyBefore
  have unseen := unseen_run packetLocal streamBufferBytes buffered nothing
    (show finSeenOf side none = false from rfl) orderlyBefore noneEarlier
  have createdAll : (connection packetLocal streamBufferBytes key).tally (createdFlows key) none
      (before ++ [lastFin]) = _ := Machine.tally_append _ _ _ _
  have lastEq : last = (connection packetLocal streamBufferBytes key).next
      ((connection packetLocal streamBufferBytes key).run none before) lastFin :=
    Machine.run_append _ _ _
  rw [Machine.allSteps_append]
  -- the entry that the last FIN meets
  generalize (connection packetLocal streamBufferBytes key).run none before = entry
    at *
  have balanceLast := balance_next packetLocal streamBufferBytes key lastFin healthy
  have closingNext := closing_next packetLocal streamBufferBytes buffered healthy unseen closing
  have seenLast := seen_next_fin packetLocal streamBufferBytes buffered healthy orderlyLast
    fits.2.1 closing
  have present : last.isSome = true := by
    rw [lastEq]
    exact isSome_connection_own packetLocal streamBufferBytes closingNext.2.2
  have healthyLast := healthy.next packetLocal streamBufferBytes buffered orderlyLast
  rw [← lastEq] at closingNext seenLast healthyLast balanceLast
  refine ⟨healthyLast, present, ?_, ?_, ?_⟩
  · have quiet : finishedFlows entry lastFin = 0 := by
      have notFinished : entry.any flowIsFinished = false := by
        rw [any_finished healthy, openPart_of_open healthy side unseen]
        cases entry <;> rfl
      simp [finishedFlows, notFinished]
    rw [createdAll, Machine.tally_cons, Machine.tally_nil]
    rw [quiet, present] at balanceLast
    rw [unfinished] at balanceBefore
    simp only [Option.isSome_none, Bool.toNat_false, Bool.toNat_true] at balanceBefore balanceLast
    omega
  · obtain ⟨flow, found⟩ := Option.isSome_iff_exists.mp present
    rw [found] at seenLast healthyLast ⊢
    have sideSeen : (flow.tcp side).finSeen = true := seenLast
    simp [openPart, Option.filter_some, flowIsClosed_of_healthy healthyLast side, sideSeen,
      finSeenOf]
  · rw [closingNext.1, keptBefore]
    exact (and_iff_left ⟨closingNext.2.1, trivial⟩).symm

/-- On the connection machine, a graceful trace in which no packet resets a FIN opens one flow, and
another one exactly if a packet of the connection follows its last FIN. -/
theorem connection_closes (buffered : 0 < streamBufferBytes) {before after : List FlowEvent}
    {lastFin : FlowEvent}
    (orderly : ∀ event ∈ before ++ lastFin :: after, Orderly key event)
    (firstFin : before.countP (isFinOf key side.opposite) = 1)
    (noneEarlier : ∀ event ∈ before, isFinOf key side event = false)
    (closing : isFinOf key side lastFin = true)
    (noneLater : ∀ event ∈ after, ∀ other, isFinOf key other event = false)
    (fits : (connection packetLocal streamBufferBytes key).AllSteps FitsEntry none
      (before ++ lastFin :: after))
    (harmless : (connection packetLocal streamBufferBytes key).AllSteps
      (fun entry event => ¬ ResetsEntry key entry event) none (before ++ lastFin :: after)) :
    let reopened := after.any fun event => connectionOf event = some key
    (connection packetLocal streamBufferBytes key).tally (createdFlows key) none
          (before ++ lastFin :: after) = 1 + reopened.toNat ∧
      (openPart ((connection packetLocal streamBufferBytes key).run none
        (before ++ lastFin :: after))).isSome = reopened := by
  intro reopened
  have split : before ++ lastFin :: after = (before ++ [lastFin]) ++ after := by simp
  rw [split] at orderly fits harmless ⊢
  rw [Machine.allSteps_append] at fits harmless
  have orderlyBefore : ∀ event ∈ before ++ [lastFin], Orderly key event :=
    fun event member => orderly event (List.mem_append_left _ member)
  have orderlyAfter : ∀ event ∈ after, Orderly key event :=
    fun event member => orderly event (List.mem_append_right _ member)
  obtain ⟨healthy, -, created, closed, kept⟩ :=
    established packetLocal streamBufferBytes buffered orderlyBefore firstFin noneEarlier closing
      fits.1
  have gone := closed.mpr (kept.mpr harmless.1)
  rw [Machine.tally_append, Machine.run_append none (before ++ [lastFin]) after, created]
  cases again : reopened with
  | true =>
      have belongs : ∃ event ∈ after, connectionOf event = some key := by
        simpa [reopened] using again
      have ghost := reopened_run packetLocal streamBufferBytes buffered healthy gone orderlyAfter
        noneLater belongs
      exact ⟨by rw [ghost.1]; rfl, ghost.2⟩
  | false =>
      have foreign : ∀ event ∈ after, connectionOf event ≠ some key := by
        simpa [reopened] using again
      have quiet := foreign_run packetLocal streamBufferBytes gone foreign
      exact ⟨by rw [quiet.1]; rfl, by rw [quiet.2.1]; rfl⟩

end Step

/-! ### The flow table -/

section Table

variable {packetLocal : Bool} {table : FlowTable} {key : FlowKey} {side : FlowDirection}
variable {before after : List FlowEvent} {lastFin : FlowEvent}

/-- Without resets, what a connection leaves is what it created and did not finish. -/
theorem closesOnce_iff (consistent : table.Consistent) {events : List FlowEvent}
    (absent : flowOf table key = none) (orderly : ∀ event ∈ events, Orderly key event)
    (spared : (flowCapture packetLocal).AllSteps (Spared key) table events) (reopened : Bool) :
    ClosesOnce reopened packetLocal key table events ↔
      (connection packetLocal table.streamBufferBytes key).tally (createdFlows key) none events =
          1 + reopened.toNat ∧
        (openPart ((connection packetLocal table.streamBufferBytes key).run none events)).isSome =
          reopened := by
  have nothing : Healthy none := fun flow found => by contradiction
  have buffered := consistent.buffered
  have balance := balance_run packetLocal table.streamBufferBytes buffered nothing orderly
  have healthy := nothing.run packetLocal table.streamBufferBytes buffered orderly
  obtain ⟨entry, created, finished⟩ := flowOf_run consistent spared
  have distinct : DistinctKeys FlowInfo.key ((flowCapture packetLocal).run table events).flows :=
    (consistent.run events).distinct
  have atEnd := finishedOf_eq distinct key
  have gone := flowOf_evictClosed distinct key
  rw [absent] at entry created finished
  rw [entry] at atEnd gone
  rw [any_finished healthy] at atEnd
  constructor
  · intro closes
    exact ⟨created.symm.trans closes.created, by rw [← gone]; exact closes.left⟩
  · intro quiet
    refine ⟨created.trans quiet.1, ?_, by rw [gone]; exact quiet.2⟩
    rw [quiet.1] at balance
    rw [finished, atEnd]
    have remains := quiet.2
    cases left : (connection packetLocal table.streamBufferBytes key).run none events with
    | none =>
        rw [left] at balance remains
        rw [← remains] at balance
        simp [openPart] at balance ⊢
        omega
    | some flow =>
        rw [left] at balance remains
        cases stillOpen : openPart (some flow) with
        | none =>
            rw [← remains, stillOpen] at balance
            simp at balance ⊢
            omega
        | some kept =>
            rw [← remains, stillOpen] at balance
            simp at balance ⊢
            omega

/-- A gracefully closed connection, none of whose packets is the first payload of a direction that
already sent its FIN, is closed by FIN once. It is one flow that leaves nothing behind unless
packets of it follow the last FIN: these open another flow, which stays. -/
theorem gracefulTrace_closesOnce (captured : table.Captured packetLocal)
    (trace : GracefulTrace packetLocal key side table before lastFin after)
    (harmless : (flowCapture packetLocal).AllSteps
      (fun table event => ¬ ResetsFinOf key table event) table (before ++ lastFin :: after)) :
    ClosesOnce (after.any fun event => connectionOf event = some key) packetLocal key table
      (before ++ lastFin :: after) := by
  have consistent := captured.consistent
  have fits := (allSteps_connection_iff FitsEntry consistent trace.spared).mp trace.fits
  have keeps := (allSteps_connection_iff (fun entry event => ¬ ResetsEntry key entry event)
    consistent trace.spared).mp harmless
  rw [trace.absent] at fits keeps
  rw [closesOnce_iff consistent trace.absent trace.orderly trace.spared]
  exact connection_closes packetLocal table.streamBufferBytes consistent.buffered trace.orderly
    trace.firstFin trace.noneEarlier trace.closing trace.noneLater fits keeps

end Table

/-! ### The last ACK -/

instance decidableSpared (key : FlowKey) (table : FlowTable) (event : FlowEvent) :
    Decidable (Spared key table event) :=
  decidable_of_iff
    ((trackedAs event.packet).all (fun keyed =>
      flowOf (flowTableEvictIdle table event.now) key = flowOf table key ∧
        flowOf (afterEvictions table keyed.1 event.now) key =
          flowOf (evictStaleFlows table event.now) key) = true)
    (by cases tracked : trackedAs event.packet <;> simp [Spared, tracked])

instance decidableFitsBuffers (key : FlowKey) (table : FlowTable) (event : FlowEvent) :
    Decidable (FitsBuffers key table event) :=
  decidable_of_iff
    ((flowOf table key).all (fun flow =>
      (flow.tcp .aToB).unusable = false ∧ (flow.tcp .bToA).unusable = false) = true)
    (by
      unfold FitsBuffers
      cases flowOf table key with
      | none => simp
      | some flow =>
          have both : (∀ side, (flow.tcp side).unusable = false) ↔
              (flow.tcp .aToB).unusable = false ∧ (flow.tcp .bToA).unusable = false :=
            ⟨fun all => ⟨all _, all _⟩, fun pair side => by cases side <;> simp [pair]⟩
          simp [both])

def firstFin : FlowEvent := ⟨sampleSegment .aToB 100 0x11 [], 1⟩

def secondFin : FlowEvent := ⟨sampleSegment .bToA 500 0x11 [], 2⟩

/-- The ACK of the second FIN, which ends every ordinary close. -/
def lastAck : FlowEvent := ⟨sampleSegment .aToB 101 0x10 [], 3⟩

theorem orderlyClose (after : List FlowEvent) (trailing : after = [] ∨ after = [lastAck]) :
    GracefulTrace false sampleKey .bToA smallTable [firstFin] secondFin after := by
  rcases trailing with rfl | rfl
  all_goals
    exact
      { absent := by decide +kernel
        orderly := by unfold Orderly; decide +kernel
        firstFin := by decide +kernel
        noneEarlier := by decide +kernel
        closing := by decide +kernel
        noneLater := by
          intro event member other
          cases other <;> revert event <;> decide +kernel
        spared := by decide +kernel
        fits := by decide +kernel }

/-- No packet of an ordinary close resets a FIN. -/
theorem orderlyClose_harmless :
    (flowCapture false).AllSteps (fun table event => ¬ ResetsFinOf sampleKey table event) smallTable
      [firstFin, secondFin, lastAck] := by
  refine ⟨?_, ?_, ?_, trivial⟩
  all_goals
    intro resets
    obtain ⟨direction, flow, -, -, packetResets⟩ := resets
    exact absurd packetResets.2.2.1 (by decide)

theorem gracefulTrace_closesOnce_lastAck :
    ClosesOnce true false sampleKey smallTable [firstFin, secondFin, lastAck] :=
  gracefulTrace_closesOnce smallTable_captured (orderlyClose [lastAck] (Or.inr rfl))
    orderlyClose_harmless

/-- The ACK that ends an ordinary close finds its flow evicted and opens another, which stays. -/
theorem lastAck_leaves_flow :
    ¬ ∀ (table : FlowTable) (key : FlowKey) (side : FlowDirection) (before after : List FlowEvent)
        (lastFin : FlowEvent), table.Captured false →
      GracefulTrace false key side table before lastFin after →
      (∀ event ∈ after, connectionOf event = some key → bearsPayload event.packet = false) →
      ClosesOnce false false key table (before ++ lastFin :: after) := by
  intro always
  have closes := always smallTable sampleKey .bToA [firstFin] [lastAck] secondFin
    smallTable_captured (orderlyClose [lastAck] (Or.inr rfl)) (by decide +kernel)
  exact absurd closes.created (by decide +kernel)

end MiniSniffer
