import MiniSniffer.Capture.Summary

/-!
Contract: which flows a capture announces.

Owns the line that text output prints once a flow is classified. Between two announcements of one
connection its flow has left the table and was created again: over any run, a connection is
announced no more often than it is created. An announced flow has metadata.

Does not own the text of the line: see `Output.PacketText`.
-/

namespace MiniSniffer

open Foundation

/-! ### Counting -/

/-- The flow of a displayed packet is announced. -/
def announcementOf (key : FlowKey) (shown : Option DisplayedPacket) : Nat :=
  if (shown.bind DisplayedPacket.flowEvent).map FlowInfo.key = some key then 1 else 0

def announcements (idna : IdnaLookup) (config : AppConfig) (datalink : Datalink) (key : FlowKey)
    (state : CaptureState) (captured : CapturedPacket) : Nat :=
  announcementOf key ((captureLoop idna config datalink).output state captured)

/-- The packet belongs to the connection, and no flow of the connection is left when the lookup has
evicted what it evicts. -/
def creationIn (key : FlowKey) (flowTable : Option FlowTable) (packet : PacketInfo) (now : Nat) :
    Nat :=
  match flowTable with
  | none => 0
  | some table =>
      if (trackedAs packet).map Prod.fst = some key ∧
          flowOf (afterEvictions table key now) key = none then 1 else 0

def creations (config : AppConfig) (datalink : Datalink) (key : FlowKey) (state : CaptureState)
    (captured : CapturedPacket) : Nat :=
  if captureIsDone config state then 0
  else
    creationIn key state.flowTable (effectiveAt config datalink state captured).2 captured.seconds

/-- The connection has a flow that was not announced yet. -/
def unannouncedIn (key : FlowKey) (flowTable : Option FlowTable) : Nat :=
  match flowTable.bind fun table => flowOf table key with
  | none => 0
  | some flow => if flow.appEventPrinted then 0 else 1

section Flow

variable {idna : IdnaLookup} {config : AppConfig} {flow : FlowInfo} {direction : FlowDirection}
variable {packet : PacketInfo} {now : Nat}

/-- Only displaying a packet marks its flow as announced. -/
theorem visit_appEventPrinted (app : Option AppInfo) :
    (classifyLocals app (feedFlow config flow direction packet now)).flow.appEventPrinted =
      flow.appEventPrinted := by
  have updated : (flowUpdatePacket flow packet now direction).appEventPrinted =
      flow.appEventPrinted := by
    cases direction <;> rfl
  have decoded : (flowDecodeStreamApp (flowUpdatePacket flow packet now direction) direction
      packet).1.appEventPrinted = flow.appEventPrinted := by
    rw [← updated]
    exact flowDecodeStreamApp_frame FlowInfo.appEventPrinted
      (fun _ direction _ => by cases direction <;> rfl) fun _ _ => rfl
  have fed : (feedFlow config flow direction packet now).flow.appEventPrinted =
      flow.appEventPrinted := by
    rw [feedFlow_flow]
    split
    · exact decoded
    · exact updated
  rw [← fed]
  unfold classifyLocals
  split
  · rfl
  · split <;> rfl

/-- A flow is announced once it is classified and while it was not announced, and then counts as
announced. -/
theorem displayWithFlow_event (idna : IdnaLookup) (config : AppConfig) (direction : FlowDirection)
    (packet : PacketInfo) (now : Nat) (buffered : 0 < flow.streamBufferBytes) :
    let shown := displayWithFlow idna config flow direction packet now
    match shown.2.bind DisplayedPacket.flowEvent with
    | none => shown.1.appEventPrinted = flow.appEventPrinted
    | some announced =>
        announced.key = flow.key ∧ announced.appClassified = true ∧
          flow.appEventPrinted = false ∧ shown.1.appEventPrinted = true := by
  have kept := @visit_appEventPrinted config flow direction packet now
    (captureWithFlow config flow direction packet now 0).packetApp
  have same := (feedFlow_key config direction packet now buffered).1
  have classified := (classifyLocals_key
    (captureWithFlow config flow direction packet now 0).packetApp
    (feedFlow config flow direction packet now)).1
  have event : ((captureWithFlow config flow direction packet now 0).display config).flowEvent =
      if (captureWithFlow config flow direction packet now 0).announcesFlow config then
        some (classifyLocals (captureWithFlow config flow direction packet now 0).packetApp
          (feedFlow config flow direction packet now)).flow
      else none := rfl
  have announces : (captureWithFlow config flow direction packet now 0).announcesFlow config =
      (!config.jsonOutput &&
        (classifyLocals (captureWithFlow config flow direction packet now 0).packetApp
          (feedFlow config flow direction packet now)).flow.appClassified &&
        !(classifyLocals (captureWithFlow config flow direction packet now 0).packetApp
          (feedFlow config flow direction packet now)).flow.appEventPrinted) := rfl
  simp only [displayWithFlow]
  generalize captureWithFlow config flow direction packet now 0 = capture at *
  generalize (classifyLocals capture.packetApp (feedFlow config flow direction packet now)).flow =
    visited at *
  cases passes : filtersMatch idna config capture.filterContext with
  | false => exact kept
  | true =>
      simp only [Bool.not_true, Bool.false_eq_true, if_false, Option.bind_some, event]
      cases announced : capture.announcesFlow config with
      | false => exact kept
      | true =>
          rw [announces] at announced
          simp only [Bool.and_eq_true, Bool.not_eq_true'] at announced
          exact ⟨classified.trans same, announced.1.2, kept.symm.trans announced.2, rfl⟩

theorem announcementOf_displayWithFlow (idna : IdnaLookup) (config : AppConfig)
    (direction : FlowDirection) (packet : PacketInfo) (now : Nat)
    (buffered : 0 < flow.streamBufferBytes) (key : FlowKey) :
    let shown := displayWithFlow idna config flow direction packet now
    if flow.key = key then
      announcementOf key shown.2 + (if shown.1.appEventPrinted then 0 else 1) =
        if flow.appEventPrinted then 0 else 1
    else announcementOf key shown.2 = 0 := by
  intro shown
  have event := displayWithFlow_event idna config direction packet now buffered
  dsimp only at event
  unfold announcementOf
  cases announced : shown.2.bind DisplayedPacket.flowEvent with
  | none =>
      rw [announced] at event
      have same : shown.1.appEventPrinted = flow.appEventPrinted := event
      simp [same]
  | some flowEvent =>
      rw [announced] at event
      obtain ⟨keyed, -, before, after⟩ := event
      have printed : shown.1.appEventPrinted = true := after
      rw [before, printed, Option.map_some, keyed]
      split
      next same => simp [same]
      next foreign => simp [foreign]

end Flow

/-! ### Tables -/

section Table

variable {idna : IdnaLookup} {config : AppConfig} {table : FlowTable} {packet : PacketInfo}
variable {key other : FlowKey} {direction : FlowDirection} {now : Nat}

/-- A lookup leaves a flow of another connection as it is, or evicts it. -/
theorem flowOf_afterEvictions (now : Nat) (wellformed : table.Wellformed) (own key : FlowKey) :
    flowOf (afterEvictions table own now) key = none ∨
      flowOf (afterEvictions table own now) key = flowOf table key := by
  cases found : flowOf (afterEvictions table own now) key with
  | none => exact Or.inl rfl
  | some flow =>
      right
      have member := (afterEvictions_sublist table own now).subset (lookup_mem found)
      exact (wellformed.distinct.lookup_eq_some_iff.mpr ⟨member, lookup_key found⟩).symm

/-- The flows after a packet: its own, and what the lookup left of the others. -/
theorem displayPacket_flowOf (idna : IdnaLookup) (config : AppConfig) (now : Nat)
    (wellformed : table.Wellformed) (tracked : trackedAs packet = some (key, direction)) :
    let shown := displayWithFlow idna config (assignedFlow table key now) direction packet now
    ∃ next, displayPacket idna config (some table) packet now = (some next, shown.2) ∧
      flowOf next key = some shown.1 ∧
      ∀ other, other ≠ key → flowOf next other = flowOf (afterEvictions table key now) other := by
  intro shown
  obtain ⟨keyed, next, placed, displayed⟩ :=
    displayPacket_tracked idna config now wellformed tracked
  obtain ⟨looked, index, lookedWellformed, -, lookup, slot, assignedKey, -, -, others, -⟩ :=
    flowCapture_tracked false wellformed
      (show trackedAs (FlowEvent.mk packet now).packet = some (key, direction) from tracked)
  obtain ⟨same, sameIndex, -, -, sameLookup, -, -, writes⟩ :=
    flowTableGetOrCreate_place now wellformed tracked
  have lookedEq := lookup.symm.trans sameLookup
  simp only [Prod.mk.injEq, Option.some.injEq, and_true] at lookedEq
  obtain ⟨rfl, rfl⟩ := lookedEq
  have flows : next.flows = looked.flows.set index shown.1 := by
    rw [placed.flows_eq, writes _ keyed]
  have found : ∀ other, flowOf next other =
      if key = other then some shown.1 else flowOf looked other := by
    intro other
    rw [flowOf, flows, lookup_set lookedWellformed.distinct slot (keyed.trans assignedKey.symm),
      assignedKey]
    rfl
  refine ⟨next, displayed, ?_, ?_⟩
  · rw [found, if_pos rfl]
  · intro other foreign
    rw [found, if_neg (Ne.symm foreign)]
    exact others other foreign

theorem displayPacket_announcement (idna : IdnaLookup) (config : AppConfig)
    (flowTable : Option FlowTable) (packet : PacketInfo) (now : Nat) (key : FlowKey)
    (wellformed : ∀ table, flowTable = some table → table.Wellformed) :
    announcementOf key (displayPacket idna config flowTable packet now).2 +
        unannouncedIn key (displayPacket idna config flowTable packet now).1 ≤
      unannouncedIn key flowTable + creationIn key flowTable packet now := by
  have alone : announcementOf key (displayPacket idna config none packet now).2 = 0 := by
    unfold displayPacket
    dsimp only
    split <;> rfl
  cases flowTable with
  | none =>
      rw [alone, displayPacket_none]
      exact Nat.zero_le _
  | some table =>
      cases tracked : trackedAs packet with
      | none =>
          rw [displayPacket_untracked idna config (some table) tracked]
          dsimp only
          rw [alone, Nat.zero_add]
          exact Nat.le_add_right _ _
      | some keyed =>
          obtain ⟨own, direction⟩ := keyed
          have sound := wellformed table rfl
          have buffered := sound.assigned_buffered own now
          obtain ⟨next, displayed, ownFlow, others⟩ :=
            displayPacket_flowOf idna config now sound tracked
          have assignedKey := (displayPacket_tracked idna config now sound tracked).1
          have keptKey := (displayWithFlow_key idna config direction packet now buffered).1
          rw [displayed]
          have paid := @announcementOf_displayWithFlow (assignedFlow table own now) idna config
            direction packet now buffered key
          rw [keptKey.symm.trans assignedKey] at paid
          by_cases same : own = key
          · subst same
            have held : unannouncedIn own (some next) = if (displayWithFlow idna config
                (assignedFlow table own now) direction packet now).1.appEventPrinted then 0
                  else 1 := by
              simp only [unannouncedIn, Option.bind_some, ownFlow]
            rw [if_pos rfl] at paid
            rw [held, paid]
            cases found : flowOf (afterEvictions table own now) own with
            | none =>
                have created : creationIn own (some table) packet now = 1 := by
                  simp [creationIn, tracked, found]
                rw [created]
                split <;> omega
            | some flow =>
                rw [assignedFlow_of_found found]
                have before : flowOf table own = some flow := by
                  rcases flowOf_afterEvictions now sound own own with gone | stays
                  · rw [found] at gone
                    contradiction
                  · rw [← stays, found]
                simp only [unannouncedIn, Option.bind_some, before]
                exact Nat.le_add_right _ _
          · rw [if_neg same] at paid
            rw [paid, Nat.zero_add]
            have left : unannouncedIn key (some next) ≤ unannouncedIn key (some table) := by
              simp only [unannouncedIn, Option.bind_some, others key (Ne.symm same)]
              rcases flowOf_afterEvictions now sound own key with gone | stays
              · rw [gone]
                exact Nat.zero_le _
              · rw [stays]
            exact left.trans (Nat.le_add_right _ _)

end Table

/-! ### Runs -/

section Runs

variable {idna : IdnaLookup} {config : AppConfig} {datalink : Datalink} {key : FlowKey}
variable {initial state : CaptureState} {captured : CapturedPacket}

theorem captureLoop_output_running (running : captureIsDone config state = false) :
    (captureLoop idna config datalink).output state captured =
      (displayPacket idna config state.flowTable (effectiveAt config datalink state captured).2
        captured.seconds).2 := by
  simp only [Machine.output, captureLoop, capturePass, running, Bool.false_eq_true, if_false]
  rw [← effectiveAt_eq]
  generalize effectiveAt config datalink state captured = effective
  simp only [displayPacket]
  split <;> rfl

/-- An announcement is paid for by a flow that was not announced yet, or by the creation of one. -/
theorem announcements_paid
    (wellformed : ∀ table, state.flowTable = some table → table.Wellformed) :
    announcements idna config datalink key state captured +
        unannouncedIn key ((captureLoop idna config datalink).next state captured).flowTable ≤
      unannouncedIn key state.flowTable + creations config datalink key state captured := by
  unfold announcements creations
  cases done : captureIsDone config state with
  | true =>
      have same : (captureLoop idna config datalink).step state captured = (state, none) := by
        simp [captureLoop, capturePass, done]
      simp [Machine.next, Machine.output, same, announcementOf]
  | false =>
      rw [captureLoop_output_running done, (capturePass_running done).2.1]
      exact displayPacket_announcement idna config state.flowTable _ captured.seconds key wellformed

/-- The flows of a capture are those of an initialised table. -/
def CaptureState.FlowsWellformed (state : CaptureState) : Prop :=
  ∀ table, state.flowTable = some table → table.Wellformed

theorem CaptureState.FlowsWellformed.next (wellformed : state.FlowsWellformed) :
    ((captureLoop idna config datalink).next state captured).FlowsWellformed :=
  capturePass_wellformed idna config datalink captured wellformed

theorem captureInit_flowsWellformed (started : captureInit config = some initial) :
    initial.FlowsWellformed :=
  captureInit_wellformed started

/-- A displayed packet announces a classified flow, in text output. -/
def DisplayedPacket.AnnouncesClassified (config : AppConfig) (displayed : DisplayedPacket) : Prop :=
  ∀ flow ∈ displayed.flowEvent, flow.appClassified = true ∧ config.jsonOutput = false

theorem displayed_announcesClassified :
    ∀ displayed ∈ (captureLoop idna config datalink).output state captured,
      displayed.AnnouncesClassified config := by
  intro displayed shown flow announced
  obtain ⟨rfl, -⟩ := capturePass_displays shown
  have event : flow ∈ (if DecodedCapture.announcesFlow config (decodeCapture config state.flowTable
      (effectiveAt config datalink state captured).2 captured.seconds).2 then
        (decodeCapture config state.flowTable (effectiveAt config datalink state captured).2
          captured.seconds).2.slot.map fun slot => slot.2.flow else none) := announced
  split at event
  next announces =>
    obtain ⟨slot, found, rfl⟩ := Option.map_eq_some_iff.mp event
    rw [DecodedCapture.announcesFlow, found] at announces
    simp only [Bool.and_eq_true, Bool.not_eq_true'] at announces
    exact ⟨announces.1.2, announces.1.1⟩
  next => contradiction

/-- From any state that a capture reaches, a connection is announced at most once more than its
flows are created, and not even that once its flow was announced. -/
theorem flow_announced_once (idna : IdnaLookup) (datalink : Datalink)
    (started : captureInit config = some initial) (past packets : List CapturedPacket)
    (key : FlowKey) :
    let loop := captureLoop idna config datalink
    let state := loop.run initial past
    loop.tally (announcements idna config datalink key) state packets ≤
        unannouncedIn key state.flowTable +
          loop.tally (creations config datalink key) state packets ∧
      ∀ shown ∈ loop.outputs state packets, ∀ displayed ∈ shown,
        displayed.AnnouncesClassified config := by
  intro loop state
  have kept : ∀ (state : CaptureState) captured, state.FlowsWellformed →
      (loop.next state captured).FlowsWellformed := fun _ _ wellformed => wellformed.next
  have reached : state.FlowsWellformed :=
    Machine.run_preserves kept (captureInit_flowsWellformed started) past
  have pays : ∀ (state : CaptureState) captured, state.FlowsWellformed →
      announcements idna config datalink key state captured +
          unannouncedIn key (loop.next state captured).flowTable ≤
        unannouncedIn key state.flowTable + creations config datalink key state captured :=
    fun _ _ wellformed => announcements_paid wellformed
  have paid := @Machine.tally_potential _ _ _ loop CaptureState.FlowsWellformed
    (announcements idna config datalink key) (creations config datalink key)
    (fun state => unannouncedIn key state.flowTable) kept pays state reached packets
  have classified : ∀ (state : CaptureState) captured, state.FlowsWellformed →
      ∀ displayed ∈ loop.output state captured, displayed.AnnouncesClassified config :=
    fun _ _ _ => displayed_announcesClassified
  exact ⟨(Nat.le_add_right _ _).trans paid,
    Machine.forall_mem_outputs kept classified reached packets⟩

/-- The connection of the sample requests. -/
def sampleRequestKey : FlowKey := { sampleKey with bPort := 80 }

/-- A request in two segments, and the same request once more in one: its flow is announced by the
segment that completes it and not again. -/
theorem flow_announced_once_sampleSplitRequest :
    let loop := captureLoop none sampleStreamConfig .en10mb
    let later := sampleSplitRequest.drop 1 ++ sampleWholeRequest
    let state := loop.run sampleStreamState (sampleSplitRequest.take 1)
    loop.tally (announcements none sampleStreamConfig .en10mb sampleRequestKey) state later = 1 ∧
      loop.tally (announcements none sampleStreamConfig .en10mb sampleRequestKey) state later ≤
        unannouncedIn sampleRequestKey state.flowTable +
          loop.tally (creations sampleStreamConfig .en10mb sampleRequestKey) state later := by
  refine ⟨?_, (flow_announced_once none .en10mb (show captureInit sampleStreamConfig =
    some sampleStreamState from rfl) (sampleSplitRequest.take 1) _ sampleRequestKey).1⟩
  decide +kernel

end Runs

end MiniSniffer
