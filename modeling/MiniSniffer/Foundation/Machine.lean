import Mathlib.Data.List.ReduceOption

/-!
Contract: runs of deterministic machines.

A machine takes an event in a state and answers with the next state and an
output. This module owns runs over event lists, the predicate that a condition
holds at every step of a run, and the rules runs are proved by: an invariant
holds of every reachable state, related machines answer alike, and a run of
selected events answers as the run of all events does.

Does not own any concrete machine.
-/

namespace MiniSniffer.Foundation

universe u v w

/-- A deterministic machine: one event gives the next state and an output. -/
structure Machine (State : Type u) (Event : Type v) (Output : Type w) where
  step : State → Event → State × Output

namespace Machine

variable {State : Type u} {Event : Type v} {Output : Type w}
variable (machine : Machine State Event Output)

def next (state : State) (event : Event) : State :=
  (machine.step state event).1

def output (state : State) (event : Event) : Output :=
  (machine.step state event).2

/-- The state after a list of events. -/
def run : State → List Event → State
  | state, [] => state
  | state, event :: events => run (machine.next state event) events

/-- The outputs of a run, one for each event. -/
def outputs : State → List Event → List Output
  | _, [] => []
  | state, event :: events =>
      machine.output state event :: outputs (machine.next state event) events

/-- `condition` holds of every step of the run: of the state before it and its event. -/
def AllSteps (condition : State → Event → Prop) : State → List Event → Prop
  | _, [] => True
  | state, event :: events =>
      condition state event ∧ AllSteps condition (machine.next state event) events

/-- The sum over a run of what each step weighs. -/
def tally (weight : State → Event → Nat) : State → List Event → Nat
  | _, [] => 0
  | state, event :: events =>
      weight state event + tally weight (machine.next state event) events

/-- The outputs of a run at the events of interest. -/
def selectedOutputs (select : Event → Bool) : State → List Event → List Output
  | _, [] => []
  | state, event :: events =>
      if select event then
        machine.output state event :: selectedOutputs select (machine.next state event) events
      else selectedOutputs select (machine.next state event) events

instance decidableAllSteps (condition : State → Event → Prop)
    [∀ state event, Decidable (condition state event)] :
    ∀ state events, Decidable (machine.AllSteps condition state events)
  | _, [] => isTrue trivial
  | state, event :: events =>
      have := decidableAllSteps condition (machine.next state event) events
      inferInstanceAs (Decidable (_ ∧ _))

variable {machine}

@[simp] theorem run_nil (state : State) : machine.run state [] = state := rfl

@[simp] theorem run_cons (state : State) (event : Event) (events : List Event) :
    machine.run state (event :: events) = machine.run (machine.next state event) events := rfl

@[simp] theorem outputs_nil (state : State) : machine.outputs state [] = [] := rfl

@[simp] theorem outputs_cons (state : State) (event : Event) (events : List Event) :
    machine.outputs state (event :: events) =
      machine.output state event :: machine.outputs (machine.next state event) events := rfl

@[simp] theorem allSteps_nil (condition : State → Event → Prop) (state : State) :
    machine.AllSteps condition state [] := trivial

@[simp] theorem allSteps_cons {condition : State → Event → Prop} {state : State} {event : Event}
    {events : List Event} :
    machine.AllSteps condition state (event :: events) ↔
      condition state event ∧ machine.AllSteps condition (machine.next state event) events :=
  Iff.rfl

theorem run_append (state : State) (first second : List Event) :
    machine.run state (first ++ second) = machine.run (machine.run state first) second := by
  induction first generalizing state with
  | nil => rfl
  | cons event events inductionHypothesis => exact inductionHypothesis (machine.next state event)

theorem allSteps_append {condition : State → Event → Prop} {state : State}
    {first second : List Event} :
    machine.AllSteps condition state (first ++ second) ↔
      machine.AllSteps condition state first ∧
        machine.AllSteps condition (machine.run state first) second := by
  induction first generalizing state with
  | nil => simp
  | cons event events inductionHypothesis =>
      simp only [List.cons_append, allSteps_cons, run_cons, inductionHypothesis, and_assoc]

@[simp] theorem tally_nil (weight : State → Event → Nat) (state : State) :
    machine.tally weight state [] = 0 := rfl

@[simp] theorem tally_cons (weight : State → Event → Nat) (state : State) (event : Event)
    (events : List Event) :
    machine.tally weight state (event :: events) =
      weight state event + machine.tally weight (machine.next state event) events := rfl

theorem tally_append (weight : State → Event → Nat) (state : State) (first second : List Event) :
    machine.tally weight state (first ++ second) =
      machine.tally weight state first +
        machine.tally weight (machine.run state first) second := by
  induction first generalizing state with
  | nil => exact (Nat.zero_add _).symm
  | cons event events inductionHypothesis =>
      rw [List.cons_append, tally_cons, tally_cons, run_cons, inductionHypothesis, Nat.add_assoc]

theorem AllSteps.mono {weaker stronger : State → Event → Prop}
    (implies : ∀ state event, stronger state event → weaker state event) {state : State}
    {events : List Event} (steps : machine.AllSteps stronger state events) :
    machine.AllSteps weaker state events := by
  induction events generalizing state with
  | nil => trivial
  | cons event events inductionHypothesis =>
      exact ⟨implies _ _ steps.1, inductionHypothesis steps.2⟩

theorem AllSteps.and {first second : State → Event → Prop} {state : State}
    {events : List Event} (firstSteps : machine.AllSteps first state events)
    (secondSteps : machine.AllSteps second state events) :
    machine.AllSteps (fun state event => first state event ∧ second state event) state events := by
  induction events generalizing state with
  | nil => trivial
  | cons event events inductionHypothesis =>
      exact ⟨⟨firstSteps.1, secondSteps.1⟩, inductionHypothesis firstSteps.2 secondSteps.2⟩

/-- What every event meets, every step meets. -/
theorem AllSteps.of_forall {condition : Event → Prop} {events : List Event}
    (each : ∀ event ∈ events, condition event) (state : State) :
    machine.AllSteps (fun _ event => condition event) state events := by
  induction events generalizing state with
  | nil => trivial
  | cons event events inductionHypothesis =>
      rw [List.forall_mem_cons] at each
      exact ⟨each.1, inductionHypothesis each.2 _⟩

/-- A condition on every step is a condition on every place a run can be cut at. -/
theorem allSteps_iff_forall_split {condition : State → Event → Prop} {state : State}
    {events : List Event} :
    machine.AllSteps condition state events ↔
      ∀ past event rest, events = past ++ event :: rest →
        condition (machine.run state past) event := by
  constructor
  · intro steps past event rest split
    subst split
    exact (allSteps_append.mp steps).2.1
  · intro everywhere
    induction events generalizing state with
    | nil => trivial
    | cons event events inductionHypothesis =>
        refine ⟨everywhere [] event events rfl, inductionHypothesis ?_⟩
        intro past other rest split
        exact everywhere (event :: past) other rest (by rw [split]; rfl)

/-- The machine whose state is the events so far. -/
def history (Event : Type*) : Machine (List Event) Event Unit where
  step past event := (past ++ [event], ())

@[simp] theorem history_run (past events : List Event) :
    (history Event).run past events = past ++ events := by
  induction events generalizing past with
  | nil => exact (List.append_nil past).symm
  | cons event events inductionHypothesis =>
      rw [run_cons, inductionHypothesis, List.append_cons]
      rfl

/-- An invariant kept by every step that meets `condition` holds after every run whose steps
all meet it. -/
theorem run_invariant {invariant : State → Prop} {condition : State → Event → Prop}
    (kept : ∀ state event, invariant state → condition state event →
      invariant (machine.next state event))
    {state : State} {events : List Event} (start : invariant state)
    (steps : machine.AllSteps condition state events) :
    invariant (machine.run state events) := by
  induction events generalizing state with
  | nil => exact start
  | cons event events inductionHypothesis =>
      exact inductionHypothesis (kept state event start steps.1) steps.2

/-- An invariant that every step keeps holds after every run. -/
theorem run_preserves {invariant : State → Prop}
    (kept : ∀ state event, invariant state → invariant (machine.next state event))
    {state : State} (start : invariant state) (events : List Event) :
    invariant (machine.run state events) := by
  have unconditional : machine.AllSteps (fun _ _ => True) state events :=
    AllSteps.of_forall (fun _ _ => trivial) state
  exact run_invariant (fun state event holds _ => kept state event holds) start unconditional

/-- Conditions that agree wherever an invariant holds hold of the same runs. -/
theorem allSteps_congr {invariant : State → Prop} {first second : State → Event → Prop}
    (kept : ∀ state event, invariant state → invariant (machine.next state event))
    (agree : ∀ state event, invariant state → (first state event ↔ second state event))
    {state : State} (start : invariant state) (events : List Event) :
    machine.AllSteps first state events ↔ machine.AllSteps second state events := by
  induction events generalizing state with
  | nil => exact Iff.rfl
  | cons event events inductionHypothesis =>
      rw [allSteps_cons, allSteps_cons, agree state event start,
        inductionHypothesis (kept state event start)]

/-- Machines whose steps keep a relation and answer alike answer alike along every run, and end
related. -/
theorem related_runs {Specified : Type*} {specification : Machine Specified Event Output}
    {related : Specified → State → Prop}
    (step : ∀ specified state event, related specified state →
      machine.output state event = specification.output specified event ∧
        related (specification.next specified event) (machine.next state event))
    {specified : Specified} {state : State} (start : related specified state)
    (events : List Event) :
    machine.outputs state events = specification.outputs specified events ∧
      related (specification.run specified events) (machine.run state events) := by
  induction events generalizing specified state with
  | nil => exact ⟨rfl, start⟩
  | cons event events inductionHypothesis =>
      obtain ⟨sameOutput, stillRelated⟩ := step specified state event start
      obtain ⟨sameOutputs, finallyRelated⟩ := inductionHypothesis stillRelated
      exact ⟨by rw [outputs_cons, outputs_cons, sameOutput, sameOutputs], finallyRelated⟩

/-- A run of all events and one of the selected events answer alike, where a relation that may read
the events still to come is kept by selected events in both runs, which answer the same, and by the
others in the run of all events, which then answers nothing. -/
theorem reduceOption_outputs_filter {machine : Machine State Event (Option Output)}
    {selects : Event → Bool} {condition : State → Event → Prop}
    {related : List Event → State → State → Prop}
    (selected : ∀ event events part whole, related (event :: events) part whole →
      condition whole event → selects event = true →
      machine.output part event = machine.output whole event ∧
        related events (machine.next part event) (machine.next whole event))
    (skipped : ∀ event events part whole, related (event :: events) part whole →
      condition whole event → selects event = false →
      machine.output whole event = none ∧ related events part (machine.next whole event))
    {part whole : State} {events : List Event} (start : related events part whole)
    (steps : machine.AllSteps condition whole events) :
    (machine.outputs whole events).reduceOption =
      (machine.outputs part (events.filter selects)).reduceOption := by
  induction events generalizing part whole with
  | nil => rfl
  | cons event events inductionHypothesis =>
      cases chosen : selects event with
      | true =>
          have step := selected event events part whole start steps.1 chosen
          have rest := inductionHypothesis step.2 steps.2
          rw [List.filter_cons_of_pos chosen, outputs_cons, outputs_cons, step.1]
          cases machine.output whole event with
          | none => rw [List.reduceOption_cons_of_none, List.reduceOption_cons_of_none, rest]
          | some shown => rw [List.reduceOption_cons_of_some, List.reduceOption_cons_of_some, rest]
      | false =>
          have step := skipped event events part whole start steps.1 chosen
          rw [List.filter_cons_of_neg (by simp [chosen]), outputs_cons, step.1,
            List.reduceOption_cons_of_none]
          exact inductionHypothesis step.2 steps.2

/-- What every step of an invariant state answers, every answer of a run is. -/
theorem forall_mem_outputs {invariant : State → Prop} {allowed : Output → Prop}
    (kept : ∀ state event, invariant state → invariant (machine.next state event))
    (answers : ∀ state event, invariant state → allowed (machine.output state event))
    {state : State} (start : invariant state) (events : List Event) :
    ∀ output ∈ machine.outputs state events, allowed output := by
  induction events generalizing state with
  | nil => simp
  | cons event events inductionHypothesis =>
      rw [outputs_cons, List.forall_mem_cons]
      exact ⟨answers state event start, inductionHypothesis (kept state event start)⟩

/-- Where a potential pays each step's cost but for its credit, the credits of a run and the
potential it starts with pay all its costs. -/
theorem tally_potential {invariant : State → Prop} {cost credit : State → Event → Nat}
    {potential : State → Nat}
    (kept : ∀ state event, invariant state → invariant (machine.next state event))
    (pays : ∀ state event, invariant state →
      cost state event + potential (machine.next state event) ≤
        potential state + credit state event)
    {state : State} (start : invariant state) (events : List Event) :
    machine.tally cost state events + potential (machine.run state events) ≤
      potential state + machine.tally credit state events := by
  induction events generalizing state with
  | nil => exact Nat.le_of_eq (Nat.add_comm _ _)
  | cons event events inductionHypothesis =>
      have first := pays state event start
      have rest := inductionHypothesis (kept state event start)
      rw [tally_cons, tally_cons, run_cons]
      omega

/-- Machines whose steps keep a relation end related, whatever they answer. -/
theorem run_related {Other Answer : Type*} {other : Machine Other Event Answer}
    {related : Other → State → Prop}
    (kept : ∀ mine theirs event, related theirs mine →
      related (other.next theirs event) (machine.next mine event))
    {theirs : Other} {mine : State} (start : related theirs mine) (events : List Event) :
    related (other.run theirs events) (machine.run mine events) := by
  induction events generalizing theirs mine with
  | nil => exact start
  | cons event events inductionHypothesis =>
      exact inductionHypothesis (kept mine theirs event start)

/-- Where every step is one of a front machine and then one of a back machine on its answer, a run
is a run of the back machine on the front machine's answers. -/
theorem outputs_pipeline {Front Back Passed Fed : Type*} {front : Machine Front Event Passed}
    {back : Machine Back Fed Output} {feed : Event → Passed → Fed}
    {related : Front → Back → State → Prop}
    (step : ∀ first second state event, related first second state →
      machine.output state event = back.output second (feed event (front.output first event)) ∧
        related (front.next first event)
          (back.next second (feed event (front.output first event))) (machine.next state event))
    {first : Front} {second : Back} {state : State} (start : related first second state)
    (events : List Event) :
    machine.outputs state events =
      back.outputs second (List.zipWith feed events (front.outputs first events)) := by
  induction events generalizing first second state with
  | nil => rfl
  | cons event events inductionHypothesis =>
      obtain ⟨answer, follows⟩ := step first second state event start
      rw [outputs_cons, outputs_cons, List.zipWith_cons_cons, outputs_cons, answer,
        inductionHypothesis follows]

/-- A list up to a quota, where there is one. -/
def withinQuota {Item : Type*} (quota : Option Nat) (items : List Item) : List Item :=
  match quota with
  | none => items
  | some count => items.take count

theorem withinQuota_sublist {Item : Type*} (quota : Option Nat) (items : List Item) :
    (withinQuota quota items).Sublist items := by
  cases quota with
  | none => exact List.Sublist.refl items
  | some count => exact List.take_sublist count items

/-- A machine that stops at a quota of answers shows, of all that a second machine sees of the same
events, what it selects, up to its quota. -/
theorem reduceOption_outputs_select {Observed Seen Shown : Type*}
    {machine : Machine State Event (Option Output)} {observer : Machine Observed Event Seen}
    {view : Output → Shown} {selects : Seen → Bool} {shows : Seen → Shown}
    {quota : State → Option Nat} {related : Observed → State → Prop}
    (spent : ∀ state event, quota state = some 0 →
      machine.output state event = none ∧ machine.next state event = state)
    (running : ∀ observed state event, related observed state → quota state ≠ some 0 →
      (machine.output state event).map view =
          (if selects (observer.output observed event) then
            some (shows (observer.output observed event)) else none) ∧
        related (observer.next observed event) (machine.next state event) ∧
        quota (machine.next state event) =
          if (machine.output state event).isSome then (quota state).map (· - 1) else quota state)
    {observed : Observed} {state : State} (start : related observed state) (events : List Event) :
    (machine.outputs state events).reduceOption.map view =
      withinQuota (quota state)
        (((observer.outputs observed events).filter selects).map shows) := by
  induction events generalizing observed state with
  | nil => cases quota state <;> simp [withinQuota]
  | cons event events inductionHypothesis =>
      by_cases full : quota state = some 0
      · have silent : ∀ events, (machine.outputs state events).reduceOption = [] := by
          intro events
          induction events with
          | nil => rfl
          | cons event events nothing =>
              rw [outputs_cons, (spent state event full).1, (spent state event full).2,
                List.reduceOption_cons_of_none]
              exact nothing
        rw [silent, full]
        rfl
      · obtain ⟨shown, follows, left⟩ := running observed state event start full
        have rest := inductionHypothesis follows
        rw [outputs_cons, outputs_cons]
        cases selected : selects (observer.output observed event) with
        | false =>
            rw [selected] at shown
            have hidden := Option.map_eq_none_iff.mp shown
            rw [hidden, Option.isSome_none] at left
            rw [hidden, List.reduceOption_cons_of_none, rest, left,
              List.filter_cons_of_neg (by simp [selected])]
            rfl
        | true =>
            rw [selected, if_pos rfl] at shown
            obtain ⟨output, answered, viewed⟩ := Option.map_eq_some_iff.mp shown
            rw [answered, Option.isSome_some, if_pos rfl] at left
            rw [answered, List.reduceOption_cons_of_some, List.map_cons, rest, left, viewed,
              List.filter_cons_of_pos selected, List.map_cons]
            cases room : quota state with
            | none => rfl
            | some count =>
                cases count with
                | zero => exact absurd room full
                | succ count => rfl

/-- The states some list of events leads to. -/
def Reachable (machine : Machine State Event Output) (start state : State) : Prop :=
  ∃ events, machine.run start events = state

theorem Reachable.refl (start : State) : machine.Reachable start start := ⟨[], rfl⟩

theorem Reachable.next {start state : State} (reached : machine.Reachable start state)
    (event : Event) : machine.Reachable start (machine.next state event) := by
  obtain ⟨events, rfl⟩ := reached
  exact ⟨events ++ [event], by rw [run_append]; rfl⟩

/-- An invariant that every step keeps holds of every reachable state. -/
theorem Reachable.invariant {invariant : State → Prop}
    (kept : ∀ state event, invariant state → invariant (machine.next state event))
    {start state : State} (initial : invariant start) (reached : machine.Reachable start state) :
    invariant state := by
  obtain ⟨events, rfl⟩ := reached
  exact run_preserves kept initial events

end Machine

end MiniSniffer.Foundation
