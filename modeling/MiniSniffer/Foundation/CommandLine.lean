import Mathlib.Data.List.Basic
import MiniSniffer.Foundation.LastValue

/-!
Contract: command lines of options, of which some take the next argument as their value.

Owns the loop over the arguments; the rule that what every option keeps, reading all the arguments
keeps; and the options that stand among the arguments, with the rule that a slot which options fill
ends with what the last of them gives.

Does not own any option.
-/

namespace MiniSniffer.Foundation

variable {Argument State Message : Type}

/-- What an option does: a flag changes the state, a valued option reads the next argument. -/
inductive CommandOption (Argument State Message : Type) where
  | flag (store : State → State)
  | valued (missing : Message) (read : Argument → State → Except Message State)

/-- Where reading stops: behind the last argument, at the option that stops it, or at an error. -/
inductive CommandEnd (State Message : Type) where
  | finished (state : State)
  | stopped (state : State)
  | failed (message : Message)

structure CommandLine (Argument State Message : Type) where
  options : List (Argument × CommandOption Argument State Message)
  stop : Argument
  /-- Arguments that are no values. -/
  isOption : Argument → Bool
  unknown : Message

namespace CommandLine

section Reading

variable [DecidableEq Argument]

def read (line : CommandLine Argument State Message) :
    List Argument → State → CommandEnd State Message
  | [], state => .finished state
  | name :: rest, state =>
      if name = line.stop then .stopped state
      else
        match line.options.lookup name with
        | none => .failed line.unknown
        | some (.flag store) => line.read rest (store state)
        | some (.valued missing read) =>
            match rest with
            | [] => .failed missing
            | value :: later =>
                if line.isOption value then .failed missing
                else
                  match read value state with
                  | .error message => .failed message
                  | .ok next => line.read later next

end Reading

end CommandLine

/-! ### Invariants -/

/-- Whatever the option does to a state of the invariant, the invariant is kept. -/
def CommandOption.Keeps (invariant : State → Prop) : CommandOption Argument State Message → Prop
  | .flag store => ∀ state, invariant state → invariant (store state)
  | .valued _ read => ∀ value state next, invariant state → read value state = .ok next →
      invariant next

/-- The state in which reading ended, if it did not fail, is of the invariant. -/
def CommandEnd.Holds (invariant : State → Prop) : CommandEnd State Message → Prop
  | .finished state => invariant state
  | .stopped state => invariant state
  | .failed _ => True

namespace CommandLine

variable [DecidableEq Argument] {line : CommandLine Argument State Message}
variable {arguments : List Argument} {state : State} {invariant : State → Prop}

theorem keeps_of_lookup {option : CommandOption Argument State Message} {name : Argument}
    (kept : ∀ entry ∈ line.options, entry.2.Keeps invariant)
    (found : line.options.lookup name = some option) : option.Keeps invariant := by
  obtain ⟨front, rest, same, -⟩ := List.lookup_eq_some_iff.mp found
  have member : (name, option) ∈ line.options := by
    rw [same]
    exact List.mem_append_right _ List.mem_cons_self
  exact kept _ member

/-- Reading keeps what every option keeps. -/
theorem read_holds (kept : ∀ entry ∈ line.options, entry.2.Keeps invariant)
    (initial : invariant state) : (line.read arguments state).Holds invariant := by
  fun_induction line.read arguments state with
  | case1 state => exact initial
  | case2 state rest => exact initial
  | case3 name rest state other unknown => exact trivial
  | case4 name rest state other store found inductionHypothesis =>
      exact inductionHypothesis (keeps_of_lookup kept found state initial)
  | case5 name state other missing read found => exact trivial
  | case6 name state other missing read found value later noValue => exact trivial
  | case7 name state other missing read found value later isValue message refused => exact trivial
  | case8 name state other missing read found value later isValue next taken inductionHypothesis =>
      exact inductionHypothesis (keeps_of_lookup kept found value state next initial taken)

/-- Reading stops early only at the option that stops it. -/
theorem mem_of_stopped {last : State} (stopped : line.read arguments state = .stopped last) :
    line.stop ∈ arguments := by
  fun_induction line.read arguments state with
  | case1 state => contradiction
  | case2 state rest => exact List.mem_cons_self
  | case3 name rest state other unknown => contradiction
  | case4 name rest state other store found inductionHypothesis =>
      exact List.mem_cons_of_mem name (inductionHypothesis stopped)
  | case5 name state other missing read found => contradiction
  | case6 name state other missing read found value later noValue => contradiction
  | case7 name state other missing read found value later isValue message refused => contradiction
  | case8 name state other missing read found value later isValue next taken inductionHypothesis =>
      exact List.mem_cons_of_mem name (List.mem_cons_of_mem value (inductionHypothesis stopped))

end CommandLine

/-! ### Slots -/

/-- The option fills the slot with what it is given, or leaves it. -/
def CommandOption.Stores {Value : Type} (view : State → Option Value)
    (gives : Option Argument → Option Value) : CommandOption Argument State Message → Prop
  | .flag store => ∀ state, view (store state) = (gives none).or (view state)
  | .valued _ read => ∀ value state next, read value state = .ok next →
      view next = (gives (some value)).or (view state)

namespace CommandLine

variable [DecidableEq Argument] {Value : Type} {line : CommandLine Argument State Message}
variable {arguments more : List Argument} {state final : State} {view : State → Option Value}
variable {gives : Argument × Option Argument → Option Value}

/-- The options among the arguments that are read, in order, each with its value. -/
def occurrences (line : CommandLine Argument State Message) :
    List Argument → List (Argument × Option Argument)
  | [] => []
  | name :: rest =>
      if name = line.stop then []
      else
        match line.options.lookup name with
        | none => []
        | some (.flag _) => (name, none) :: line.occurrences rest
        | some (.valued _ _) =>
            match rest with
            | [] => []
            | value :: later => (name, some value) :: line.occurrences later

theorem mem_options_of_lookup {option : CommandOption Argument State Message} {name : Argument}
    (found : line.options.lookup name = some option) : (name, option) ∈ line.options := by
  obtain ⟨front, rest, same, -⟩ := List.lookup_eq_some_iff.mp found
  rw [same]
  exact List.mem_append_right _ List.mem_cons_self

/-- A slot ends with what the last option gives that fills it, or else as it was. -/
theorem read_lastValue
    (stored : ∀ entry ∈ line.options, entry.2.Stores view fun value => gives (entry.1, value))
    (finished : line.read arguments state = .finished final) :
    view final = (lastValue gives (line.occurrences arguments)).or (view state) := by
  fun_induction line.read arguments state with
  | case1 state =>
      obtain rfl := CommandEnd.finished.inj finished
      rfl
  | case2 state rest => contradiction
  | case3 name rest state other unknown => contradiction
  | case4 name rest state other store found inductionHypothesis =>
      have stores := stored _ (mem_options_of_lookup found) state
      rw [occurrences.eq_def]
      simp only [if_neg other, found]
      rw [lastValue_cons, inductionHypothesis finished, stores, Option.or_assoc]
  | case5 name state other missing read found => contradiction
  | case6 name state other missing read found value later noValue => contradiction
  | case7 name state other missing read found value later isValue message refused => contradiction
  | case8 name state other missing read found value later isValue next taken inductionHypothesis =>
      have stores := stored _ (mem_options_of_lookup found) value state next taken
      rw [occurrences.eq_def]
      simp only [if_neg other, found]
      rw [lastValue_cons, inductionHypothesis finished, stores, Option.or_assoc]

/-- Where values cannot be mistaken for it, reading passes by no option that stops it. -/
theorem stop_notMem_of_finished (told : line.isOption line.stop = true)
    (finished : line.read arguments state = .finished final) : line.stop ∉ arguments := by
  fun_induction line.read arguments state with
  | case1 state => exact List.not_mem_nil
  | case2 state rest => contradiction
  | case3 name rest state other unknown => contradiction
  | case4 name rest state other store found inductionHypothesis =>
      rw [List.mem_cons, not_or]
      exact ⟨Ne.symm other, inductionHypothesis finished⟩
  | case5 name state other missing read found => contradiction
  | case6 name state other missing read found value later noValue => contradiction
  | case7 name state other missing read found value later isValue message refused => contradiction
  | case8 name state other missing read found value later isValue next taken inductionHypothesis =>
      have value : line.stop ≠ value := fun same => isValue (same ▸ told)
      rw [List.mem_cons, List.mem_cons, not_or, not_or]
      exact ⟨Ne.symm other, value, inductionHypothesis finished⟩

/-- Reading keeps what the options among the arguments keep. -/
theorem read_holds_occurrences {invariant : State → Prop}
    (kept : ∀ occurrence ∈ line.occurrences arguments, ∀ option,
      (occurrence.1, option) ∈ line.options → option.Keeps invariant)
    (initial : invariant state) : (line.read arguments state).Holds invariant := by
  fun_induction line.read arguments state with
  | case1 state => exact initial
  | case2 state rest => exact initial
  | case3 name rest state other unknown => exact trivial
  | case4 name rest state other store found inductionHypothesis =>
      rw [occurrences.eq_def] at kept
      simp only [if_neg other, found, List.forall_mem_cons] at kept
      exact inductionHypothesis kept.2 (kept.1 _ (mem_options_of_lookup found) state initial)
  | case5 name state other missing read found => exact trivial
  | case6 name state other missing read found value later noValue => exact trivial
  | case7 name state other missing read found value later isValue message refused => exact trivial
  | case8 name state other missing read found value later isValue next taken inductionHypothesis =>
      rw [occurrences.eq_def] at kept
      simp only [if_neg other, found, List.forall_mem_cons] at kept
      exact inductionHypothesis kept.2
        (kept.1 _ (mem_options_of_lookup found) value state next initial taken)

/-- Arguments behind others are read in the state that those lead to. -/
theorem read_append (finished : line.read arguments state = .finished final) :
    line.read (arguments ++ more) state = line.read more final := by
  fun_induction line.read arguments state with
  | case1 state =>
      obtain rfl := CommandEnd.finished.inj finished
      rfl
  | case2 state rest => contradiction
  | case3 name rest state other unknown => contradiction
  | case4 name rest state other store found inductionHypothesis =>
      rw [List.cons_append, read, if_neg other, found]
      exact inductionHypothesis finished
  | case5 name state other missing read found => contradiction
  | case6 name state other missing read found value later noValue => contradiction
  | case7 name state other missing read found value later isValue message refused => contradiction
  | case8 name state other missing reads found value later isValue next taken inductionHypothesis =>
      rw [List.cons_append, List.cons_append, read, if_neg other, found]
      simp only [if_neg isValue, taken]
      exact inductionHypothesis finished

end CommandLine

end MiniSniffer.Foundation
