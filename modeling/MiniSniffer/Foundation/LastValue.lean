import Mathlib.Data.List.Basic

/-!
Contract: fields that later items of a list overwrite.

Owns the last value that a list of items gives, and that a fold whose steps store the value of
each item that has one ends with the last of them.

Does not own what an item is.
-/

namespace MiniSniffer.Foundation

variable {Item State Value : Type}

/-- The value of the last item that has one. -/
def lastValue (value : Item → Option Value) (items : List Item) : Option Value :=
  (items.filterMap value).getLast?

section

variable {value : Item → Option Value}

@[simp] theorem lastValue_nil : lastValue value [] = none := rfl

theorem lastValue_cons (item : Item) (items : List Item) :
    lastValue value (item :: items) = (lastValue value items).or (value item) := by
  rw [lastValue, lastValue, List.filterMap_cons]
  cases value item with
  | none => exact (Option.or_none).symm
  | some kept =>
      rw [List.getLast?_cons]
      cases (items.filterMap value).getLast? <;> rfl

theorem lastValue_concat (items : List Item) (item : Item) :
    lastValue value (items ++ [item]) = (value item).or (lastValue value items) := by
  rw [lastValue, lastValue, List.filterMap_append, List.getLast?_append]
  congr 1
  rw [List.filterMap_cons]
  cases value item <;> rfl

theorem lastValue_eq_some {items : List Item} {last : Value}
    (found : lastValue value items = some last) : ∃ item ∈ items, value item = some last :=
  List.mem_filterMap.mp (List.mem_of_getLast? found)

/-- Each step stores the value of its item, or leaves the field. -/
theorem foldl_lastValue {field : State → Value} {step : State → Item → State}
    (stores : ∀ state item, field (step state item) = (value item).getD (field state))
    (items : List Item) (state : State) :
    field (items.foldl step state) = (lastValue value items).getD (field state) := by
  induction items generalizing state with
  | nil => rfl
  | cons item items inductionHypothesis =>
      rw [List.foldl_cons, inductionHypothesis, stores, lastValue_cons]
      cases lastValue value items <;> rfl

/-- A field that no step touches. -/
theorem foldl_unchanged {field : State → Value} {step : State → Item → State}
    (keeps : ∀ state item, field (step state item) = field state)
    (items : List Item) (state : State) : field (items.foldl step state) = field state := by
  induction items generalizing state with
  | nil => rfl
  | cons item items inductionHypothesis =>
      rw [List.foldl_cons, inductionHypothesis, keeps]

end

end MiniSniffer.Foundation
