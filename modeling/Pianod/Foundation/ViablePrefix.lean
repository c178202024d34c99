import Mathlib.Data.List.Basic

/-!
# Viable prefixes

A recognizer reads items one at a time and stops when it cannot read one.  If whatever it has read
can be completed, then it stops at the first item that no accepted list has there.
-/

namespace Foundation

/-- A deterministic recognizer. -/
structure Recognizer (σ α : Type*) where
  /-- The state after a symbol, if it may come. -/
  read : σ → α → Option σ
  /-- Whether the input may end here. -/
  accepts : σ → Prop

namespace Recognizer

variable {σ α : Type*} (recognizer : Recognizer σ α)

/-- The state after a list of items. -/
def arrive : σ → List α → Option σ
  | state, [] => some state
  | state, item :: items => (recognizer.read state item).bind fun next => arrive next items

/-- The number of items that are read before one cannot be. -/
def progress : σ → List α → Nat
  | _, [] => 0
  | state, item :: items =>
      match recognizer.read state item with
      | none => 0
      | some next => progress next items + 1

/-- A list is accepted from a state. -/
def Accepts (state : σ) (items : List α) : Prop :=
  ∃ final, recognizer.arrive state items = some final ∧ recognizer.accepts final

/-- A list is accepted or can be continued to one that is. -/
def Extensible (state : σ) (items : List α) : Prop :=
  ∃ more, recognizer.Accepts state (items ++ more)

/-- Whatever was read, something can follow it that is accepted. -/
def Productive (state : σ) : Prop :=
  ∀ items next, recognizer.arrive state items = some next → ∃ more, recognizer.Accepts next more

variable {recognizer} {state : σ}

theorem arrive_append (front back : List α) :
    recognizer.arrive state (front ++ back) =
      (recognizer.arrive state front).bind fun middle => recognizer.arrive middle back := by
  induction front generalizing state with
  | nil => rfl
  | cons item front ih =>
      rw [List.cons_append, arrive, arrive]
      cases recognizer.read state item with
      | none => rfl
      | some next => exact ih

/-- What can be read can be completed, and nothing else. -/
theorem Productive.extensible_iff (productive : recognizer.Productive state) (items : List α) :
    recognizer.Extensible state items ↔ ∃ next, recognizer.arrive state items = some next := by
  constructor
  · rintro ⟨more, final, arrives, -⟩
    rw [arrive_append] at arrives
    obtain ⟨next, arrives, -⟩ := Option.bind_eq_some_iff.mp arrives
    exact ⟨next, arrives⟩
  · rintro ⟨next, arrives⟩
    obtain ⟨more, final, onward, accepts⟩ := productive items next arrives
    refine ⟨more, final, ?_, accepts⟩
    rw [arrive_append, arrives]
    exact onward

/-- The items up to the one that cannot be read are read, and no more. -/
theorem arrive_take_progress {items : List α} (stops : recognizer.arrive state items = none) :
    recognizer.progress state items < items.length ∧
      (∃ next, recognizer.arrive state (items.take (recognizer.progress state items)) = some next) ∧
      recognizer.arrive state (items.take (recognizer.progress state items + 1)) = none := by
  induction items generalizing state with
  | nil => cases stops
  | cons item items ih =>
      rw [arrive] at stops
      rw [progress]
      cases read : recognizer.read state item with
      | none =>
          refine ⟨Nat.succ_pos _, ⟨state, rfl⟩, ?_⟩
          rw [List.take_succ_cons, arrive, read]
          rfl
      | some next =>
          rw [read] at stops
          obtain ⟨inside, ⟨last, arrives⟩, stuck⟩ := ih stops
          refine ⟨Nat.succ_lt_succ inside, ⟨last, ?_⟩, ?_⟩
          · rw [List.take_succ_cons, arrive, read]
            exact arrives
          · rw [List.take_succ_cons, arrive, read]
            exact stuck

/-- A productive recognizer that stops does so at the first item that cannot be completed. -/
theorem Productive.progress_exact (productive : recognizer.Productive state) {items : List α}
    (stops : recognizer.arrive state items = none) :
    recognizer.progress state items < items.length ∧
      recognizer.Extensible state (items.take (recognizer.progress state items)) ∧
      ¬recognizer.Extensible state (items.take (recognizer.progress state items + 1)) := by
  obtain ⟨inside, viable, stuck⟩ := arrive_take_progress stops
  refine ⟨inside, (productive.extensible_iff _).mpr viable, fun extensible => ?_⟩
  obtain ⟨next, arrives⟩ := (productive.extensible_iff _).mp extensible
  rw [stuck] at arrives
  cases arrives

/-- Reading stays in a closed set of states. -/
theorem closed_arrive {closed : σ → Prop} {items : List α} {final : σ}
    (reads : ∀ state item next, closed state → recognizer.read state item = some next → closed next)
    (start : closed state) (arrives : recognizer.arrive state items = some final) :
    closed final := by
  induction items generalizing state with
  | nil =>
      cases arrives
      exact start
  | cons item items ih =>
      obtain ⟨next, read, onward⟩ := Option.bind_eq_some_iff.mp arrives
      exact ih (reads state item next start read) onward

/-- A closed set of states that can all accept is productive. -/
theorem productive_of_closed {closed : σ → Prop}
    (reads : ∀ state item next, closed state → recognizer.read state item = some next → closed next)
    (possible : ∀ state, closed state → ∃ more, recognizer.Accepts state more)
    (start : closed state) : recognizer.Productive state :=
  fun _ next arrives => possible next (closed_arrive reads start arrives)

end Recognizer

end Foundation
