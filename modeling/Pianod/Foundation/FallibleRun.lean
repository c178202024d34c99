import Mathlib.Tactic.Common

/-!
# Guarded runs of a fallible machine

A machine reads labels one at a time and either moves on or stops at a fault.  A run is guarded
when each of its labels is admitted in the state where it is read.  The rules below turn facts
about single steps into facts about complete runs.
-/

namespace Foundation

/-- The ways in which a C program leaves its defined behaviour. -/
inductive Fault where
  | assertion (expression : String)
  | nullDereference
  | useAfterFree
  | outOfBounds
  /-- The result of an operation on `int` does not fit. -/
  | signedOverflow
deriving DecidableEq, Repr

namespace FallibleRun

universe u

variable {σ α ε : Type*}

/-- A mapped result is there when the result is. -/
theorem map_ok_iff {β : Type*} {result : Except ε α} {change : α → β} {value : β} :
    result.map change = .ok value ↔ ∃ found, result = .ok found ∧ change found = value := by
  cases result with
  | error fault => exact ⟨fun same => (nomatch same), fun ⟨_, same, _⟩ => (nomatch same)⟩
  | ok found =>
      refine ⟨fun same => ⟨found, rfl, Except.ok.inj same⟩, ?_⟩
      rintro ⟨_, ⟨⟩, rfl⟩
      rfl

/-- Two computations in a row succeed when both do. -/
theorem bind_ok_iff {ρ τ : Type u} {result : Except ε ρ} {next : ρ → Except ε τ} {value : τ} :
    (result >>= next) = .ok value ↔ ∃ found, result = .ok found ∧ next found = .ok value := by
  cases result with
  | error fault => exact ⟨fun same => (nomatch same), fun ⟨_, same, _⟩ => (nomatch same)⟩
  | ok found =>
      refine ⟨fun same => ⟨found, rfl, same⟩, ?_⟩
      rintro ⟨_, ⟨⟩, same⟩
      exact same

/-- Execute a list of labels, stopping at the first fault. -/
def run (step : σ → α → Except ε σ) : σ → List α → Except ε σ
  | state, [] => .ok state
  | state, label :: labels =>
      match step state label with
      | .error fault => .error fault
      | .ok next => run step next labels

/-- Every label is admitted in the state where the run reads it. -/
def Guarded (step : σ → α → Except ε σ) (admits : σ → α → Prop) : σ → List α → Prop
  | _, [] => True
  | state, label :: labels =>
      admits state label ∧
        ∀ next, step state label = .ok next → Guarded step admits next labels

@[simp]
theorem run_nil (step : σ → α → Except ε σ) (state : σ) : run step state [] = .ok state := rfl

theorem run_cons_of_ok {step : σ → α → Except ε σ} {state next : σ} {label : α}
    (move : step state label = .ok next) (labels : List α) :
    run step state (label :: labels) = run step next labels := by
  simp [run, move]

theorem run_cons_of_error {step : σ → α → Except ε σ} {state : σ} {label : α} {fault : ε}
    (stop : step state label = .error fault) (labels : List α) :
    run step state (label :: labels) = .error fault := by
  simp [run, stop]

/-- A completed run exposes its first step. -/
theorem run_cons_ok_iff {step : σ → α → Except ε σ} {state final : σ} {label : α}
    {labels : List α} :
    run step state (label :: labels) = .ok final ↔
      ∃ next, step state label = .ok next ∧ run step next labels = .ok final := by
  cases move : step state label with
  | error fault => simp [run, move]
  | ok next => simp [run, move]

/-- A completed run splits after any prefix of its labels. -/
theorem run_append_ok_iff {step : σ → α → Except ε σ} {state final : σ}
    {front back : List α} :
    run step state (front ++ back) = .ok final ↔
      ∃ middle, run step state front = .ok middle ∧ run step middle back = .ok final := by
  induction front generalizing state with
  | nil => simp
  | cons label front ih =>
      simp only [List.cons_append, run_cons_ok_iff, ih]
      constructor
      · rintro ⟨next, move, middle, left, right⟩
        exact ⟨middle, ⟨next, move, left⟩, right⟩
      · rintro ⟨middle, ⟨next, move, left⟩, right⟩
        exact ⟨next, move, middle, left, right⟩

/-- A run is simulated if each of its steps is. -/
theorem run_simulates {τ : Type*} (image : σ → τ) {step : σ → α → Except ε σ}
    {other : τ → α → Except ε τ} {state final : σ} {labels : List α}
    (follows : ∀ label ∈ labels, ∀ before after, step before label = .ok after →
      other (image before) label = .ok (image after))
    (completed : run step state labels = .ok final) :
    run other (image state) labels = .ok (image final) := by
  induction labels generalizing state with
  | nil =>
      cases completed
      rfl
  | cons label labels ih =>
      obtain ⟨next, move, rest⟩ := run_cons_ok_iff.mp completed
      rw [run_cons_of_ok (follows label List.mem_cons_self state next move)]
      exact ih (fun later member => follows later (List.mem_cons_of_mem _ member)) rest

/-- An admitted first step extends a guarded run. -/
theorem Guarded.cons {step : σ → α → Except ε σ} {admits : σ → α → Prop} {state next : σ}
    {label : α} {labels : List α} (admitted : admits state label)
    (move : step state label = .ok next) (later : Guarded step admits next labels) :
    Guarded step admits state (label :: labels) := by
  refine ⟨admitted, fun other other_move => ?_⟩
  obtain rfl := Except.ok.inj (move.symm.trans other_move)
  exact later

/-- The labels before any point of a guarded run form a guarded run. -/
theorem Guarded.of_append {step : σ → α → Except ε σ} {admits : σ → α → Prop} {state : σ}
    {front back : List α} (guarded : Guarded step admits state (front ++ back)) :
    Guarded step admits state front := by
  induction front generalizing state with
  | nil => trivial
  | cons label front ih =>
      obtain ⟨admitted, later⟩ := guarded
      exact ⟨admitted, fun next move => ih (later next move)⟩

/-- The labels after any point of a guarded run form a guarded run. -/
theorem Guarded.after_append {step : σ → α → Except ε σ} {admits : σ → α → Prop}
    {state middle : σ} {front back : List α} (guarded : Guarded step admits state (front ++ back))
    (reached : run step state front = .ok middle) : Guarded step admits middle back := by
  induction front generalizing state with
  | nil =>
      obtain rfl : state = middle := by simpa using reached
      exact guarded
  | cons label front ih =>
      obtain ⟨next, move, rest⟩ := run_cons_ok_iff.mp reached
      exact ih (guarded.2 next move) rest

/-- A property kept by every admitted step holds wherever a guarded run arrives. -/
theorem Guarded.invariant {step : σ → α → Except ε σ} {admits : σ → α → Prop}
    (holds : σ → Prop)
    (keeps : ∀ state label next,
      holds state → admits state label → step state label = .ok next → holds next)
    {state final : σ} {labels : List α} (initially : holds state)
    (guarded : Guarded step admits state labels) (arrives : run step state labels = .ok final) :
    holds final := by
  induction labels generalizing state with
  | nil =>
      obtain rfl : state = final := by simpa using arrives
      exact initially
  | cons label labels ih =>
      obtain ⟨next, move, rest⟩ := run_cons_ok_iff.mp arrives
      exact ih (keeps state label next initially guarded.1 move) (guarded.2 next move) rest

/-- What is known of a fallible result: a property of the state it arrives in, or of the fault it
stops at. -/
def Outcome (holds : σ → Prop) (allowed : ε → Prop) : Except ε σ → Prop
  | .ok state => holds state
  | .error fault => allowed fault

@[simp]
theorem outcome_ok {holds : σ → Prop} {allowed : ε → Prop} {state : σ} :
    Outcome holds allowed (.ok state) ↔ holds state := Iff.rfl

@[simp]
theorem outcome_error {holds : σ → Prop} {allowed : ε → Prop} {fault : ε} :
    Outcome holds allowed (.error fault : Except ε σ) ↔ allowed fault := Iff.rfl

/-- What is known of a result may be weakened. -/
theorem Outcome.imp {holds also : σ → Prop} {allowed : ε → Prop} {result : Except ε σ}
    (known : Outcome holds allowed result) (weaker : ∀ state, holds state → also state) :
    Outcome also allowed result := by
  cases result with
  | error fault => exact known
  | ok state => exact weaker state known

/-- What is known of the first of two computations is available to the second. -/
theorem Outcome.bind {ρ τ : Type u} {holds : ρ → Prop} {afterwards : τ → Prop}
    {allowed : ε → Prop} {result : Except ε ρ} {next : ρ → Except ε τ}
    (known : Outcome holds allowed result)
    (onward : ∀ state, holds state → Outcome afterwards allowed (next state)) :
    Outcome afterwards allowed (result >>= next) := by
  cases result with
  | error fault => exact known
  | ok state => exact onward state known

/-- What is known of a mapped result. -/
theorem Outcome.map {β : Type*} {holds : σ → Prop} {afterwards : β → Prop} {allowed : ε → Prop}
    {result : Except ε σ} {change : σ → β} (known : Outcome holds allowed result)
    (onward : ∀ state, holds state → afterwards (change state)) :
    Outcome afterwards allowed (result.map change) := by
  cases result with
  | error fault => exact known
  | ok state => exact onward state known

/-- An invariant kept by every admitted step that does not stop at an allowed fault holds of every
guarded run in the same sense. -/
theorem Guarded.outcome {step : σ → α → Except ε σ} {admits : σ → α → Prop} (holds : σ → Prop)
    (allowed : ε → Prop)
    (keeps : ∀ state label, holds state → admits state label →
      Outcome holds allowed (step state label))
    {state : σ} {labels : List α} (initially : holds state)
    (guarded : Guarded step admits state labels) :
    Outcome holds allowed (run step state labels) := by
  induction labels generalizing state with
  | nil => exact initially
  | cons label labels ih =>
      have first := keeps state label initially guarded.1
      cases move : step state label with
      | error fault =>
          rw [run_cons_of_error move]
          rw [move] at first
          exact first
      | ok next =>
          rw [run_cons_of_ok move]
          rw [move] at first
          exact ih first (guarded.2 next move)

/-- Every run is guarded by a guard that admits everything. -/
theorem guarded_of_forall {step : σ → α → Except ε σ} {admits : σ → α → Prop}
    (always : ∀ state label, admits state label) (state : σ) (labels : List α) :
    Guarded step admits state labels := by
  induction labels generalizing state with
  | nil => trivial
  | cons label labels ih => exact ⟨always state label, fun next _ => ih next⟩

/-- A run is guarded by what holds of each of its labels in any state. -/
theorem guarded_of_mem {step : σ → α → Except ε σ} {admits : α → Prop} {labels : List α}
    (always : ∀ label ∈ labels, admits label) (state : σ) :
    Guarded step (fun _ label => admits label) state labels := by
  induction labels generalizing state with
  | nil => trivial
  | cons label labels ih =>
      exact ⟨always label List.mem_cons_self, fun next _ =>
        ih (fun other member => always other (List.mem_cons_of_mem label member)) next⟩

/-- An invariant kept by every step that does not stop at an allowed fault holds of every run in
the same sense. -/
theorem run_outcome {step : σ → α → Except ε σ} (holds : σ → Prop) (allowed : ε → Prop)
    (keeps : ∀ state label, holds state → Outcome holds allowed (step state label))
    {state : σ} (initially : holds state) (labels : List α) :
    Outcome holds allowed (run step state labels) :=
  have free : Guarded step (fun _ _ => True) state labels :=
    guarded_of_forall (fun _ _ => trivial) state labels
  free.outcome holds allowed (fun state label holding _ => keeps state label holding) initially

end FallibleRun

end Foundation
