import Mathlib.Tactic.Common

/-!
# Reading in pieces

A decoder reads one symbol after another and may stop at any of them.  A consumer is handed whole
pieces and may refuse to go on.  Neither may depend on how a sequence is cut into pieces.
-/

namespace Foundation

variable {σ α β τ κ : Type*}

/-- What a decoder makes of a symbol. -/
inductive Move (σ β τ : Type*) where
  | advance (next : σ) (delivered : List β)
  | stop (verdict : τ)

/-- What a decoder delivers of a sequence, and where it gets or why it stops. -/
def decode (step : σ → α → Move σ β τ) : σ → List α → List β × (σ ⊕ τ)
  | state, [] => ([], .inl state)
  | state, symbol :: rest =>
      match step state symbol with
      | .stop verdict => ([], .inr verdict)
      | .advance next delivered =>
          (delivered ++ (decode step next rest).1, (decode step next rest).2)

section Decoder

variable {step : σ → α → Move σ β τ} {state next : σ} {symbol : α} {rest : List α}

@[simp]
theorem decode_nil : decode step state [] = ([], .inl state) := rfl

theorem decode_cons_of_advance {delivered : List β}
    (moves : step state symbol = .advance next delivered) :
    decode step state (symbol :: rest) =
      (delivered ++ (decode step next rest).1, (decode step next rest).2) := by
  rw [decode, moves]

theorem decode_cons_of_stop {verdict : τ} (stops : step state symbol = .stop verdict) :
    decode step state (symbol :: rest) = ([], .inr verdict) := by
  rw [decode, stops]

/-- A decoder that has read a sequence goes on with what follows it. -/
theorem decode_append_of_inl {front : List α} {delivered : List β}
    (reads : decode step state front = (delivered, .inl next)) (back : List α) :
    decode step state (front ++ back) =
      (delivered ++ (decode step next back).1, (decode step next back).2) := by
  induction front generalizing state delivered with
  | nil =>
      cases reads
      rfl
  | cons symbol front ih =>
      rw [List.cons_append]
      cases moves : step state symbol with
      | stop verdict =>
          rw [decode_cons_of_stop moves] at reads
          cases reads
      | advance middle first =>
          rw [decode_cons_of_advance moves] at reads
          cases later : decode step middle front with
          | mk body reached =>
              rw [later] at reads
              cases reads
              rw [decode_cons_of_advance moves, ih later, List.append_assoc]

/-- A decoder that has stopped does not read what follows. -/
theorem decode_append_of_inr {front : List α} {delivered : List β} {verdict : τ}
    (reads : decode step state front = (delivered, .inr verdict)) (back : List α) :
    decode step state (front ++ back) = (delivered, .inr verdict) := by
  induction front generalizing state delivered with
  | nil => cases reads
  | cons symbol front ih =>
      rw [List.cons_append]
      cases moves : step state symbol with
      | stop other =>
          rw [decode_cons_of_stop moves] at reads ⊢
          exact reads
      | advance middle first =>
          rw [decode_cons_of_advance moves] at reads
          cases later : decode step middle front with
          | mk body reached =>
              rw [later] at reads
              cases reads
              rw [decode_cons_of_advance moves, ih later]

end Decoder

/-- A consumer takes a piece and tells whether it goes on. -/
abbrev Consumer (κ α : Type*) := κ → List α → κ × Bool

/-- It makes no difference to a consumer where a piece ends. -/
structure Consumer.Incremental (consume : Consumer κ α) : Prop where
  append : ∀ state front back, consume state (front ++ back) =
    if (consume state front).2 then consume (consume state front).1 back else consume state front

/-- The consumer without its empty pieces, which it may take for something. -/
def Consumer.sparing (consume : Consumer κ α) : Consumer κ α
  | state, [] => (state, true)
  | state, symbol :: piece => consume state (symbol :: piece)

namespace Consumer.Incremental

variable {consume : Consumer κ α} {state : κ} {front : List α}

theorem append_of_true (incremental : Incremental consume)
    (goesOn : (consume state front).2 = true) (back : List α) :
    consume state (front ++ back) = consume (consume state front).1 back := by
  rw [incremental.append, if_pos goesOn]

theorem append_of_false (incremental : Incremental consume)
    (refuses : (consume state front).2 = false) (back : List α) :
    consume state (front ++ back) = consume state front := by
  rw [incremental.append, if_neg (Bool.not_eq_true _ ▸ refuses)]

theorem sparing (incremental : Incremental consume) : Incremental consume.sparing where
  append state front back := by
    cases front with
    | nil => rfl
    | cons symbol front =>
        cases back with
        | nil =>
            rw [List.append_nil]
            change consume state (symbol :: front) =
              if (consume state (symbol :: front)).2 then
                ((consume state (symbol :: front)).1, true) else consume state (symbol :: front)
            split
            · rename_i goesOn
              rw [← goesOn]
            · rfl
        | cons next back => exact incremental.append state (symbol :: front) (next :: back)

end Consumer.Incremental

end Foundation
