import Mathlib.Data.List.Basic
import Mathlib.Tactic.Common

/-!
# Hashing block by block

A text is absorbed in blocks of one size by a function of the state and a block.  A program that
gets the text in pieces keeps the bytes that do not fill a block; where the pieces are cut does not
matter.
-/

namespace Foundation

variable {α σ : Type*}

/-- The full blocks of a text. -/
def blocks (size : ℕ) (text : List α) : List (List α) :=
  (List.range (text.length / size)).map fun place => (text.drop (place * size)).take size

theorem blocks_cons {size : ℕ} (positive : 0 < size) {block : List α} (full : block.length = size)
    (rest : List α) : blocks size (block ++ rest) = block :: blocks size rest := by
  have count : (block ++ rest).length / size = rest.length / size + 1 := by
    rw [List.length_append, full, Nat.add_div_left _ positive]
  have first : ((block ++ rest).drop (0 * size)).take size = block := by
    rw [Nat.zero_mul, List.drop_zero, ← full, List.take_left]
  have others : ∀ place, ((block ++ rest).drop ((place + 1) * size)).take size =
      (rest.drop (place * size)).take size := by
    intro place
    rw [Nat.succ_mul, Nat.add_comm, ← full, ← List.drop_drop, List.drop_left]
  rw [blocks, count, List.range_succ_eq_map, List.map_cons, List.map_map, first, blocks]
  exact congrArg _ (List.map_congr_left fun place _ => others place)

theorem blocks_flatten {size : ℕ} (positive : 0 < size) (parts : List (List α))
    (full : ∀ block ∈ parts, block.length = size) : blocks size parts.flatten = parts := by
  induction parts with
  | nil => simp [blocks]
  | cons block parts induction =>
      rw [List.flatten_cons, blocks_cons positive (full block List.mem_cons_self),
        induction fun other member => full other (List.mem_cons_of_mem _ member)]

/-- A state after a text, of which some bytes do not fill a block yet. -/
def Absorbed (compress : σ → List α → σ) (size : ℕ) (start : σ) (text : List α) (state : σ)
    (pending : List α) : Prop :=
  ∃ parts : List (List α), parts.flatten ++ pending = text ∧
    (∀ block ∈ parts, block.length = size) ∧ state = parts.foldl compress start

namespace Absorbed

variable {compress : σ → List α → σ} {size : ℕ} {start state : σ} {text pending : List α}

theorem nil : Absorbed compress size start [] start [] :=
  ⟨[], rfl, fun _ member => absurd member List.not_mem_nil, rfl⟩

/-- More bytes are kept. -/
theorem keep (absorbed : Absorbed compress size start text state pending) (more : List α) :
    Absorbed compress size start (text ++ more) state (pending ++ more) := by
  obtain ⟨parts, rfl, full, rfl⟩ := absorbed
  exact ⟨parts, (List.append_assoc ..).symm, full, rfl⟩

/-- A full block is absorbed. -/
theorem absorb (absorbed : Absorbed compress size start text state pending)
    (full : pending.length = size) :
    Absorbed compress size start text (compress state pending) [] := by
  obtain ⟨parts, rfl, others, rfl⟩ := absorbed
  refine ⟨parts ++ [pending], ?_, ?_, ?_⟩
  · rw [List.flatten_append, List.append_nil]
    simp
  · intro block member
    rcases List.mem_append.mp member with member | member
    · exact others block member
    · rw [List.mem_singleton.mp member, full]
  · rw [List.foldl_append]
    rfl

theorem length_mod (absorbed : Absorbed compress size start text state pending)
    (short : pending.length < size) : text.length % size = pending.length := by
  obtain ⟨parts, rfl, full, -⟩ := absorbed
  have length : parts.flatten.length = parts.length * size := by
    induction parts with
    | nil => rw [List.flatten_nil, List.length_nil, List.length_nil, Nat.zero_mul]
    | cons block parts induction =>
        rw [List.flatten_cons, List.length_append, full block List.mem_cons_self,
          induction fun other member => full other (List.mem_cons_of_mem _ member),
          List.length_cons, Nat.succ_mul, Nat.add_comm]
  rw [List.length_append, length, Nat.mul_add_mod_of_lt short]

/-- Where nothing is left over, the blocks of the text were absorbed in order. -/
theorem state_eq (absorbed : Absorbed compress size start text state []) (positive : 0 < size) :
    state = (blocks size text).foldl compress start := by
  obtain ⟨parts, rfl, full, rfl⟩ := absorbed
  rw [List.append_nil, blocks_flatten positive parts full]

end Absorbed

end Foundation
