import Mathlib.Data.List.Nodup
import Mathlib.Logic.Function.Basic
import Mathlib.Tactic.Common
import Pianod.Foundation.FallibleRun

/-!
# Linked lists in memory

A list is followed from its head through the links of its nodes.  Its cells, the addresses with what
is at them, say all that a program can find out about it; memory elsewhere may change.
-/

namespace Foundation

variable {α ν : Type*} (link : ν → Option α)

/-- The cells that are met from a head on, up to a node without a link. -/
def Linked (memory : α → Option ν) : Option α → List (α × ν) → Prop
  | head, [] => head = none
  | head, cell :: rest =>
      head = some cell.1 ∧ memory cell.1 = some cell.2 ∧ Linked memory (link cell.2) rest

namespace Linked

variable {link} {memory other : α → Option ν} {head : Option α} {cells front : List (α × ν)}
  {cell last : α × ν} {address : α} {node : ν}

theorem present (linked : Linked link memory head cells) (member : cell ∈ cells) :
    memory cell.1 = some cell.2 := by
  induction cells generalizing head with
  | nil => exact absurd member List.not_mem_nil
  | cons first rest induction =>
      obtain ⟨-, here, linked⟩ := linked
      rcases List.mem_cons.mp member with rfl | member
      · exact here
      · exact induction linked member

theorem head_eq (linked : Linked link memory head cells) : head = cells.head?.map Prod.fst := by
  cases cells with
  | nil => exact linked
  | cons first rest => exact linked.1

/-- Only the memory of the cells matters. -/
theorem frame (linked : Linked link memory head cells)
    (same : ∀ cell ∈ cells, other cell.1 = memory cell.1) : Linked link other head cells := by
  induction cells generalizing head with
  | nil => exact linked
  | cons first rest induction =>
      obtain ⟨starts, here, linked⟩ := linked
      refine ⟨starts, (same first List.mem_cons_self).trans here, ?_⟩
      exact induction linked fun cell member => same cell (List.mem_cons_of_mem _ member)

variable [DecidableEq α]

/-- Writing outside of the list. -/
theorem update (linked : Linked link memory head cells) (outside : address ∉ cells.map Prod.fst)
    (written : Option ν) : Linked link (Function.update memory address written) head cells := by
  apply linked.frame
  intro cell member
  apply Function.update_of_ne
  rintro rfl
  exact outside (List.mem_map_of_mem member)

/-- A node that links to the head is put before it. -/
theorem push (linked : Linked link memory head cells) (outside : address ∉ cells.map Prod.fst)
    (links : link node = head) :
    Linked link (Function.update memory address (some node)) (some address)
      ((address, node) :: cells) := by
  refine ⟨rfl, Function.update_self .., ?_⟩
  rw [links]
  exact linked.update outside _

/-- The last node is linked to a new one. -/
theorem snoc {relinked : ν} (linked : Linked link memory head (front ++ [last]))
    (distinct : ((front ++ [last]).map Prod.fst).Nodup)
    (outside : address ∉ (front ++ [last]).map Prod.fst) (links : link relinked = some address)
    (ends : link node = none) (written : memory address = some node) :
    Linked link (Function.update memory last.1 (some relinked)) head
      (front ++ [(last.1, relinked), (address, node)]) := by
  induction front generalizing head with
  | nil =>
      obtain ⟨starts, -, -⟩ := linked
      have apart : address ≠ last.1 := fun same => outside (by simp [same])
      refine ⟨starts, Function.update_self .., links, ?_, ends⟩
      rw [Function.update_of_ne apart, written]
  | cons first rest induction =>
      obtain ⟨starts, here, linked⟩ := linked
      obtain ⟨fresh, distinct⟩ := List.nodup_cons.mp distinct
      have apart : first.1 ≠ last.1 := fun same => fresh (by simp [same])
      refine ⟨starts, (Function.update_of_ne apart ..).trans here, ?_⟩
      apply induction linked distinct
      exact fun member => outside (List.mem_cons_of_mem _ member)

end Linked

/-! ## Freeing a list -/

section Freeing

variable [DecidableEq α]

/-- Free every node from a head on.  The fuel bounds the number of nodes, and `none` stands for a
loop that has not ended. -/
def freeNodes : ℕ → (α → Option ν) → Option α →
    Except Fault (Option ((α → Option ν) × List ν))
  | _, memory, none => .ok (some (memory, []))
  | 0, _, some _ => .ok none
  | fuel + 1, memory, some address =>
      match memory address with
      | none => .error .useAfterFree
      | some node =>
          (freeNodes fuel (Function.update memory address none) (link node)).map
            fun rest => rest.map fun freed => (freed.1, node :: freed.2)

variable {link} {memory : α → Option ν} {head : Option α} {cells : List (α × ν)} {fuel : ℕ}

/-- The nodes of a list are freed in order, each of them once, and nothing else is. -/
theorem Linked.freeNodes_eq (linked : Linked link memory head cells)
    (distinct : (cells.map Prod.fst).Nodup) (enough : cells.length ≤ fuel) :
    freeNodes link fuel memory head =
      .ok (some (fun address => if address ∈ cells.map Prod.fst then none else memory address,
        cells.map Prod.snd)) := by
  induction cells generalizing fuel memory head with
  | nil =>
      obtain rfl : head = none := linked
      cases fuel with
      | zero => simp [freeNodes]
      | succ fuel => simp [freeNodes]
  | cons first rest induction =>
      obtain ⟨rfl, here, linked⟩ := linked
      obtain ⟨fresh, distinct⟩ := List.nodup_cons.mp distinct
      cases fuel with
      | zero => exact absurd enough (Nat.not_succ_le_zero _)
      | succ fuel =>
          have frees := induction (linked.update fresh none) distinct
            (Nat.le_of_succ_le_succ enough)
          have left : ∀ address, (if address ∈ rest.map Prod.fst then none
              else Function.update memory first.1 none address) =
              if address ∈ (first :: rest).map Prod.fst then none else memory address := by
            intro address
            by_cases same : address = first.1
            · simp [same]
            · rw [Function.update_of_ne same]
              simp only [List.map_cons, List.mem_cons, same, false_or]
          rw [freeNodes, here]
          simp only [frees, left]
          rfl

end Freeing

end Foundation
