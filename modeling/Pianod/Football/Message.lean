import Mathlib.Algebra.GroupWithZero.Nat
import Pianod.Foundation.FallibleRun
import Pianod.Foundation.Text

/-!
# Message queues

Output waits in a linked list of message blocks.  The front block may have been sent in part; the
offset of its unsent rest belongs to the queue, not to the block.  What a queue still holds is the
concatenation of its blocks less the part consumed.
-/

namespace Football

open Foundation

/-- A list of message blocks with the number of bytes consumed from the front one. -/
structure IOQueue where
  first : List Text
  /-- The block the queue's tail pointer refers to. -/
  last : Option Text
  consumed : Nat
deriving DecidableEq, Repr

namespace IOQueue

/-- A queue that was never used. -/
def empty : IOQueue := ⟨[], none, 0⟩

def queueEmpty (queue : IOQueue) : Bool := queue.first.isEmpty

/-- Add a message block at the end. -/
def queueAdd (queue : IOQueue) (message : Text) : Except Fault IOQueue :=
  match queue.first, queue.last with
  | [], none => .ok { queue with first := [message], last := some message }
  | [], some _ => .error (.assertion "!queue->last")
  | _ :: _, none => .error (.assertion "queue->last")
  | first, some _ => .ok { queue with first := first ++ [message], last := some message }

/-- Consume bytes of the front block; a finished block is freed. -/
def queueConsume (queue : IOQueue) (consume : Nat) : Except Fault IOQueue :=
  match queue.first with
  | [] =>
      if consume = 0 then .error .nullDereference
      else .error (.assertion "consume == 0 || q->first")
  | front :: rest =>
      if front.length < queue.consumed + consume then
        .error (.assertion "q->consumed <= q->first->message->length")
      else if front.length ≤ queue.consumed + consume then
        .ok { first := rest, last := if rest.isEmpty then none else queue.last, consumed := 0 }
      else .ok { queue with consumed := queue.consumed + consume }

/-- Trash everything; the consumed offset stays as it is. -/
def queueDestroy (queue : IOQueue) : IOQueue := { queue with first := [], last := none }

/-- The bytes the queue still holds. -/
def pending (queue : IOQueue) : Text := queue.first.flatten.drop queue.consumed

/-- A queue in order: both ends agree, no block is empty, and the consumed part lies strictly
inside the front block. -/
structure WellFormed (queue : IOQueue) : Prop where
  ends : queue.last = queue.first.getLast?
  blocks : ∀ block ∈ queue.first, block ≠ []
  idle : queue.first = [] → queue.consumed = 0
  inside : ∀ front ∈ queue.first.head?, queue.consumed < front.length

theorem wellFormed_empty : WellFormed empty where
  ends := rfl
  blocks := fun _ member => nomatch member
  idle := fun _ => rfl
  inside := fun _ member => nomatch member

@[simp]
theorem pending_empty : pending empty = [] := rfl

/-- Adding a message appends its bytes. -/
theorem queueAdd_spec {queue : IOQueue} (well : queue.WellFormed) {message : Text}
    (nonempty : message ≠ []) :
    ∃ after, queue.queueAdd message = .ok after ∧ after.WellFormed ∧
      after.first = queue.first ++ [message] ∧ after.consumed = queue.consumed ∧
      after.pending = queue.pending ++ message := by
  have positive : 0 < message.length := List.length_pos_iff.mpr nonempty
  obtain ⟨first, last, consumed⟩ := queue
  cases first with
  | nil =>
      obtain rfl : last = none := well.ends
      obtain rfl : consumed = 0 := well.idle rfl
      refine ⟨_, rfl, ?_, rfl, rfl, by simp [pending]⟩
      exact { ends := rfl
              blocks := fun block member => by
                rw [List.mem_singleton.mp member]
                exact nonempty
              idle := fun none_left => nomatch none_left
              inside := fun front same => by
                obtain rfl : message = front := by simpa using same
                exact positive }
  | cons front rest =>
      have tail_eq : last = some ((front :: rest).getLast (List.cons_ne_nil _ _)) :=
        well.ends.trans (List.getLast?_eq_getLast_of_ne_nil _)
      subst tail_eq
      have inside : consumed < front.length := well.inside front rfl
      refine ⟨_, rfl, ?_, rfl, rfl, ?_⟩
      · exact { ends := List.getLast?_concat.symm
                blocks := fun block member => by
                  rcases List.mem_append.mp member with old | new
                  · exact well.blocks block old
                  · rw [List.mem_singleton.mp new]
                    exact nonempty
                idle := fun none_left => by simp at none_left
                inside := fun other same => by
                  obtain rfl : front = other := by simpa using same
                  exact inside }
      · have held : consumed ≤ (front :: rest).flatten.length := by
          simp only [List.flatten_cons, List.length_append]
          omega
        simp only [pending, List.flatten_append, List.flatten_singleton]
        exact List.drop_append_of_le_length held

/-- Consuming part or all of the front block's rest takes exactly those bytes off the front. -/
theorem queueConsume_spec {queue : IOQueue} (well : queue.WellFormed) {front : Text}
    {rest : List Text} (blocks : queue.first = front :: rest) {consume : Nat}
    (bounded : queue.consumed + consume ≤ front.length) :
    ∃ after, queue.queueConsume consume = .ok after ∧ after.WellFormed ∧
      (front.drop queue.consumed).take consume ++ after.pending = queue.pending ∧
      (if queue.consumed + consume = front.length then after.first = rest ∧ after.consumed = 0
        else after.first = front :: rest ∧ after.consumed = queue.consumed + consume) := by
  obtain ⟨first, last, consumed⟩ := queue
  obtain rfl : first = front :: rest := blocks
  have inside : consumed < front.length := well.inside front rfl
  have not_over : ¬front.length < consumed + consume := by
    simp only at bounded
    omega
  simp only at bounded
  by_cases finished : consumed + consume = front.length
  · have reached : front.length ≤ consumed + consume := by omega
    refine ⟨⟨rest, if rest.isEmpty then none else last, 0⟩, ?_, ?_, ?_, ?_⟩
    · simp [queueConsume, not_over, reached]
    · constructor
      · cases rest with
        | nil => rfl
        | cons next rest =>
            have tail := well.ends
            simp only [List.getLast?_cons_cons] at tail
            simpa using tail
      · exact fun block member => well.blocks block (List.mem_cons_of_mem _ member)
      · exact fun _ => rfl
      · intro next same
        have member : next ∈ rest := List.mem_of_mem_head? same
        exact List.length_pos_iff.mpr (well.blocks next (List.mem_cons_of_mem _ member))
    · have all : (front.drop consumed).length ≤ consume := by
        rw [List.length_drop]
        omega
      have within : consumed ≤ front.length := by omega
      simp only [pending, List.drop_zero, List.flatten_cons, List.take_of_length_le all]
      rw [List.drop_append_of_le_length within]
    · simp [finished]
  · have unfinished : ¬front.length ≤ consumed + consume := by omega
    refine ⟨⟨front :: rest, last, consumed + consume⟩, ?_, ?_, ?_, ?_⟩
    · simp [queueConsume, not_over, unfinished]
    · exact { ends := well.ends
              blocks := well.blocks
              idle := fun none_left => nomatch none_left
              inside := fun other same => by
                obtain rfl : front = other := by simpa using same
                simp only
                omega }
    · have first_le : consumed ≤ front.length := by omega
      have second_le : consumed + consume ≤ front.length := by omega
      simp only [pending, List.flatten_cons]
      rw [List.drop_append_of_le_length first_le, List.drop_append_of_le_length second_le,
        ← List.drop_drop, ← List.append_assoc, List.take_append_drop]
    · simp [finished]

/-- Adding to a queue whose ends agree keeps them in agreement. -/
theorem queueAdd_ends {queue : IOQueue} (ends : queue.last = queue.first.getLast?)
    (message : Text) :
    ∃ after, queue.queueAdd message = .ok after ∧ after.last = after.first.getLast? ∧
      after.first ≠ [] := by
  obtain ⟨first, last, consumed⟩ := queue
  cases first with
  | nil =>
      obtain rfl : last = none := ends
      exact ⟨_, rfl, rfl, List.cons_ne_nil _ _⟩
  | cons front rest =>
      obtain rfl : last = some ((front :: rest).getLast (List.cons_ne_nil _ _)) :=
        ends.trans (List.getLast?_eq_getLast_of_ne_nil _)
      exact ⟨_, rfl, List.getLast?_concat.symm, List.cons_ne_nil _ _⟩

/-- Consuming bytes that the front block has keeps the ends in agreement. -/
theorem queueConsume_ends {queue : IOQueue} (ends : queue.last = queue.first.getLast?)
    {front : Text} {rest : List Text} (blocks : queue.first = front :: rest) {consume : Nat}
    (bounded : queue.consumed + consume ≤ front.length) :
    ∃ after, queue.queueConsume consume = .ok after ∧ after.last = after.first.getLast? := by
  obtain ⟨first, last, consumed⟩ := queue
  obtain rfl : first = front :: rest := blocks
  have not_over : ¬front.length < consumed + consume := Nat.not_lt.mpr bounded
  simp only [queueConsume, not_over, if_false]
  split
  · cases rest with
    | nil => exact ⟨_, rfl, rfl⟩
    | cons next rest => exact ⟨_, rfl, ends⟩
  · exact ⟨_, rfl, ends⟩

private theorem length_pending (queue : IOQueue) :
    queue.pending.length = (queue.first.map List.length).sum - queue.consumed := by
  rw [pending, List.length_drop, List.length_flatten]

/-- When no more is pending than fits its last block, a queue has only one block. -/
theorem single_of_short {queue : IOQueue} (well : queue.WellFormed) {last : Text}
    (tail : queue.last = some last) (short : queue.pending.length ≤ last.length) :
    queue.first = [last] := by
  have ends := well.ends
  have held := length_pending queue
  rw [tail] at ends
  cases shape : queue.first with
  | nil => simp [shape] at ends
  | cons front rest =>
      have inside : queue.consumed < front.length := well.inside front (by rw [shape]; rfl)
      rw [shape] at ends held
      cases rest with
      | nil =>
          obtain rfl : last = front := by simpa using ends
          rfl
      | cons next rest =>
          have member : last ∈ next :: rest := by
            rw [List.getLast?_cons_cons] at ends
            exact List.mem_of_getLast? ends.symm
          have bound : last.length ≤ ((next :: rest).map List.length).sum := by
            rw [← List.length_flatten]
            exact (List.sublist_flatten_of_mem member).length_le
          rw [List.map_cons, List.sum_cons] at held
          omega

end IOQueue

end Football
