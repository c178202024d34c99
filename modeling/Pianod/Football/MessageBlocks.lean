import Pianod.Football.Message
import Pianod.Foundation.ReferenceCount
import Mathlib.Algebra.Order.Group.Multiset

/-!
# Message blocks on the heap

One block of text may wait in the queues of many connections.  It counts its uses; the last one to
let go of it puts it onto the free list, from which the next message is built.  Entries of queues
come from a free list of their own.  What `malloc` answers is part of the heap.
-/

namespace Football

open Foundation

/-- A message and the number of message lists it is used in. -/
structure MessageBlock where
  usecount : Nat
  message : Text
deriving DecidableEq, Repr

structure MessageHeap where
  /-- Every block that was ever obtained from the system, at its address. -/
  blocks : List MessageBlock
  /-- The blocks on the free list. -/
  freeMessages : List Nat
  /-- The number of queue entries on their free list. -/
  freeQ : Nat
  /-- What the next calls of `malloc` answer; later calls succeed. -/
  mallocs : List Bool
deriving DecidableEq, Repr

/-- The use count of the block at an address. -/
def usecountAt (blocks : List MessageBlock) (address : Nat) : Nat :=
  (blocks[address]?.map MessageBlock.usecount).getD 0

namespace MessageHeap

/-- The heap of a program that has not sent anything. -/
def initial (mallocs : List Bool) : MessageHeap := ⟨[], [], 0, mallocs⟩

/-- The text of the block at an address. -/
def message (heap : MessageHeap) (address : Nat) : Text :=
  (heap.blocks[address]?.map MessageBlock.message).getD []

/-- Ask the system for memory. -/
def malloc (heap : MessageHeap) : Bool × MessageHeap :=
  (heap.mallocs.headD true, { heap with mallocs := heap.mallocs.tail })

/-- Take a block off the free list if one is available, otherwise ask for a new one. -/
def messageAlloc (heap : MessageHeap) : Option Nat × MessageHeap :=
  match heap.freeMessages with
  | result :: rest =>
      (some result, { heap with blocks := heap.blocks.set result ⟨1, []⟩, freeMessages := rest })
  | [] =>
      match heap.malloc with
      | (true, heap) =>
          (some heap.blocks.length, { heap with blocks := heap.blocks ++ [⟨1, []⟩] })
      | (false, heap) => (none, heap)

/-- The failure of the check that a released block is in use. -/
def overReleased : Fault := .assertion "freethis->usecount > 0"

/-- Give up one use of a block; the last one puts it on the free list. -/
def messageFree (heap : MessageHeap) (address : Nat) : Except Fault MessageHeap :=
  match heap.blocks[address]? with
  | none => .error overReleased
  | some block =>
      if block.usecount = 0 then .error overReleased
      else if block.usecount = 1 then
        .ok { heap with
          blocks := heap.blocks.set address ⟨0, []⟩
          freeMessages := address :: heap.freeMessages }
      else .ok { heap with
        blocks := heap.blocks.set address { block with usecount := block.usecount - 1 } }

/-- Count one more use of a block. -/
def addUse (heap : MessageHeap) (address : Nat) : MessageHeap :=
  { heap with
    blocks := heap.blocks.modify address fun block =>
      { block with usecount := block.usecount + 1 } }

/-- Fill a block that was just allocated. -/
def fill (heap : MessageHeap) (address : Nat) (text : Text) : MessageHeap :=
  { heap with
    blocks := heap.blocks.modify address fun block => { block with message := text } }

/-- Get a queue entry off the free list if one is available, otherwise from the system. -/
def qalloc (heap : MessageHeap) : Bool × MessageHeap :=
  if 0 < heap.freeQ then (true, { heap with freeQ := heap.freeQ - 1 }) else heap.malloc

/-- No queue entry is to be had. -/
def QallocFails (heap : MessageHeap) : Prop := heap.freeQ = 0 ∧ heap.mallocs.head? = some false

instance (heap : MessageHeap) : Decidable heap.QallocFails :=
  inferInstanceAs (Decidable (_ ∧ _))

/-- Free a queue entry along with its use of a message. -/
def qfree (heap : MessageHeap) (address : Nat) : Except Fault MessageHeap :=
  (heap.messageFree address).map fun after => { after with freeQ := after.freeQ + 1 }

end MessageHeap

/-- A queue of message blocks, by their addresses. -/
structure BlockQueue where
  first : List Nat
  /-- The message of the entry the tail pointer refers to. -/
  last : Option Nat
  consumed : Nat
deriving DecidableEq, Repr

namespace BlockQueue

def empty : BlockQueue := ⟨[], none, 0⟩

def queueEmpty (queue : BlockQueue) : Bool := queue.first.isEmpty

/-- Add a message at the end; the use count is the caller's business. -/
def queueAdd (heap : MessageHeap) (queue : BlockQueue) (message : Nat) :
    Except Fault (Bool × MessageHeap × BlockQueue) :=
  match heap.qalloc with
  | (false, heap) => .ok (false, heap, queue)
  | (true, heap) =>
      match queue.first, queue.last with
      | [], none => .ok (true, heap, { queue with first := [message], last := some message })
      | [], some _ => .error (.assertion "!queue->last")
      | _ :: _, none => .error (.assertion "queue->last")
      | first, some _ =>
          .ok (true, heap, { queue with first := first ++ [message], last := some message })

/-- Consume bytes of the front message; a finished one is let go. -/
def queueConsume (heap : MessageHeap) (queue : BlockQueue) (consume : Nat) :
    Except Fault (MessageHeap × BlockQueue) :=
  match queue.first with
  | [] =>
      if consume = 0 then .error .nullDereference
      else .error (.assertion "consume == 0 || q->first")
  | front :: rest =>
      if (heap.message front).length < queue.consumed + consume then
        .error (.assertion "q->consumed <= q->first->message->length")
      else if (heap.message front).length ≤ queue.consumed + consume then
        (heap.qfree front).map fun after =>
          (after, ⟨rest, if rest.isEmpty then none else queue.last, 0⟩)
      else .ok (heap, { queue with consumed := queue.consumed + consume })

/-- Let go of a list of messages one by one. -/
def freeAll (heap : MessageHeap) : List Nat → Except Fault MessageHeap
  | [] => .ok heap
  | front :: rest => heap.messageFree front >>= fun after => freeAll after rest

/-- Trash everything; the consumed offset stays as it is. -/
def queueDestroy (heap : MessageHeap) (queue : BlockQueue) :
    Except Fault (MessageHeap × BlockQueue) :=
  (freeAll heap queue.first).map fun after =>
    ({ after with freeQ := after.freeQ + queue.first.length },
      { queue with first := [], last := none })

/-- The references a queue holds. -/
def references (queue : BlockQueue) : Multiset Nat := queue.first

@[simp]
theorem references_empty : empty.references = 0 := rfl

end BlockQueue

/-! ## What the operations do to the references -/

section Blocks

variable {blocks : List MessageBlock} {address : Nat}

/-- Storing a block changes the use count at its address only. -/
theorem usecountAt_set (held : address < blocks.length) (block : MessageBlock) :
    usecountAt (blocks.set address block) =
      Function.update (usecountAt blocks) address block.usecount := by
  funext other
  by_cases same : other = address
  · subst same
    simp [usecountAt, held]
  · rw [Function.update_of_ne same]
    simp [usecountAt, List.getElem?_set_ne (Ne.symm same)]

private theorem usecountAt_append (block : MessageBlock) :
    usecountAt (blocks ++ [block]) =
      Function.update (usecountAt blocks) blocks.length block.usecount := by
  funext other
  by_cases same : other = blocks.length
  · subst same
    simp [usecountAt]
  · rw [Function.update_of_ne same]
    rcases Nat.lt_or_gt_of_ne same with below | above
    · simp [usecountAt, List.getElem?_append_left below]
    · have beyond : blocks.length ≤ other := Nat.le_of_lt above
      have past : (blocks ++ [block]).length ≤ other := by
        simp only [List.length_append, List.length_singleton]
        omega
      rw [usecountAt, usecountAt, List.getElem?_eq_none past, List.getElem?_eq_none beyond]

theorem usecountAt_modify (held : address < blocks.length) (change : MessageBlock → MessageBlock) :
    usecountAt (blocks.modify address change) =
      Function.update (usecountAt blocks) address (change blocks[address]).usecount := by
  funext other
  by_cases same : other = address
  · subst same
    simp [usecountAt, held]
  · rw [Function.update_of_ne same]
    simp [usecountAt, List.getElem?_modify_ne change blocks (Ne.symm same)]

end Blocks

namespace MessageHeap

/-- The blocks in use are those that a multiset of references refers to, with their counts. -/
def Accounts (heap : MessageHeap) (references : Multiset Nat) : Prop :=
  Accounted (usecountAt heap.blocks) { address | address < heap.blocks.length }
    heap.freeMessages references

theorem accounts_initial (mallocs : List Bool) : (initial mallocs).Accounts 0 := by
  have none : ({ address | address < (initial mallocs).blocks.length } : Set Nat) = ∅ := by
    ext address
    simp [initial]
  rw [Accounts, none]
  exact Accounted.empty

variable {heap : MessageHeap} {references : Multiset Nat} {address : Nat}

theorem Accounts.held (accounts : heap.Accounts references) (member : address ∈ references) :
    address < heap.blocks.length :=
  accounts.within address member

/-- An allocated block comes with its first reference. -/
theorem Accounts.messageAlloc (accounts : heap.Accounts references) :
    match heap.messageAlloc with
    | (some result, after) => after.Accounts (result ::ₘ references)
    | (none, after) => after.Accounts references := by
  rw [MessageHeap.messageAlloc]
  cases free : heap.freeMessages with
  | cons result rest =>
      have known : Accounted (usecountAt heap.blocks) { address | address < heap.blocks.length }
          (result :: rest) references := free ▸ accounts
      have held : result < heap.blocks.length := ((known.idle result).mp List.mem_cons_self).1
      have reused := known.reuse
      have size : (heap.blocks.set result ⟨1, []⟩).length = heap.blocks.length := List.length_set
      rw [← usecountAt_set held ⟨1, []⟩, ← size] at reused
      exact reused
  | nil =>
      rcases answer : heap.mallocs.headD true with _ | _
      · simp only [malloc, answer]
        exact accounts
      · have new := accounts.fresh (Nat.lt_irrefl heap.blocks.length)
        have grown : insert heap.blocks.length { address | address < heap.blocks.length } =
            { address | address < (heap.blocks ++ [(⟨1, []⟩ : MessageBlock)]).length } := by
          ext address
          simp only [Set.mem_insert_iff, Set.mem_ofPred_eq, List.length_append,
            List.length_singleton]
          omega
        rw [← usecountAt_append ⟨1, []⟩, grown] at new
        simp only [malloc, answer]
        exact new

/-- Letting go of a block that is in use drops one reference. -/
theorem Accounts.messageFree (accounts : heap.Accounts (address ::ₘ references)) :
    ∃ after, heap.messageFree address = .ok after ∧ after.Accounts references := by
  have held := accounts.held (Multiset.mem_cons_self address references)
  have found : heap.blocks[address]? = some heap.blocks[address] := List.getElem?_eq_getElem held
  have count : heap.blocks[address].usecount = references.count address + 1 := by
    rw [← accounts.usecount_cons, usecountAt, found]
    rfl
  by_cases last : address ∈ references
  · have more : 0 < references.count address := Multiset.count_pos.mpr last
    have busy : heap.blocks[address].usecount ≠ 0 := by omega
    have shared : heap.blocks[address].usecount ≠ 1 := by omega
    refine ⟨_, by rw [MessageHeap.messageFree, found]; simp only [busy, shared, if_false]; rfl, ?_⟩
    have dropped := accounts.drop last
    rw [Accounts, usecountAt_set held, List.length_set]
    rw [usecountAt, found] at dropped
    exact dropped
  · have one : heap.blocks[address].usecount = 1 := by
      rw [count, Multiset.count_eq_zero_of_notMem last]
    have released := accounts.release last
    refine ⟨_, by rw [MessageHeap.messageFree, found]; simp only [one, if_true]; rfl, ?_⟩
    rw [Accounts, usecountAt_set held, List.length_set]
    exact released

/-- A use that is counted before it exists. -/
theorem Accounts.addUse (accounts : heap.Accounts references) (member : address ∈ references) :
    (heap.addUse address).Accounts (address ::ₘ references) := by
  have held := accounts.held member
  have retained := accounts.retain member
  rw [Accounts, MessageHeap.addUse, usecountAt_modify held, List.length_modify]
  have count : heap.blocks[address].usecount = usecountAt heap.blocks address := by
    rw [usecountAt, List.getElem?_eq_getElem held]
    rfl
  rw [count]
  exact retained

/-- Writing the text of a block does not count. -/
theorem Accounts.fill (accounts : heap.Accounts references) (member : address ∈ references)
    (text : Text) : (heap.fill address text).Accounts references := by
  have held := accounts.held member
  have same : usecountAt (heap.fill address text).blocks = usecountAt heap.blocks := by
    rw [MessageHeap.fill, usecountAt_modify held]
    have count : heap.blocks[address].usecount = usecountAt heap.blocks address := by
      rw [usecountAt, List.getElem?_eq_getElem held]
      rfl
    rw [count, Function.update_eq_self]
  rw [Accounts, same, MessageHeap.fill, List.length_modify]
  exact accounts

/-- Queue entries are not counted. -/
theorem Accounts.entries {after : MessageHeap} (accounts : heap.Accounts references)
    (blocks : after.blocks = heap.blocks) (free : after.freeMessages = heap.freeMessages) :
    after.Accounts references := by
  rw [Accounts, blocks, free]
  exact accounts

theorem Accounts.malloc (accounts : heap.Accounts references) :
    heap.malloc.2.Accounts references :=
  accounts.entries rfl rfl

theorem Accounts.qalloc (accounts : heap.Accounts references) :
    heap.qalloc.2.Accounts references := by
  rw [MessageHeap.qalloc]
  split
  · exact accounts.entries rfl rfl
  · exact accounts.malloc

private theorem qalloc_fst (heap : MessageHeap) : heap.qalloc.1 = false ↔ heap.QallocFails := by
  rw [MessageHeap.qalloc, QallocFails]
  split
  · rename_i some
    simp [Nat.ne_of_gt some]
  · rename_i none
    cases answers : heap.mallocs with
    | nil => simp [MessageHeap.malloc, answers]
    | cons answer rest => simp [MessageHeap.malloc, answers, Nat.eq_zero_of_not_pos none]

theorem Accounts.qfree (accounts : heap.Accounts (address ::ₘ references)) :
    ∃ after, heap.qfree address = .ok after ∧ after.Accounts references := by
  obtain ⟨after, released, kept⟩ := accounts.messageFree
  refine ⟨{ after with freeQ := after.freeQ + 1 }, ?_, kept.entries rfl rfl⟩
  rw [MessageHeap.qfree, released]
  rfl

end MessageHeap

/-- What is sure of an operation: no block is released that is not in use, and what holds of the
result. -/
def Sure {σ : Type} (holds : σ → Prop) (result : Except Fault σ) : Prop :=
  FallibleRun.Outcome holds (· ≠ MessageHeap.overReleased) result

namespace BlockQueue

open MessageHeap

variable {heap : MessageHeap} {queue : BlockQueue} {others : Multiset Nat}

/-- A message added to a queue leaves its reference there; otherwise the reference is left over. -/
theorem sure_queueAdd {message : Nat}
    (accounts : heap.Accounts (message ::ₘ (queue.references + others))) :
    Sure (fun (added, heap', queue') =>
      (added = false ↔ heap.QallocFails) ∧
        if added then heap'.Accounts (queue'.references + others)
        else queue' = queue ∧ heap'.Accounts (message ::ₘ (queue.references + others)))
      (queue.queueAdd heap message) := by
  have answered := heap.qalloc_fst
  have kept := accounts.qalloc
  rw [queueAdd]
  rcases outcome : heap.qalloc with ⟨_ | _, after⟩
  · rw [outcome] at answered kept
    exact ⟨answered, rfl, kept⟩
  · rw [outcome] at answered kept
    dsimp only at answered kept ⊢
    split
    · rename_i nothing _
      refine ⟨answered, ?_⟩
      rw [references, nothing, Multiset.coe_nil, zero_add] at kept
      exact kept
    · exact nofun
    · exact nofun
    · refine ⟨answered, ?_⟩
      have moved : message ::ₘ (queue.references + others) =
          (↑(queue.first ++ [message]) : Multiset Nat) + others := by
        rw [← Multiset.coe_add, Multiset.coe_singleton, references, ← Multiset.singleton_add,
          ← add_assoc, add_comm (queue.first : Multiset Nat)]
      rw [moved] at kept
      exact kept

/-- Consuming the front of a queue lets go of what is finished. -/
theorem sure_queueConsume {consume : Nat}
    (accounts : heap.Accounts (queue.references + others)) :
    Sure (fun (heap', queue') => heap'.Accounts (queue'.references + others))
      (queue.queueConsume heap consume) := by
  rw [queueConsume]
  split
  · split <;> exact nofun
  · rename_i front rest blocks
    split
    · exact nofun
    split
    · have first : queue.references + others = front ::ₘ (↑rest + others) := by
        rw [references, blocks, ← Multiset.cons_coe, Multiset.cons_add]
      rw [first] at accounts
      obtain ⟨after, released, kept⟩ := accounts.qfree
      rw [released]
      exact kept
    · exact accounts

private theorem freeAll_accounts {blocks : List Nat} (accounts : heap.Accounts (↑blocks + others)) :
    ∃ after, freeAll heap blocks = .ok after ∧ after.Accounts others := by
  induction blocks generalizing heap with
  | nil =>
      rw [Multiset.coe_nil, zero_add] at accounts
      exact ⟨heap, rfl, accounts⟩
  | cons front rest ih =>
      rw [← Multiset.cons_coe, Multiset.cons_add] at accounts
      obtain ⟨middle, released, kept⟩ := accounts.messageFree
      obtain ⟨after, others_released, final⟩ := ih kept
      refine ⟨after, ?_, final⟩
      rw [freeAll, released]
      exact others_released

/-- A destroyed queue holds no references. -/
theorem queueDestroy_accounts (accounts : heap.Accounts (queue.references + others)) :
    ∃ after queue', queue.queueDestroy heap = .ok (after, queue') ∧
      queue'.references = 0 ∧ after.Accounts others := by
  obtain ⟨after, released, kept⟩ := freeAll_accounts accounts
  refine ⟨{ after with freeQ := after.freeQ + queue.first.length },
    { queue with first := [], last := none }, ?_, rfl, kept.entries rfl rfl⟩
  rw [queueDestroy, released]
  rfl

end BlockQueue

end Football
