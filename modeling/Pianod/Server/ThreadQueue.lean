import Pianod.Foundation.LinkedList

/-!
# The queue between threads

Messages wait in a linked list between the thread that adds them and the threads that take them.
Nodes that are done with are kept in a pool.  Every operation holds the mutex, so that the threads
interleave between operations only, and where one waits for a message.
-/

namespace Pianod

open Foundation

structure Threadmsg where
  /-- Where the data is. -/
  data : Option Nat
  /-- What the receiver does with it. -/
  msgtype : Int
deriving DecidableEq, Repr

structure Msglist where
  msg : Threadmsg
  /-- The next node of its list. -/
  next : Option Nat
deriving DecidableEq, Repr

structure Threadqueue where
  /-- How many messages wait. -/
  length : Int
  /-- The node of the first message. -/
  first : Option Nat
  /-- The node of the last message. -/
  last : Option Nat
  /-- The first node that is kept. -/
  msgpool : Option Nat
  /-- How many nodes are kept. -/
  msgpoolLength : Int
  /-- The allocated nodes at their addresses. -/
  memory : Nat → Option Msglist

inductive QueueReturn where
  | success
  | noMemory
  | timedOut
deriving DecidableEq, Repr

namespace Threadqueue

def msgpoolSize : Int := 32

/-- A queue after `thread_queue_init`. -/
def init : Threadqueue := ⟨0, none, none, none, 0, fun _ => none⟩

/-- The node at an address. -/
def node (queue : Threadqueue) (address : Nat) : Except Fault Msglist :=
  match queue.memory address with
  | none => .error .useAfterFree
  | some record => .ok record

def write (queue : Threadqueue) (address : Nat) (record : Msglist) : Threadqueue :=
  { queue with memory := Function.update queue.memory address (some record) }

def free (queue : Threadqueue) (address : Nat) : Threadqueue :=
  { queue with memory := Function.update queue.memory address none }

/-- Take a node from the pool; `malloc` is what the system answers if it is empty. -/
def getMsglist (queue : Threadqueue) (malloc : Option Nat) :
    Except Fault (Option Nat × Threadqueue) :=
  match queue.msgpool with
  | some tmp => do
      let record ← queue.node tmp
      return (some tmp,
        { queue with msgpool := record.next, msgpoolLength := queue.msgpoolLength - 1 })
  | none => return (malloc, queue)

/-- Put a node into the pool, or free it. -/
def releaseMsglist (queue : Threadqueue) (address : Nat) : Threadqueue :=
  if queue.msgpoolLength + queue.length < msgpoolSize then
    { queue.write address ⟨⟨none, 0⟩, queue.msgpool⟩ with
      msgpool := some address, msgpoolLength := queue.msgpoolLength + 1 }
  else queue.free address

/-- Link a node to the end. -/
def append (queue : Threadqueue) (newmsg : Nat) : Except Fault Threadqueue :=
  match queue.last with
  | none => return { queue with last := some newmsg, first := some newmsg }
  | some last => do
      let record ← queue.node last
      return { queue.write last { record with next := some newmsg } with last := some newmsg }

/-- Add a message.  The second part of the answer is whether the threads that wait are woken. -/
def threadQueueAdd (queue : Threadqueue) (data : Option Nat) (msgtype : Int)
    (malloc : Option Nat) : Except Fault (QueueReturn × Bool × Threadqueue) := do
  match ← queue.getMsglist malloc with
  | (none, queue) => return (.noMemory, false, queue)
  | (some newmsg, queue) =>
      let queue ← (queue.write newmsg ⟨⟨data, msgtype⟩, none⟩).append newmsg
      return (.success, queue.length = 0, { queue with length := queue.length + 1 })

/-- The end of `thread_queue_get`: take the first message, and say how many are left. -/
def take (queue : Threadqueue) : Except Fault (Threadmsg × Int × Threadqueue) :=
  match queue.first with
  | none => .error .nullDereference
  | some firstrec => do
      let record ← queue.node firstrec
      let queue := { queue with first := record.next, length := queue.length - 1 }
      let queue := if queue.first = none then { queue with last := none, length := 0 } else queue
      return (record.msg, queue.length, queue.releaseMsglist firstrec)

/-- Free the nodes of the queue and of the pool.  The second part of the answer are the messages
whose data is freed. -/
def threadQueueCleanup (queue : Threadqueue) (fuel : Nat) (freedata : Bool) :
    Except Fault (Option ((Nat → Option Msglist) × List Nat)) := do
  match ← freeNodes Msglist.next fuel queue.memory queue.first with
  | none => return none
  | some (memory, pending) =>
      match ← freeNodes Msglist.next fuel memory queue.msgpool with
      | none => return none
      | some (memory, pooled) =>
          return some (memory,
            if freedata then (pending ++ pooled).filterMap fun record => record.msg.data else [])

end Threadqueue

/-- The queue and the pool are two lists apart, which are all that is allocated besides the nodes
that an operation holds in its hands. -/
structure Threadqueue.Keeps (queue : Threadqueue) (held : List Nat)
    (cells pool : List (Nat × Msglist)) : Prop where
  queued : Linked Msglist.next queue.memory queue.first cells
  pooled : Linked Msglist.next queue.memory queue.msgpool pool
  ends : queue.last = cells.getLast?.map Prod.fst
  counted : queue.length = cells.length
  poolCounted : queue.msgpoolLength = pool.length
  distinct : (held ++ (cells ++ pool).map Prod.fst).Nodup
  owned : ∀ address, address ∉ held ++ (cells ++ pool).map Prod.fst → queue.memory address = none
  cleared : ∀ cell ∈ pool, cell.2.msg = ⟨none, 0⟩
  bounded : pool = [] ∨ cells.length + held.length + pool.length ≤ 32

/-- The messages of the cells. -/
def messages (cells : List (Nat × Msglist)) : List Threadmsg := cells.map fun cell => cell.2.msg

namespace Threadqueue

variable {queue : Threadqueue} {cells pool : List (Nat × Msglist)} {cell : Nat × Msglist}
  {address : Nat}

theorem init_keeps : init.Keeps [] [] [] where
  queued := rfl
  pooled := rfl
  ends := rfl
  counted := rfl
  poolCounted := rfl
  distinct := List.nodup_nil
  owned := fun _ _ => rfl
  cleared := fun _ member => absurd member List.not_mem_nil
  bounded := Or.inl rfl

theorem node_eq {record : Msglist} (here : queue.memory address = some record) :
    queue.node address = .ok record := by
  rw [node, here]

/-! ## Obtaining and releasing nodes -/

/-- A node that is held is in neither list. -/
theorem Keeps.apart (keeps : queue.Keeps [address] cells pool) :
    address ∉ cells.map Prod.fst ∧ address ∉ pool.map Prod.fst ∧
      ((cells ++ pool).map Prod.fst).Nodup := by
  obtain ⟨fresh, distinct⟩ := List.nodup_cons.mp keeps.distinct
  change address ∉ (cells ++ pool).map Prod.fst at fresh
  rw [List.map_append, List.mem_append, not_or] at fresh
  exact ⟨fresh.1, fresh.2, distinct⟩

/-- A node comes from the pool, or from the system if the pool is empty. -/
theorem Keeps.getMsglist (keeps : queue.Keeps [] cells pool) {malloc : Option Nat}
    (fresh : ∀ address ∈ malloc, queue.memory address = none) :
    (pool = [] ∧ malloc = none ∧ queue.getMsglist malloc = .ok (none, queue)) ∨
    ∃ newmsg less rest, queue.getMsglist malloc = .ok (some newmsg, less) ∧
      less.Keeps [newmsg] cells rest ∧ less.length = queue.length ∧ less.last = queue.last := by
  have starts := keeps.pooled.head_eq
  cases pool with
  | nil =>
      have asked : queue.getMsglist malloc = .ok (malloc, queue) := by
        rw [Threadqueue.getMsglist, starts]
        rfl
      cases malloc with
      | none => exact Or.inl ⟨rfl, rfl, asked⟩
      | some newmsg =>
          refine Or.inr ⟨newmsg, queue, [], asked, ?_, rfl, rfl⟩
          have unused := fresh newmsg rfl
          have outside : newmsg ∉ (cells ++ []).map Prod.fst := by
            rw [List.append_nil]
            intro member
            obtain ⟨cell, within, same⟩ := List.mem_map.mp member
            have here := keeps.queued.present within
            rw [same, unused] at here
            cases here
          exact {
            keeps with
            distinct := List.nodup_cons.mpr ⟨outside, keeps.distinct⟩
            owned := fun other elsewhere =>
              keeps.owned other fun member => elsewhere (List.mem_cons_of_mem _ member)
            bounded := Or.inl rfl }
  | cons taken rest =>
      obtain ⟨_, here, pooled⟩ := keeps.pooled
      refine Or.inr ⟨taken.1,
        { queue with msgpool := taken.2.next, msgpoolLength := queue.msgpoolLength - 1 },
        rest, ?_, ?_, rfl, rfl⟩
      · rw [Threadqueue.getMsglist, starts]
        change (queue.node taken.1 >>= _) = _
        rw [node_eq here]
        rfl
      · have moved : (taken.1 :: (cells ++ rest).map Prod.fst).Perm
            ((cells ++ taken :: rest).map Prod.fst) := by
          rw [← List.map_cons]
          exact (List.perm_middle.symm).map _
        refine {
          queued := keeps.queued
          pooled := pooled
          ends := keeps.ends
          counted := keeps.counted
          poolCounted := ?_
          distinct := moved.nodup_iff.mpr keeps.distinct
          owned := fun other elsewhere => keeps.owned other fun member =>
            elsewhere (moved.mem_iff.mpr member)
          cleared := fun cell member => keeps.cleared cell (List.mem_cons_of_mem _ member)
          bounded := Or.inr ?_ }
        · have counted := keeps.poolCounted
          rw [List.length_cons] at counted
          change queue.msgpoolLength - 1 = _
          omega
        · have bounded := keeps.bounded.resolve_left (List.cons_ne_nil _ _)
          simp only [List.length_cons, List.length_nil] at bounded ⊢
          omega

/-- A node that is held goes to the pool or is freed. -/
theorem Keeps.releaseMsglist (keeps : queue.Keeps [address] cells pool) :
    ∃ rest, (queue.releaseMsglist address).Keeps [] cells rest := by
  obtain ⟨outsideCells, outsidePool, distinct⟩ := keeps.apart
  unfold Threadqueue.releaseMsglist
  by_cases room : queue.msgpoolLength + queue.length < msgpoolSize
  · have moved : (address :: (cells ++ pool).map Prod.fst).Perm
        ((cells ++ (address, Msglist.mk ⟨none, 0⟩ queue.msgpool) :: pool).map Prod.fst) := by
      rw [List.map_append, List.map_append, List.map_cons]
      exact List.perm_middle.symm
    rw [if_pos room]
    refine ⟨(address, ⟨⟨none, 0⟩, queue.msgpool⟩) :: pool, {
      queued := keeps.queued.update outsideCells _
      pooled := keeps.pooled.push outsidePool rfl
      ends := keeps.ends
      counted := keeps.counted
      poolCounted := ?_
      distinct := moved.nodup_iff.mp keeps.distinct
      owned := ?_
      cleared := ?_
      bounded := Or.inr ?_ }⟩
    · have counted := keeps.poolCounted
      change queue.msgpoolLength + 1 = _
      rw [List.length_cons]
      omega
    · intro other elsewhere
      have apart : other ∉ address :: (cells ++ pool).map Prod.fst := fun member =>
        elsewhere (moved.mem_iff.mp member)
      have same : other ≠ address := fun same => apart (same ▸ List.mem_cons_self)
      exact (Function.update_of_ne same _ _).trans (keeps.owned other apart)
    · intro cell member
      rcases List.mem_cons.mp member with rfl | member
      · rfl
      · exact keeps.cleared cell member
    · have counted := keeps.counted
      have poolCounted := keeps.poolCounted
      change queue.msgpoolLength + queue.length < 32 at room
      simp only [List.length_cons, List.length_nil]
      omega
  · rw [if_neg room]
    refine ⟨pool, {
      queued := keeps.queued.update outsideCells _
      pooled := keeps.pooled.update outsidePool _
      ends := keeps.ends
      counted := keeps.counted
      poolCounted := keeps.poolCounted
      distinct := distinct
      owned := ?_
      cleared := keeps.cleared
      bounded := ?_ }⟩
    · intro other elsewhere
      by_cases same : other = address
      · rw [same]
        exact Function.update_self ..
      · refine (Function.update_of_ne same _ _).trans (keeps.owned other ?_)
        exact List.not_mem_cons_of_ne_of_not_mem same elsewhere
    · rcases keeps.bounded with none | few
      · exact Or.inl none
      · simp only [List.length_cons, List.length_nil] at few ⊢
        exact Or.inr (by omega)

/-! ## Adding and taking messages -/

/-- A node that is held is linked to the end of the queue. -/
theorem Keeps.append (keeps : queue.Keeps [address] cells pool) (msg : Threadmsg) :
    ∃ linked more, (queue.write address ⟨msg, none⟩).append address = .ok linked ∧
      linked.length = queue.length ∧ messages more = messages cells ++ [msg] ∧
      Keeps { linked with length := linked.length + 1 } [] more pool := by
  obtain ⟨outsideCells, outsidePool, distinct⟩ := keeps.apart
  have here : (queue.write address ⟨msg, none⟩).memory address = some ⟨msg, none⟩ :=
    Function.update_self ..
  have queued : Linked Msglist.next (queue.write address ⟨msg, none⟩).memory queue.first cells :=
    keeps.queued.update outsideCells _
  have pooled : Linked Msglist.next (queue.write address ⟨msg, none⟩).memory queue.msgpool pool :=
    keeps.pooled.update outsidePool _
  have owned : ∀ other, other ∉ address :: (cells ++ pool).map Prod.fst →
      (queue.write address ⟨msg, none⟩).memory other = none := by
    intro other elsewhere
    have same : other ≠ address := fun same => elsewhere (same ▸ List.mem_cons_self)
    exact (Function.update_of_ne same _ _).trans (keeps.owned other elsewhere)
  have counted := keeps.counted
  have ends := keeps.ends
  have moved : (address :: (cells ++ pool).map Prod.fst).Perm
      (cells.map Prod.fst ++ address :: pool.map Prod.fst) := by
    rw [List.map_append]
    exact List.perm_middle.symm
  have bounded : pool = [] ∨ cells.length + 1 + pool.length ≤ 32 := keeps.bounded
  rcases List.eq_nil_or_concat' cells with rfl | ⟨front, last, rfl⟩
  · -- The queue was empty.
    refine ⟨{ queue.write address ⟨msg, none⟩ with last := some address, first := some address },
      [(address, ⟨msg, none⟩)], ?_, rfl, rfl, {
        queued := ⟨rfl, here, rfl⟩
        pooled := pooled
        ends := rfl
        counted := congrArg (· + 1) counted
        poolCounted := keeps.poolCounted
        distinct := keeps.distinct
        owned := owned
        cleared := keeps.cleared
        bounded := bounded }⟩
    rw [Threadqueue.append]
    change (match queue.last with | none => _ | some _ => _) = _
    rw [ends]
    rfl
  · -- The last node gets a link.
    rw [List.getLast?_concat] at ends
    have lastHere := queued.present (List.mem_concat_self (a := last))
    have distinctCells : ((front ++ [last]).map Prod.fst).Nodup := by
      rw [List.map_append] at distinct
      exact distinct.of_append_left
    have lastApart : last.1 ∉ pool.map Prod.fst := by
      rw [List.map_append] at distinct
      exact fun member => (List.nodup_append.mp distinct).2.2 last.1 (by simp) last.1 member rfl
    have addresses : (address :: (front ++ [last] ++ pool).map Prod.fst).Perm
        ((front ++ [(last.1, Msglist.mk last.2.msg (some address)), (address, ⟨msg, none⟩)] ++
          pool).map Prod.fst) := by
      refine moved.trans (List.Perm.of_eq ?_)
      simp
    have chained : Linked Msglist.next
        (Function.update (queue.write address ⟨msg, none⟩).memory last.1
          (some ⟨last.2.msg, some address⟩)) queue.first
        (front ++ [(last.1, ⟨last.2.msg, some address⟩), (address, ⟨msg, none⟩)]) :=
      queued.snoc distinctCells outsideCells rfl rfl here
    refine ⟨{ (queue.write address ⟨msg, none⟩).write last.1 ⟨last.2.msg, some address⟩
        with last := some address },
      front ++ [(last.1, Msglist.mk last.2.msg (some address)), (address, Msglist.mk msg none)],
      ?_, rfl, ?_, {
        queued := chained
        pooled := pooled.update lastApart _
        ends := ?_
        counted := ?_
        poolCounted := keeps.poolCounted
        distinct := ?_
        owned := ?_
        cleared := keeps.cleared
        bounded := ?_ }⟩
    · rw [Threadqueue.append]
      change (match queue.last with | none => _ | some _ => _) = _
      rw [ends]
      change (Threadqueue.node _ last.1 >>= _) = _
      rw [node_eq lastHere]
      rfl
    · rw [messages, messages, List.map_append, List.map_append, List.append_assoc]
      rfl
    · simp
    · change queue.length + 1 = _
      rw [counted]
      simp only [List.length_append, List.length_cons, List.length_nil]
      omega
    · refine (addresses.nodup_iff).mp keeps.distinct
    · intro other elsewhere
      have outside : other ∉ address :: (front ++ [last] ++ pool).map Prod.fst := fun member =>
        elsewhere (addresses.mem_iff.mp member)
      have same : other ≠ last.1 := by
        rintro rfl
        exact outside (by simp)
      exact (Function.update_of_ne same _ _).trans (owned other outside)
    · rcases bounded with none | few
      · exact Or.inl none
      · simp only [List.length_append, List.length_cons, List.length_nil] at few ⊢
        exact Or.inr (by omega)

/-- A message is added at the end, or there is no memory for it. -/
theorem Keeps.threadQueueAdd (keeps : queue.Keeps [] cells pool) (data : Option Nat) (msgtype : Int)
    {malloc : Option Nat} (fresh : ∀ address ∈ malloc, queue.memory address = none) :
    (pool = [] ∧ malloc = none ∧
      queue.threadQueueAdd data msgtype malloc = .ok (.noMemory, false, queue)) ∨
    ∃ added more rest,
      queue.threadQueueAdd data msgtype malloc = .ok (.success, decide (cells = []), added) ∧
      added.Keeps [] more rest ∧ messages more = messages cells ++ [⟨data, msgtype⟩] := by
  rcases keeps.getMsglist fresh with ⟨empty, refused, asked⟩ |
    ⟨newmsg, less, rest, asked, holds, sameLength, -⟩
  · refine Or.inl ⟨empty, refused, ?_⟩
    rw [Threadqueue.threadQueueAdd, asked]
    rfl
  · obtain ⟨linked, more, appended, length, said, keeps'⟩ := holds.append ⟨data, msgtype⟩
    refine Or.inr ⟨_, more, rest, ?_, keeps', said⟩
    have empty : decide (linked.length = 0) = decide (cells = []) := by
      rw [decide_eq_decide, length, holds.counted, Int.natCast_eq_zero, List.length_eq_zero_iff]
    rw [Threadqueue.threadQueueAdd, asked, ← empty]
    change (Threadqueue.append _ newmsg >>= _) = _
    rw [appended]
    rfl

/-- The first message is taken, and the answer says how many are left. -/
theorem Keeps.take (keeps : queue.Keeps [] (cell :: cells) pool) :
    ∃ taken rest, queue.take = .ok (cell.2.msg, cells.length, taken) ∧
      taken.Keeps [] cells rest := by
  obtain ⟨starts, here, queued⟩ := keeps.queued
  have counted := keeps.counted
  rw [List.length_cons] at counted
  have unlinked : ∀ less : Threadqueue, less.memory = queue.memory → less.msgpool = queue.msgpool →
      less.msgpoolLength = queue.msgpoolLength → less.first = cell.2.next →
      less.last = cells.getLast?.map Prod.fst → less.length = cells.length →
      less.Keeps [cell.1] cells pool := by
    intro less memory msgpool msgpoolLength first last length
    exact {
      queued := by rw [memory, first]; exact queued
      pooled := by rw [memory, msgpool]; exact keeps.pooled
      ends := last
      counted := length
      poolCounted := by rw [msgpoolLength]; exact keeps.poolCounted
      distinct := keeps.distinct
      owned := by rw [memory]; exact keeps.owned
      cleared := keeps.cleared
      bounded := keeps.bounded.imp_right fun few => by
        simp only [List.length_cons, List.length_nil] at few ⊢
        omega }
  have released : ∀ less : Threadqueue, less.Keeps [cell.1] cells pool →
      queue.take = .ok (cell.2.msg, less.length, less.releaseMsglist cell.1) →
      ∃ taken rest, queue.take = .ok (cell.2.msg, cells.length, taken) ∧
        taken.Keeps [] cells rest := by
    intro less holds result
    obtain ⟨rest, keeps'⟩ := holds.releaseMsglist
    exact ⟨_, rest, holds.counted ▸ result, keeps'⟩
  have headEq := queued.head_eq
  cases cells with
  | nil =>
      have empty : cell.2.next = none := headEq
      refine released { queue with first := cell.2.next, last := none, length := 0 }
        (unlinked _ rfl rfl rfl rfl rfl rfl) ?_
      rw [Threadqueue.take, starts]
      change (queue.node cell.1 >>= _) = _
      rw [node_eq here]
      change Except.ok (cell.2.msg, (if cell.2.next = none then _ else _ : Threadqueue).length,
        (if cell.2.next = none then _ else _ : Threadqueue).releaseMsglist cell.1) = _
      rw [if_pos empty]
  | cons second others =>
      have more : cell.2.next ≠ none := by
        rw [headEq]
        exact Option.some_ne_none _
      have ends := keeps.ends
      rw [List.getLast?_cons_cons] at ends
      refine released { queue with first := cell.2.next, length := queue.length - 1 }
        (unlinked _ rfl rfl rfl rfl ends (by change queue.length - 1 = _; omega)) ?_
      rw [Threadqueue.take, starts]
      change (queue.node cell.1 >>= _) = _
      rw [node_eq here]
      change Except.ok (cell.2.msg, (if cell.2.next = none then _ else _ : Threadqueue).length,
        (if cell.2.next = none then _ else _ : Threadqueue).releaseMsglist cell.1) = _
      rw [if_neg more]

/-- Cleaning up frees all that is allocated, and the data of each message that waits. -/
theorem Keeps.threadQueueCleanup (keeps : queue.Keeps [] cells pool) {fuel : Nat}
    (enough : (cells ++ pool).length ≤ fuel) (freedata : Bool) :
    queue.threadQueueCleanup fuel freedata = .ok (some (fun _ => none,
      if freedata then (messages cells).filterMap Threadmsg.data else [])) := by
  have distinct := keeps.distinct
  rw [List.nil_append, List.map_append] at distinct
  rw [List.length_append] at enough
  obtain ⟨distinctCells, distinctPool, apart⟩ := List.nodup_append.mp distinct
  have first : freeNodes Msglist.next fuel queue.memory queue.first = .ok (some
      (fun address => if address ∈ cells.map Prod.fst then none else queue.memory address,
        cells.map Prod.snd)) :=
    keeps.queued.freeNodes_eq distinctCells (by omega)
  have pooled : Linked Msglist.next
      (fun address => if address ∈ cells.map Prod.fst then none else queue.memory address)
      queue.msgpool pool :=
    keeps.pooled.frame fun cell member => if_neg fun within =>
      apart cell.1 within cell.1 (List.mem_map_of_mem member) rfl
  have second : freeNodes Msglist.next fuel
      (fun address => if address ∈ cells.map Prod.fst then none else queue.memory address)
      queue.msgpool = .ok (some (fun _ => none, pool.map Prod.snd)) := by
    rw [pooled.freeNodes_eq distinctPool (by omega)]
    congr 3
    funext address
    by_cases inPool : address ∈ pool.map Prod.fst
    · exact if_pos inPool
    · rw [if_neg inPool]
      by_cases inCells : address ∈ cells.map Prod.fst
      · exact if_pos inCells
      · rw [if_neg inCells]
        apply keeps.owned
        rw [List.nil_append, List.map_append, List.mem_append]
        exact not_or.mpr ⟨inCells, inPool⟩
  have empty : (pool.map Prod.snd).filterMap (fun record => record.msg.data) = [] := by
    rw [List.filterMap_eq_nil_iff]
    intro record member
    obtain ⟨cell, within, rfl⟩ := List.mem_map.mp member
    rw [keeps.cleared cell within]
  rw [Threadqueue.threadQueueCleanup, first]
  change (freeNodes Msglist.next fuel _ queue.msgpool >>= _) = _
  rw [second]
  change Except.ok (some (_, if freedata = true then _ else _)) = _
  rw [List.filterMap_append, empty, List.append_nil, List.filterMap_map, messages,
    List.filterMap_map]
  rfl

end Threadqueue

/-! ## The threads -/

/-- Where a thread is in `thread_queue_get`: not in it, asleep, or awake and waiting for the mutex.
It has a deadline or none, and the deadline may have passed. -/
inductive Waiting where
  | outside
  | asleep (timed : Bool)
  | woken (timed expired : Bool)
deriving DecidableEq, Repr

namespace Waiting

/-- What `pthread_cond_broadcast` does to a thread. -/
def broadcast : Waiting → Waiting
  | asleep timed => woken timed false
  | other => other

/-- The deadline of a thread passes. -/
def expire : Waiting → Waiting
  | asleep true => woken true true
  | woken true _ => woken true true
  | other => other

end Waiting

/-- A queue, its threads, and what was added and which thread took it. -/
structure QueueUse (Thread : Type) where
  queue : Threadqueue
  threads : Thread → Waiting
  added : List Threadmsg
  taken : List (Thread × Threadmsg)

/-- A thread adds a message; another calls for one, is woken without reason, reaches its deadline,
or has the mutex again. -/
inductive QueueEvent (Thread : Type) where
  | add (data : Option Nat) (msgtype : Int) (malloc : Option Nat)
  | get (thread : Thread) (timed : Bool)
  | wake (thread : Thread)
  | expire (thread : Thread)
  | resume (thread : Thread)

namespace QueueUse

variable {Thread : Type} [DecidableEq Thread]

def initial : QueueUse Thread := ⟨.init, fun _ => .outside, [], []⟩

def setThread (state : QueueUse Thread) (thread : Thread) (place : Waiting) : QueueUse Thread :=
  { state with threads := Function.update state.threads thread place }

/-- The loop of `thread_queue_get` with the mutex held: give up, sleep, or take a message. -/
def proceed (state : QueueUse Thread) (thread : Thread) (timed expired : Bool) :
    Except Fault (QueueUse Thread) :=
  if expired then return state.setThread thread .outside
  else if state.queue.first = none then return state.setThread thread (.asleep timed)
  else do
    let (msg, _, queue) ← state.queue.take
    return { state.setThread thread .outside with
      queue := queue, taken := state.taken ++ [(thread, msg)] }

def step (state : QueueUse Thread) : QueueEvent Thread → Except Fault (QueueUse Thread)
  | .add data msgtype malloc => do
      let (result, wakes, queue) ← state.queue.threadQueueAdd data msgtype malloc
      return { state with
        queue := queue
        threads := fun thread =>
          if wakes then (state.threads thread).broadcast else state.threads thread
        added := if result = .success then state.added ++ [⟨data, msgtype⟩] else state.added }
  | .get thread timed => state.proceed thread timed false
  | .wake thread => return state.setThread thread (state.threads thread).broadcast
  | .expire thread => return state.setThread thread (state.threads thread).expire
  | .resume thread =>
      match state.threads thread with
      | .woken timed expired => state.proceed thread timed expired
      | _ => return state

def run (state : QueueUse Thread) (events : List (QueueEvent Thread)) :
    Except Fault (QueueUse Thread) := events.foldlM step state

/-- The system answers with memory that is not allocated; a thread calls once at a time. -/
def Possible (state : QueueUse Thread) : QueueEvent Thread → Prop
  | .add _ _ malloc => ∀ address ∈ malloc, state.queue.memory address = none
  | .get thread _ => state.threads thread = .outside
  | _ => True

/-- Every event is possible when it happens. -/
def AllPossible : QueueUse Thread → List (QueueEvent Thread) → Prop
  | _, [] => True
  | state, event :: events => state.Possible event ∧
      ∀ next, state.step event = .ok next → AllPossible next events

/-- The messages that were added are those that were taken and then those that wait, and no thread
is asleep while one waits. -/
structure Accounted (state : QueueUse Thread) (cells pool : List (Nat × Msglist)) : Prop where
  keeps : state.queue.Keeps [] cells pool
  order : state.added = state.taken.map Prod.snd ++ messages cells
  awake : cells ≠ [] → ∀ thread timed, state.threads thread ≠ .asleep timed

variable {state : QueueUse Thread} {cells pool : List (Nat × Msglist)}

omit [DecidableEq Thread] in
theorem initial_accounted : (initial : QueueUse Thread).Accounted [] [] where
  keeps := Threadqueue.init_keeps
  order := rfl
  awake := fun more => absurd rfl more

omit [DecidableEq Thread] in
theorem broadcast_ne_asleep (place : Waiting) (timed : Bool) :
    place.broadcast ≠ .asleep timed := by
  cases place with
  | outside => exact Waiting.noConfusion
  | asleep _ => exact Waiting.noConfusion
  | woken _ _ => exact Waiting.noConfusion

/-- A thread that does not fall asleep changes nothing. -/
theorem Accounted.setThread (accounted : state.Accounted cells pool) (thread : Thread)
    {place : Waiting} (awake : cells ≠ [] → ∀ timed, place ≠ .asleep timed) :
    (state.setThread thread place).Accounted cells pool where
  keeps := accounted.keeps
  order := accounted.order
  awake := by
    intro more other timed
    change Function.update state.threads thread place other ≠ _
    by_cases same : other = thread
    · rw [same, Function.update_self]
      exact awake more timed
    · rw [Function.update_of_ne same]
      exact accounted.awake more other timed

/-- With the mutex held, a thread gives up, falls asleep on an empty queue, or takes the first
message. -/
theorem Accounted.proceed (accounted : state.Accounted cells pool) (thread : Thread)
    (timed expired : Bool) :
    ∃ next less rest, state.proceed thread timed expired = .ok next ∧ next.Accounted less rest := by
  have starts := accounted.keeps.queued.head_eq
  unfold QueueUse.proceed
  cases expired with
  | true =>
      refine ⟨_, cells, pool, if_pos rfl, accounted.setThread thread fun _ _ => ?_⟩
      exact Waiting.noConfusion
  | false =>
      rw [if_neg Bool.false_ne_true]
      cases cells with
      | nil =>
          refine ⟨_, [], pool, if_pos starts, accounted.setThread thread fun more => ?_⟩
          exact absurd rfl more
      | cons cell cells =>
          obtain ⟨queue, rest, taken, keeps⟩ := accounted.keeps.take
          have outside : (state.setThread thread .outside).Accounted (cell :: cells) pool :=
            accounted.setThread thread fun _ _ => Waiting.noConfusion
          rw [if_neg (by rw [starts]; exact Option.some_ne_none _), taken]
          refine ⟨_, cells, rest, rfl, keeps, ?_, fun _ => outside.awake (List.cons_ne_nil _ _)⟩
          rw [List.map_append, List.append_assoc]
          exact accounted.order

/-- Every possible step is defined and keeps the accounts. -/
theorem Accounted.step (accounted : state.Accounted cells pool) {event : QueueEvent Thread}
    (possible : state.Possible event) :
    ∃ next more rest, state.step event = .ok next ∧ next.Accounted more rest := by
  cases event with
  | add data msgtype malloc =>
      rcases accounted.keeps.threadQueueAdd data msgtype possible with
        ⟨-, -, refused⟩ | ⟨added, more, rest, result, keeps, said⟩
      · refine ⟨state, cells, pool, ?_, accounted⟩
        rw [QueueUse.step, refused]
        rfl
      · refine ⟨_, more, rest, by rw [QueueUse.step, result]; rfl, keeps, ?_, ?_⟩
        · change state.added ++ _ = _
          rw [accounted.order, said, List.append_assoc]
        · intro _ thread timed
          change (if decide (cells = []) = true then _ else _) ≠ _
          by_cases empty : cells = []
          · rw [if_pos (decide_eq_true empty)]
            exact broadcast_ne_asleep _ _
          · rw [if_neg (by simpa using empty)]
            exact accounted.awake empty thread timed
  | get thread timed => exact accounted.proceed thread timed false
  | wake thread =>
      refine ⟨_, cells, pool, rfl, accounted.setThread thread fun _ timed => ?_⟩
      exact broadcast_ne_asleep _ timed
  | expire thread =>
      refine ⟨_, cells, pool, rfl, accounted.setThread thread fun more timed => ?_⟩
      have awake := accounted.awake more thread
      cases place : state.threads thread with
      | outside => exact Waiting.noConfusion
      | asleep deadline => exact absurd place (awake deadline)
      | woken deadline expired => cases deadline <;> exact Waiting.noConfusion
  | resume thread =>
      cases place : state.threads thread with
      | outside => exact ⟨state, cells, pool, by rw [QueueUse.step, place]; rfl, accounted⟩
      | asleep timed => exact ⟨state, cells, pool, by rw [QueueUse.step, place]; rfl, accounted⟩
      | woken timed expired =>
          have resumed : state.step (.resume thread) = state.proceed thread timed expired := by
            rw [QueueUse.step, place]
          rw [resumed]
          exact accounted.proceed thread timed expired

theorem Accounted.run (accounted : state.Accounted cells pool) {events : List (QueueEvent Thread)}
    (possible : state.AllPossible events) :
    ∃ last more rest, state.run events = .ok last ∧ last.Accounted more rest := by
  induction events generalizing state cells pool with
  | nil => exact ⟨state, cells, pool, rfl, accounted⟩
  | cons event events induction =>
      obtain ⟨next, more, rest, stepped, accounted⟩ := accounted.step possible.1
      rw [QueueUse.run, List.foldlM_cons, stepped]
      exact induction accounted (possible.2 next stepped)

/-- However the threads interleave, the messages are taken in the order in which they were added,
each of them once, by one thread; the length is exact, and no thread sleeps while a
message waits. -/
theorem threadQueue_fifo (events : List (QueueEvent Thread))
    (possible : (initial : QueueUse Thread).AllPossible events) :
    ∃ state waiting, (initial : QueueUse Thread).run events = .ok state ∧
      state.added = state.taken.map Prod.snd ++ waiting ∧ state.queue.length = waiting.length ∧
      (waiting ≠ [] → ∀ thread timed, state.threads thread ≠ .asleep timed) := by
  obtain ⟨state, cells, pool, result, accounted⟩ := initial_accounted.run possible
  refine ⟨state, messages cells, result, accounted.order, ?_, fun more => accounted.awake ?_⟩
  · rw [messages, List.length_map]
    exact accounted.keeps.counted
  · rintro rfl
    exact more rfl

/-- A thread falls asleep with a deadline, and is woken by a message. -/
theorem threadQueue_fifo_woken :
    ∃ state waiting, (initial : QueueUse Bool).run
        [.get true true, .add (some 5) 0 (some 1), .resume true] = .ok state ∧
      state.added = state.taken.map Prod.snd ++ waiting ∧ state.queue.length = waiting.length ∧
      (waiting ≠ [] → ∀ thread timed, state.threads thread ≠ .asleep timed) := by
  apply threadQueue_fifo
  refine ⟨rfl, fun asleep slept => ⟨fun address _ => ?_, fun added result => ⟨trivial, ?_⟩⟩⟩
  · cases slept
    rfl
  · exact fun _ _ => trivial

/-- After any run the nodes are those of the messages that wait and at most as many more as make 32;
`thread_queue_cleanup` frees each of them once, and the data of each message that waits. -/
theorem threadQueue_memory (events : List (QueueEvent Thread))
    (possible : (initial : QueueUse Thread).AllPossible events) :
    ∃ (state : QueueUse Thread) (nodes : List Nat) (waiting : List Threadmsg),
      (initial : QueueUse Thread).run events = .ok state ∧
      state.added = state.taken.map Prod.snd ++ waiting ∧ nodes.Nodup ∧
      nodes.length ≤ max 32 waiting.length ∧
      (∀ address, (state.queue.memory address).isSome ↔ address ∈ nodes) ∧
      ∀ fuel ≥ nodes.length, ∀ freedata,
        state.queue.threadQueueCleanup fuel freedata = .ok (some (fun _ => none,
          if freedata then waiting.filterMap Threadmsg.data else [])) := by
  obtain ⟨state, cells, pool, result, accounted⟩ := initial_accounted.run possible
  have keeps := accounted.keeps
  refine ⟨state, (cells ++ pool).map Prod.fst, messages cells, result, accounted.order,
    keeps.distinct, ?_, fun address => ⟨?_, ?_⟩, ?_⟩
  · rw [messages, List.length_map, List.length_map, List.length_append]
    rcases keeps.bounded with rfl | few
    · exact Nat.le_max_right _ _
    · exact Nat.le_trans few (Nat.le_max_left _ _)
  · intro allocated
    by_contra elsewhere
    rw [keeps.owned address elsewhere] at allocated
    exact Bool.false_ne_true allocated
  · intro member
    obtain ⟨cell, within, rfl⟩ := List.mem_map.mp member
    rcases List.mem_append.mp within with queued | pooled
    · rw [keeps.queued.present queued]
      rfl
    · rw [keeps.pooled.present pooled]
      rfl
  · intro fuel enough freedata
    rw [List.length_map] at enough
    exact keeps.threadQueueCleanup enough freedata

/-- A node is kept in the pool, and freed from there. -/
theorem threadQueue_memory_pooled :
    ∃ (state : QueueUse Bool) (nodes : List Nat) (waiting : List Threadmsg),
      (initial : QueueUse Bool).run [.add (some 5) 0 (some 1), .get true true] = .ok state ∧
      state.added = state.taken.map Prod.snd ++ waiting ∧ nodes.Nodup ∧
      nodes.length ≤ max 32 waiting.length ∧
      (∀ address, (state.queue.memory address).isSome ↔ address ∈ nodes) ∧
      ∀ fuel ≥ nodes.length, ∀ freedata,
        state.queue.threadQueueCleanup fuel freedata = .ok (some (fun _ => none,
          if freedata then waiting.filterMap Threadmsg.data else [])) := by
  apply threadQueue_memory
  refine ⟨fun _ _ => rfl, fun added result => ⟨?_, fun _ _ => trivial⟩⟩
  cases result
  rfl

end QueueUse

end Pianod
