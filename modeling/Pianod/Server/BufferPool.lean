import Mathlib.Data.List.Nodup
import Mathlib.Data.List.Perm.Basic
import Mathlib.Logic.Function.Basic
import Mathlib.Tactic.Common

/-!
# The buffers of the Shoutcast stream

The player copies its data into buffers and the streaming thread lets go of them.  Up to four
buffers wait on a free list, and at most nine are outstanding; a larger request gets a buffer of its
own, which is neither counted nor kept.
-/

namespace Pianod

/-- The size of the free list. -/
def icyMax : Int := 4

def icyBfrmaxq : Int := 2 * icyMax

/-- A buffer of the stream and one audio frame. -/
def icyBufsize : Nat := 10 * 1024 + 144 * (192000 / 44100)

/-- The link that marks a buffer to be freed when done. -/
def specialLink : Option Nat := some 0xFFFFFFFF

structure StreamData where
  /-- How many bytes it holds. -/
  len : Nat
  /-- The next buffer of the free list. -/
  next : Option Nat
deriving DecidableEq, Repr

structure BufferPool where
  /-- The first buffer of the free list. -/
  icyHead : Option Nat
  /-- How many buffers are outstanding. -/
  icyBufcnt : Int
  /-- The allocated buffers at their addresses. -/
  memory : Nat → Option StreamData

namespace BufferPool

def write (pool : BufferPool) (address : Nat) (data : StreamData) : BufferPool :=
  { pool with memory := Function.update pool.memory address (some data) }

def free (pool : BufferPool) (address : Nat) : BufferPool :=
  { pool with memory := Function.update pool.memory address none }

/-- The link of the buffer at an address. -/
def next (pool : BufferPool) (address : Nat) : Option Nat :=
  (pool.memory address).bind StreamData.next

/-- Allocate a buffer of some length; `malloc` is what the system answers if it is asked. -/
def scBufferGet (pool : BufferPool) (len : Nat) (malloc : Option Nat) :
    Option Nat × BufferPool :=
  if pool.icyBufcnt > icyBfrmaxq then (none, pool)
  else if len ≤ icyBufsize then
    match pool.icyHead with
    | some newbuf =>
        (some newbuf, { pool with icyHead := pool.next newbuf }.write newbuf ⟨len, none⟩)
    | none =>
        let drawn := { pool with icyBufcnt := pool.icyBufcnt + 1 }
        match malloc with
        | some newbuf => (some newbuf, drawn.write newbuf ⟨len, none⟩)
        | none => (none, { drawn with icyBufcnt := drawn.icyBufcnt - 1 })
  else
    match malloc with
    | some newbuf => (some newbuf, pool.write newbuf ⟨len, specialLink⟩)
    | none => (none, pool)

/-- Let go of a buffer: free it if it is special or the pool is full. -/
def scBufferRelease (pool : BufferPool) (bfr : Nat) : BufferPool :=
  if pool.next bfr = specialLink then pool.free bfr
  else if pool.icyBufcnt > icyMax then
    { pool with icyBufcnt := pool.icyBufcnt - 1 }.free bfr
  else
    { pool with
      icyHead := some bfr
      memory := Function.update pool.memory bfr
        ((pool.memory bfr).map fun data => { data with next := pool.icyHead }) }

/-- The free list, followed from its head. -/
def Chained (memory : Nat → Option StreamData) : Option Nat → List Nat → Prop
  | head, [] => head = none
  | head, address :: rest =>
      head = some address ∧ ∃ data, memory address = some data ∧ Chained memory data.next rest

end BufferPool

/-- The pool and the buffers that were obtained and not yet released. -/
structure PoolUse where
  pool : BufferPool
  inUse : List Nat

inductive PoolEvent
  | get (len : Nat) (malloc : Option Nat)
  | release (bfr : Nat)

namespace PoolUse

/-- No buffer was ever asked for. -/
def initial : PoolUse := ⟨⟨none, 0, fun _ => none⟩, []⟩

def step (state : PoolUse) : PoolEvent → PoolUse
  | .get len malloc =>
      let (newbuf, pool) := state.pool.scBufferGet len malloc
      ⟨pool, newbuf.toList ++ state.inUse⟩
  | .release bfr => ⟨state.pool.scBufferRelease bfr, state.inUse.erase bfr⟩

/-- The system answers with memory that is not allocated; only a buffer in use is released. -/
def Possible (state : PoolUse) : PoolEvent → Prop
  | .get _ malloc => ∀ address ∈ malloc, state.pool.memory address = none
  | .release bfr => bfr ∈ state.inUse

def run (state : PoolUse) (events : List PoolEvent) : PoolUse := events.foldl step state

/-- Every event is possible when it happens. -/
def AllPossible : PoolUse → List PoolEvent → Prop
  | _, [] => True
  | state, event :: events => state.Possible event ∧ AllPossible (state.step event) events

/-- The buffers in use that were taken from the pool. -/
def poolBuffers (state : PoolUse) : List Nat :=
  state.inUse.filter fun address => state.pool.next address ≠ specialLink

/-- The free list and the buffers in use are apart. -/
structure Separate (state : PoolUse) (free : List Nat) : Prop where
  chained : BufferPool.Chained state.pool.memory state.pool.icyHead free
  distinct : (free ++ state.inUse).Nodup
  allocated : ∀ address ∈ state.inUse, (state.pool.memory address).isSome

/-- What the pool's count, its free list and the buffers in use agree on. -/
structure Accounted (state : PoolUse) (free : List Nat) : Prop extends Separate state free where
  counted : state.pool.icyBufcnt = state.poolBuffers.length + free.length
  limited : state.pool.icyBufcnt ≤ 9
  spare : free = [] ∨ state.pool.icyBufcnt ≤ 4
  owned : ∀ address, (state.pool.memory address).isSome → address ∈ free ++ state.inUse

end PoolUse

/-! ## Memory -/

namespace BufferPool

private theorem next_update_self (head : Option Nat) (count : Int)
    (memory : Nat → Option StreamData) (address : Nat) (data : StreamData) :
    next ⟨head, count, Function.update memory address (some data)⟩ address = data.next := by
  simp [next]

private theorem next_update_of_ne (head : Option Nat) (count : Int) (pool : BufferPool)
    (written : Option StreamData) {address other : Nat} (different : other ≠ address) :
    next ⟨head, count, Function.update pool.memory address written⟩ other = pool.next other := by
  simp [next, different]

theorem Chained.isSome {memory : Nat → Option StreamData} {head : Option Nat} {free : List Nat}
    (chained : Chained memory head free) {address : Nat} (member : address ∈ free) :
    (memory address).isSome := by
  induction free generalizing head with
  | nil => simp at member
  | cons first rest induction =>
      obtain ⟨-, data, present, chained⟩ := chained
      rcases List.mem_cons.mp member with rfl | member
      · simp [present]
      · exact induction chained member

/-- Writing outside the free list leaves it as it is. -/
theorem Chained.update {memory : Nat → Option StreamData} {head : Option Nat} {free : List Nat}
    (chained : Chained memory head free) {address : Nat} (outside : address ∉ free)
    (written : Option StreamData) :
    Chained (Function.update memory address written) head free := by
  induction free generalizing head with
  | nil => exact chained
  | cons first rest induction =>
      obtain ⟨rfl, data, present, chained⟩ := chained
      simp only [List.mem_cons, not_or] at outside
      exact ⟨rfl, data, by simpa [Ne.symm outside.1] using present, induction chained outside.2⟩

/-- Writing at an address keeps what is allocated among the addresses that are accounted for. -/
theorem owned_update {memory : Nat → Option StreamData} {owners owners' : List Nat} {address : Nat}
    {written : Option StreamData} (owned : ∀ other, (memory other).isSome → other ∈ owners)
    (kept : ∀ other ∈ owners, other ≠ address → other ∈ owners')
    (held : written.isSome → address ∈ owners') (other : Nat)
    (allocated : (Function.update memory address written other).isSome) : other ∈ owners' := by
  by_cases same : other = address
  · subst same
    rw [Function.update_self] at allocated
    exact held allocated
  · rw [Function.update_of_ne same] at allocated
    exact kept other (owned other allocated) same

theorem Chained.head_eq {memory : Nat → Option StreamData} {head : Option Nat} {free : List Nat}
    (chained : Chained memory head free) : head = free.head? := by
  cases free with
  | nil => exact chained
  | cons first rest => exact chained.1

end BufferPool

namespace PoolUse

open BufferPool

variable {state : PoolUse} {free : List Nat}

/-! ## Obtaining a buffer -/

theorem poolBuffers_update {inUse : List Nat} {address : Nat} (outside : address ∉ inUse)
    (head : Option Nat) (count : Int) (pool : BufferPool) (written : Option StreamData) :
    (PoolUse.mk ⟨head, count, Function.update pool.memory address written⟩ inUse).poolBuffers =
      (PoolUse.mk pool inUse).poolBuffers := by
  apply List.filter_congr
  intro other member
  rw [next_update_of_ne]
  exact fun same => outside (same ▸ member)

/-- A buffer from elsewhere is written and handed out. -/
theorem Separate.handOut (separate : state.Separate free) {address : Nat}
    (outside : address ∉ free ++ state.inUse) (count : Int) (data : StreamData) :
    Separate ⟨⟨state.pool.icyHead, count,
      Function.update state.pool.memory address (some data)⟩, address :: state.inUse⟩ free where
  chained := separate.chained.update (fun member => outside (by simp [member])) _
  distinct := by
    refine (List.perm_middle.nodup_iff).mpr ?_
    exact List.nodup_cons.mpr ⟨outside, separate.distinct⟩
  allocated := by
    intro other member
    by_cases same : other = address
    · simp [same]
    · have inUse : other ∈ state.inUse := by simpa [same] using member
      simpa [same] using separate.allocated other inUse

theorem poolBuffers_handOut {address : Nat} (outside : address ∉ state.inUse)
    (head : Option Nat) (count : Int) (data : StreamData) :
    (PoolUse.mk ⟨head, count, Function.update state.pool.memory address (some data)⟩
      (address :: state.inUse)).poolBuffers =
      if data.next ≠ specialLink then address :: state.poolBuffers else state.poolBuffers := by
  have others := poolBuffers_update outside head count state.pool (some data)
  simp only [poolBuffers] at others ⊢
  rw [List.filter_cons, others, next_update_self]
  simp

/-- The first free buffer is taken off the list. -/
theorem Separate.tail {address : Nat} (separate : state.Separate (address :: free)) :
    Separate ⟨{ state.pool with icyHead := state.pool.next address }, state.inUse⟩ free ∧
      address ∉ free ++ state.inUse := by
  obtain ⟨-, data, present, chained⟩ := separate.chained
  obtain ⟨outside, distinct⟩ := List.nodup_cons.mp separate.distinct
  refine ⟨⟨?_, distinct, separate.allocated⟩, outside⟩
  simpa [next, present] using chained

private theorem Separate.not_mem_of_unallocated (separate : state.Separate free) {address : Nat}
    (unallocated : state.pool.memory address = none) : address ∉ free ++ state.inUse := by
  intro member
  rcases List.mem_append.mp member with member | member
  · have := separate.chained.isSome member
    simp [unallocated] at this
  · have := separate.allocated address member
    simp [unallocated] at this

/-- What a request comes to. -/
theorem scBufferGet_cases (pool : BufferPool) (len : Nat) (malloc : Option Nat) :
    (pool.scBufferGet len malloc = (none, pool) ∧
      (pool.icyBufcnt > 8 ∨ malloc = none ∧ (len ≤ icyBufsize → pool.icyHead = none))) ∨
    (∃ newbuf, pool.icyHead = some newbuf ∧ pool.scBufferGet len malloc =
      (some newbuf, ⟨pool.next newbuf, pool.icyBufcnt,
        Function.update pool.memory newbuf (some ⟨len, none⟩)⟩)) ∨
    (∃ newbuf, malloc = some newbuf ∧ pool.icyHead = none ∧ pool.icyBufcnt ≤ 8 ∧
      pool.scBufferGet len malloc = (some newbuf, ⟨none, pool.icyBufcnt + 1,
        Function.update pool.memory newbuf (some ⟨len, none⟩)⟩)) ∨
    (∃ newbuf, malloc = some newbuf ∧ pool.scBufferGet len malloc =
      (some newbuf, ⟨pool.icyHead, pool.icyBufcnt,
        Function.update pool.memory newbuf (some ⟨len, specialLink⟩)⟩)) := by
  obtain ⟨head, count, memory⟩ := pool
  unfold scBufferGet icyBfrmaxq icyMax write
  by_cases overdrawn : count > 8
  · left
    simp [overdrawn]
  · have admitted : count ≤ 8 := Int.not_lt.mp overdrawn
    by_cases small : len ≤ icyBufsize
    · cases head with
      | some newbuf => simp [overdrawn, small]
      | none =>
          cases malloc with
          | some newbuf => simp [overdrawn, small, admitted]
          | none => simp [overdrawn, small]
    · cases malloc with
      | some newbuf => simp [overdrawn, small]
      | none => simp [overdrawn, small]

theorem get_accounted (accounted : state.Accounted free) {len : Nat} {malloc : Option Nat}
    (possible : state.Possible (.get len malloc)) :
    ∃ free, (state.step (.get len malloc)).Accounted free := by
  obtain ⟨separate, counted, limited, spare, owned⟩ := accounted
  have fresh (address : Nat) (answered : malloc = some address) :
      address ∉ free ++ state.inUse :=
    separate.not_mem_of_unallocated (possible address answered)
  have head := separate.chained.head_eq
  simp only [step]
  rcases scBufferGet_cases state.pool len malloc with
    ⟨result, -⟩ | ⟨newbuf, available, result⟩ | ⟨newbuf, answered, empty, admitted, result⟩ |
      ⟨newbuf, answered, result⟩
  · rw [result]
    exact ⟨free, separate, counted, limited, spare, owned⟩
  · -- A free buffer is reused: the count stays, and it was at most four.
    rw [result]
    cases free with
    | nil => simp [available] at head
    | cons first rest =>
        obtain rfl : newbuf = first := by simpa [available] using head
        obtain ⟨tail, outside⟩ := separate.tail
        have outside' : newbuf ∉ state.inUse := fun member => outside (by simp [member])
        have few : state.pool.icyBufcnt ≤ 4 := by simpa using spare
        refine ⟨rest, tail.handOut outside _ _, ?_, limited, .inr few,
          owned_update owned (fun other member different => ?_) (fun _ => by simp)⟩
        · simp only [Option.toList_some, List.singleton_append, poolBuffers_handOut outside']
          simp [specialLink, counted]
          omega
        · simpa [different] using member
  · -- The pool grows only while the free list is empty.
    rw [result]
    cases free with
    | cons first rest => simp [empty] at head
    | nil =>
        have outside := fresh newbuf answered
        refine ⟨[], empty ▸ separate.handOut outside _ _, ?_, ?_, .inl rfl,
          owned_update owned (fun other member _ => ?_) (fun _ => by simp)⟩
        · simp only [Option.toList_some, List.singleton_append,
            poolBuffers_handOut (show newbuf ∉ state.inUse from outside)]
          simp [specialLink, counted]
        · simp only
          omega
        · exact List.mem_cons_of_mem _ member
  · rw [result]
    have outside := fresh newbuf answered
    have outside' : newbuf ∉ state.inUse := fun member => outside (by simp [member])
    refine ⟨free, separate.handOut outside _ _, ?_, limited, spare,
      owned_update owned (fun other member different => ?_) (fun _ => by simp)⟩
    · simp only [Option.toList_some, List.singleton_append, poolBuffers_handOut outside']
      simpa using counted
    · simpa [different] using member

/-! ## Letting go of a buffer -/

private theorem poolBuffers_erase {address : Nat} (member : address ∈ state.inUse) :
    (PoolUse.mk state.pool (state.inUse.erase address)).poolBuffers.length +
      (if state.pool.next address ≠ specialLink then 1 else 0) = state.poolBuffers.length := by
  have reordered := ((List.perm_cons_erase member).filter fun other =>
    state.pool.next other ≠ specialLink).length_eq
  unfold poolBuffers
  rw [reordered, List.filter_cons]
  split <;> simp_all

private theorem Separate.giveBack (separate : state.Separate free) {address : Nat}
    (member : address ∈ state.inUse) (count : Int) (written : Option StreamData) :
    Separate ⟨⟨state.pool.icyHead, count, Function.update state.pool.memory address written⟩,
      state.inUse.erase address⟩ free ∧ address ∉ free ∧ address ∉ state.inUse.erase address := by
  obtain ⟨freeDistinct, inUseDistinct, apart⟩ := List.nodup_append.mp separate.distinct
  have outsideFree : address ∉ free := fun inFree => apart address inFree address member rfl
  have outside : address ∉ state.inUse.erase address := fun again =>
    (inUseDistinct.mem_erase_iff.mp again).1 rfl
  refine ⟨⟨separate.chained.update outsideFree _, ?_, ?_⟩, outsideFree, outside⟩
  · refine List.nodup_append.mpr ⟨freeDistinct, inUseDistinct.erase address, ?_⟩
    exact fun a inFree b inUse => apart a inFree b (List.mem_of_mem_erase inUse)
  · intro other inUse
    have different : other ≠ address := fun same => outside (same ▸ inUse)
    simpa [different] using separate.allocated other (List.mem_of_mem_erase inUse)

theorem release_accounted (accounted : state.Accounted free) {bfr : Nat}
    (possible : state.Possible (.release bfr)) :
    ∃ free, (state.step (.release bfr)).Accounted free := by
  obtain ⟨separate, counted, limited, spare, owned⟩ := accounted
  have member : bfr ∈ state.inUse := possible
  have fewer := poolBuffers_erase member
  have separated := separate.giveBack member
  have outside := (separated 0 none).2.2
  have others : ∀ other ∈ free ++ state.inUse, other ≠ bfr →
      other ∈ free ++ state.inUse.erase bfr := by
    intro other member different
    simpa [List.mem_erase_of_ne different] using member
  simp only [step, scBufferRelease]
  split
  case isTrue special =>
    refine ⟨free, (separated _ none).1, ?_, limited, spare, owned_update owned others nofun⟩
    simp only [BufferPool.free]
    rw [poolBuffers_update outside, counted]
    simp only [special, ne_eq, not_true_eq_false, if_false] at fewer
    simp [← fewer]
  case isFalse pooled =>
    simp only [ne_eq, pooled, not_false_eq_true, if_true] at fewer
    split
    case isTrue many =>
      have many : 4 < state.pool.icyBufcnt := many
      refine ⟨free, (separated _ none).1, ?_, ?_, ?_, owned_update owned others nofun⟩
      · simp only [BufferPool.free]
        rw [poolBuffers_update outside, counted]
        omega
      · simp only [BufferPool.free]
        omega
      · left
        rcases spare with spare | spare
        · exact spare
        · omega
    case isFalse few =>
      have few : state.pool.icyBufcnt ≤ 4 := Int.not_lt.mp few
      obtain ⟨data, present⟩ := Option.isSome_iff_exists.mp (separate.allocated bfr member)
      obtain ⟨given, outsideFree, -⟩ := separated state.pool.icyBufcnt
        ((state.pool.memory bfr).map fun data => { data with next := state.pool.icyHead })
      refine ⟨bfr :: free, ⟨⟨rfl, { data with next := state.pool.icyHead }, ?_, given.chained⟩,
        ?_, given.allocated⟩, ?_, limited, .inr few, owned_update owned
          (fun other member different => List.mem_cons_of_mem _ (others other member different))
          (fun _ => List.mem_cons_self)⟩
      · simp [present]
      · refine List.nodup_cons.mpr ⟨?_, given.distinct⟩
        simp [outsideFree, outside]
      · rw [poolBuffers_update outside, counted]
        simp only [List.length_cons]
        omega

/-! ## Whole runs -/

private theorem step_accounted (accounted : state.Accounted free) {event : PoolEvent}
    (possible : state.Possible event) : ∃ free, (state.step event).Accounted free := by
  cases event with
  | get len malloc => exact get_accounted accounted possible
  | release bfr => exact release_accounted accounted possible

private theorem run_accounted (accounted : state.Accounted free) {events : List PoolEvent}
    (possible : state.AllPossible events) : ∃ free, (state.run events).Accounted free := by
  induction events generalizing state free with
  | nil => exact ⟨free, accounted⟩
  | cons event events induction =>
      obtain ⟨free, accounted⟩ := step_accounted accounted possible.1
      exact induction accounted possible.2

theorem initial_accounted : initial.Accounted [] where
  chained := rfl
  distinct := List.nodup_nil
  allocated := by simp [initial]
  counted := rfl
  limited := by decide
  spare := .inl rfl
  owned := by simp [initial]

/-- A pool request is refused only when nine buffers are in use or the system has no memory. -/
theorem refused_cases (accounted : state.Accounted free) {len : Nat} (small : len ≤ icyBufsize)
    {malloc : Option Nat} (refused : (state.pool.scBufferGet len malloc).1 = none) :
    state.poolBuffers.length = 9 ∨ free = [] ∧ malloc = none := by
  have head := accounted.chained.head_eq
  rcases scBufferGet_cases state.pool len malloc with
    ⟨-, reason⟩ | ⟨newbuf, available, result⟩ | ⟨newbuf, -, -, -, result⟩ | ⟨newbuf, -, result⟩
  · rcases reason with overdrawn | ⟨unanswered, empty⟩
    · have emptied : free = [] := by
        rcases accounted.spare with emptied | few
        · exact emptied
        · omega
      have counted := accounted.counted
      have limited := accounted.limited
      simp only [emptied, List.length_nil] at counted
      omega
    · rw [empty small] at head
      exact .inr ⟨List.head?_eq_none_iff.mp head.symm, unanswered⟩
  · simp [result] at refused
  · simp [result] at refused
  · simp [result] at refused

/-- The pool's accounting after any sequence of requests and releases. -/
theorem bufferPool_accounting (events : List PoolEvent) (possible : initial.AllPossible events) :
    ∃ free, Chained (initial.run events).pool.memory (initial.run events).pool.icyHead free ∧
      (initial.run events).pool.icyBufcnt =
        (initial.run events).poolBuffers.length + free.length ∧
      (initial.run events).pool.icyBufcnt ≤ 9 ∧
      (free ++ (initial.run events).inUse).Nodup ∧ free.length ≤ 4 ∧
      ∀ len ≤ icyBufsize, ∀ malloc,
        ((initial.run events).pool.scBufferGet len malloc).1 = none →
          (initial.run events).poolBuffers.length = 9 ∨ free = [] ∧ malloc = none := by
  obtain ⟨free, accounted⟩ := run_accounted initial_accounted possible
  refine ⟨free, accounted.chained, accounted.counted, accounted.limited, accounted.distinct, ?_,
    fun len small malloc => refused_cases accounted small⟩
  have counted := accounted.counted
  rcases accounted.spare with rfl | few
  · simp
  · omega

theorem bufferPool_accounting_reuse :
    ∃ free, Chained (initial.run [.get 7 (some 1), .get 9 (some 2), .release 1]).pool.memory
        (initial.run [.get 7 (some 1), .get 9 (some 2), .release 1]).pool.icyHead free ∧
      (initial.run [.get 7 (some 1), .get 9 (some 2), .release 1]).pool.icyBufcnt =
        (initial.run [.get 7 (some 1), .get 9 (some 2), .release 1]).poolBuffers.length +
          free.length ∧
      (initial.run [.get 7 (some 1), .get 9 (some 2), .release 1]).pool.icyBufcnt ≤ 9 ∧
      (free ++ (initial.run [.get 7 (some 1), .get 9 (some 2), .release 1]).inUse).Nodup ∧
      free.length ≤ 4 ∧
      ∀ len ≤ icyBufsize, ∀ malloc,
        ((initial.run [.get 7 (some 1), .get 9 (some 2), .release 1]).pool.scBufferGet len
          malloc).1 = none →
        (initial.run [.get 7 (some 1), .get 9 (some 2), .release 1]).poolBuffers.length = 9 ∨
          free = [] ∧ malloc = none :=
  bufferPool_accounting [.get 7 (some 1), .get 9 (some 2), .release 1]
    (by simp [AllPossible, Possible, step, initial, scBufferGet, icyBfrmaxq, icyMax, icyBufsize,
      write])

end PoolUse

end Pianod
