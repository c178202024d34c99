import Pianod.Server.BufferPool
import Pianod.Server.ThreadQueue
import Pianod.Foundation.Text

/-!
# The Shoutcast stream

The player fills buffers and puts them into the queue, and the service thread sends them, over as
many connections as it takes.  The two interleave between the calls they make; what the libraries
answer is part of each event.
-/

namespace Pianod

open Foundation

def scData : Int := 1

def scPause : Int := 2

def scQuit : Int := 3

inductive ScState where
  | idle
  | quit
  | running
deriving DecidableEq, Repr

/-- Where the service thread is, by the call it makes next. -/
inductive ScPlace where
  | start
  | connected
  | reconnect
  | get
  | silence
  | handle
  | release
  | ended
deriving DecidableEq, Repr

/-- Where the player is: without a buffer, with one that it filled with bytes, or past the test in
`sc_queue_add` with it. -/
inductive PlayerPlace where
  | idle
  | filled (sdata : Nat) (bytes : Text)
  | admitted (sdata : Nat) (bytes : Text)
deriving DecidableEq, Repr

/-- The service, what its buffers hold, and what was put into the queue, sent, and lost; and what
had been put into the queue when the thread was asked to end. -/
structure StreamService where
  state : ScState
  /-- Whether the stream is paused. -/
  paused : Bool
  /-- The messages that wait. -/
  scQueue : Threadqueue
  /-- The buffers and who has them. -/
  buffers : PoolUse
  /-- What each buffer holds. -/
  buf : Nat → Text
  /-- The call that the thread makes next. -/
  place : ScPlace
  /-- Whether the thread has a message to send again. -/
  retry : Bool
  /-- The message that the thread took last. -/
  msg : Threadmsg
  /-- Where the player is. -/
  player : PlayerPlace
  /-- What was put into the queue. -/
  queued : List Text
  /-- What was sent. -/
  sent : List Text
  /-- The buffers for which there was no node. -/
  lost : List Nat
  /-- What had been queued when the thread was asked to end. -/
  asked : Option (List Text)

inductive ScEvent where
  | fill (bytes : Text) (malloc : Option Nat)
  | offer
  | add (malloc : Option Nat)
  | quit
  | addQuit (malloc : Option Nat)
  | thread (answer : Bool)

namespace StreamService

/-- After `sc_start_service`, before the thread runs. -/
def initial (buf : Nat → Text) : StreamService :=
  ⟨.idle, true, .init, .initial, buf, .start, false, ⟨none, 0⟩, .idle, [], [], [], none⟩

/-- The bytes of a buffer that are to be sent. -/
def data (service : StreamService) (sdata : Nat) : Text :=
  (service.buf sdata).take (((service.buffers.pool.memory sdata).map StreamData.len).getD 0)

/-- Get a buffer and copy the player's bytes into it. -/
def fill (service : StreamService) (bytes : Text) (malloc : Option Nat) : StreamService :=
  let (sdata, _) := service.buffers.pool.scBufferGet bytes.length malloc
  let buffers := service.buffers.step (.get bytes.length malloc)
  match sdata with
  | none => { service with buffers := buffers }
  | some sdata => { service with
      buffers := buffers
      buf := Function.update service.buf sdata (bytes ++ (service.buf sdata).drop bytes.length)
      player := .filled sdata bytes }

/-- The start of `sc_queue_add`: without the thread the buffer is dumped. -/
def offer (service : StreamService) : StreamService :=
  match service.player with
  | .filled sdata bytes =>
      if service.state ≠ .running then
        { service with buffers := service.buffers.step (.release sdata), player := .idle }
      else { service with player := .admitted sdata bytes }
  | _ => service

/-- The end of `sc_queue_add`; a buffer for which there is no node is not let go of. -/
def add (service : StreamService) (malloc : Option Nat) : Except Fault StreamService :=
  match service.player with
  | .admitted sdata bytes => do
      let (result, _, scQueue) ← service.scQueue.threadQueueAdd (some sdata) scData malloc
      if result = .success then
        return { service with
          scQueue := scQueue, player := .idle, queued := service.queued ++ [bytes] }
      else return { service with
        scQueue := scQueue, player := .idle, lost := sdata :: service.lost }
  | _ => return service

/-- What `sc_close_service` adds to the queue. -/
def addQuit (service : StreamService) (malloc : Option Nat) : Except Fault StreamService := do
  let (result, _, scQueue) ← service.scQueue.threadQueueAdd none scQuit malloc
  return { service with
    scQueue := scQueue
    asked := if result = .success then service.asked.or (some service.queued) else service.asked }

/-- Handle a message; the answer is whether `shout_send` succeeds. -/
def handle (service : StreamService) (answer : Bool) : Except Fault StreamService :=
  if service.msg.msgtype = scData then
    match service.msg.data with
    | none => .error .nullDereference
    | some sdata =>
        if answer then return { service with
          place := .release, sent := service.sent ++ [service.data sdata] }
        else return { service with place := .reconnect, retry := true }
  else if service.msg.msgtype = scQuit then
    return { service with place := .ended, state := .idle }
  else if service.msg.msgtype = scPause then
    return { service with place := .connected, paused := !service.paused }
  else return { service with place := .connected }

/-- The next call of `sc_service_thread`.  The answer is whether it is connected, whether
`shout_open` succeeds, whether the queue timed out, and whether `shout_send` succeeds. -/
def scServiceThread (service : StreamService) (answer : Bool) : Except Fault StreamService :=
  match service.place with
  | .start => return { service with state := .running, place := .connected }
  | .connected => return { service with
      place := if answer then (if service.retry then .handle else .get) else .reconnect }
  | .reconnect => return { service with
      place := if answer ∨ service.state = .quit then .connected else .reconnect }
  | .get =>
      if answer then return { service with place := .silence }
      else if service.scQueue.first = none then return service
      else do
        let (msg, _, scQueue) ← service.scQueue.take
        return { service with scQueue := scQueue, msg := msg, place := .handle }
  | .silence => return { service with place := if answer then .connected else .reconnect }
  | .handle => service.handle answer
  | .release =>
      match service.msg.data with
      | none => .error .nullDereference
      | some sdata => return { service with
          buffers := service.buffers.step (.release sdata), place := .connected, retry := false }
  | .ended => return service

def step (service : StreamService) : ScEvent → Except Fault StreamService
  | .fill bytes malloc => return service.fill bytes malloc
  | .offer => return service.offer
  | .add malloc => service.add malloc
  | .quit => return { service with state := .quit }
  | .addQuit malloc => service.addQuit malloc
  | .thread answer => service.scServiceThread answer

def run (service : StreamService) (events : List ScEvent) : Except Fault StreamService :=
  events.foldlM step service

/-- The end of `sc_close_service`, once the thread is joined: the nodes of the queue and the buffers
of the free list are freed.  The fuel bounds how many there are. -/
def scCloseService (service : StreamService) (fuel : Nat) :
    Except Fault (Option StreamService) := do
  match ← service.scQueue.threadQueueCleanup fuel false with
  | none => return none
  | some (nodes, _) =>
      match ← freeNodes StreamData.next fuel service.buffers.pool.memory
          service.buffers.pool.icyHead with
      | none => return none
      | some (memory, _) => return some { service with
          scQueue := { service.scQueue with memory := nodes }
          buffers := { service.buffers with
            pool := { service.buffers.pool with icyHead := none, memory := memory } } }

/-- The system answers with memory that is not allocated; the player has one buffer at a time. -/
def Possible (service : StreamService) : ScEvent → Prop
  | .fill _ malloc => service.player = .idle ∧
      ∀ address ∈ malloc, service.buffers.pool.memory address = none
  | .add malloc | .addQuit malloc => ∀ address ∈ malloc, service.scQueue.memory address = none
  | _ => True

/-- Every event is possible when it happens. -/
def AllPossible : StreamService → List ScEvent → Prop
  | _, [] => True
  | service, event :: events => service.Possible event ∧
      ∀ next, service.step event = .ok next → AllPossible next events

/-! ## The accounts -/

/-- The buffer that the player has. -/
def held (service : StreamService) : List Nat :=
  match service.player with
  | .idle => []
  | .filled sdata _ | .admitted sdata _ => [sdata]

/-- The message that the thread has taken and not sent. -/
def pending (service : StreamService) : List Threadmsg :=
  if service.place = .handle ∨ service.retry = true ∧ service.place ≠ .release then [service.msg]
  else []

/-- The message that the thread has taken and not let go of. -/
def current (service : StreamService) : List Threadmsg :=
  if service.place = .handle ∨ service.place = .release ∨ service.retry = true then [service.msg]
  else []

/-- The bytes of a message. -/
def payload (service : StreamService) (msg : Threadmsg) : Option Text :=
  msg.data.map service.data

/-- The messages of this program are data with a buffer, or the one that ends the thread. -/
def WellFormed (msg : Threadmsg) : Prop :=
  msg.msgtype = scData ∧ msg.data.isSome ∨ msg = ⟨none, scQuit⟩

end StreamService

/-! ## Buffers of others -/

namespace PoolUse

variable {state : PoolUse} {free : List Nat}

theorem Accounted.inUse_nodup (accounted : state.Accounted free) : state.inUse.Nodup :=
  accounted.distinct.of_append_right

private theorem release_memory (state : PoolUse) {bfr other : Nat} (different : other ≠ bfr) :
    (state.step (.release bfr)).pool.memory other = state.pool.memory other := by
  change (state.pool.scBufferRelease bfr).memory other = _
  unfold BufferPool.scBufferRelease
  split
  · exact Function.update_of_ne different _ _
  · split
    · exact Function.update_of_ne different _ _
    · exact Function.update_of_ne different _ _

/-- A request is refused, or hands out a buffer that was not in use, and does not touch
the others. -/
theorem Accounted.get_cases (accounted : state.Accounted free) {len : Nat} {malloc : Option Nat}
    (possible : state.Possible (.get len malloc)) :
    ((state.pool.scBufferGet len malloc).1 = none ∧ state.step (.get len malloc) = state) ∨
    ∃ newbuf, (state.pool.scBufferGet len malloc).1 = some newbuf ∧
      (state.step (.get len malloc)).inUse = newbuf :: state.inUse ∧ newbuf ∉ state.inUse ∧
      (∃ link, (state.step (.get len malloc)).pool.memory newbuf = some ⟨len, link⟩) ∧
      ∀ other ≠ newbuf,
        (state.step (.get len malloc)).pool.memory other = state.pool.memory other := by
  obtain ⟨free', accounted'⟩ := get_accounted accounted possible
  have distinct := accounted'.inUse_nodup
  have handsOut : ∀ newbuf head count link, state.pool.scBufferGet len malloc =
      (some newbuf, ⟨head, count, Function.update state.pool.memory newbuf (some ⟨len, link⟩)⟩) →
      ∃ newbuf, (state.pool.scBufferGet len malloc).1 = some newbuf ∧
        (state.step (.get len malloc)).inUse = newbuf :: state.inUse ∧ newbuf ∉ state.inUse ∧
        (∃ link, (state.step (.get len malloc)).pool.memory newbuf = some ⟨len, link⟩) ∧
        ∀ other ≠ newbuf,
          (state.step (.get len malloc)).pool.memory other = state.pool.memory other := by
    intro newbuf head count link result
    rw [step, result] at distinct
    refine ⟨newbuf, by rw [result], by rw [step, result]; rfl, (List.nodup_cons.mp distinct).1,
      ⟨link, ?_⟩, fun other different => ?_⟩
    · rw [step, result]
      exact Function.update_self ..
    · rw [step, result]
      exact Function.update_of_ne different _ _
  rcases scBufferGet_cases state.pool len malloc with
    ⟨result, -⟩ | ⟨newbuf, -, result⟩ | ⟨newbuf, -, -, -, result⟩ | ⟨newbuf, -, result⟩
  · refine Or.inl ⟨by rw [result], ?_⟩
    rw [step, result]
    rfl
  · exact Or.inr (handsOut _ _ _ _ result)
  · exact Or.inr (handsOut _ _ _ _ result)
  · exact Or.inr (handsOut _ _ _ _ result)

/-- Letting go of a buffer leaves the others in use as they are. -/
theorem Accounted.release_cases (accounted : state.Accounted free) {bfr : Nat} {others : List Nat}
    (inUse : state.inUse.Perm (bfr :: others)) :
    ∃ free, (state.step (.release bfr)).Accounted free ∧
      (state.step (.release bfr)).inUse.Perm others ∧
      ∀ other ∈ others,
        (state.step (.release bfr)).pool.memory other = state.pool.memory other := by
  have member : bfr ∈ state.inUse := inUse.mem_iff.mpr List.mem_cons_self
  obtain ⟨free', released⟩ := release_accounted accounted member
  refine ⟨free', released, ((List.perm_cons_erase member).symm.trans inUse).cons_inv, ?_⟩
  intro other within
  apply release_memory
  rintro rfl
  exact (List.nodup_cons.mp (inUse.nodup_iff.mp accounted.inUse_nodup)).1 within

end PoolUse

namespace StreamService

/-- The thread is yet to come to the message that ends it, and sends the rest of `all` before; or it
has ended and sent them. -/
def Closing (service : StreamService) (cells : List (Nat × Msglist)) (all : List Text) : Prop :=
  service.place ≠ .ended ∧ (∃ front back,
    service.pending ++ messages cells = front ++ ⟨none, scQuit⟩ :: back ∧
    (∀ msg ∈ front, msg.msgtype = scData) ∧
    all = service.sent ++ front.filterMap service.payload) ∨
  service.place = .ended ∧ service.sent = all

/-- What was put into the queue was sent, is in the hands of the thread, or waits, in this order;
and each buffer in use is in one place. -/
structure Accounted (service : StreamService) (cells pool : List (Nat × Msglist))
    (free : List Nat) : Prop where
  keeps : service.scQueue.Keeps [] cells pool
  pooled : service.buffers.Accounted free
  copied : ∀ sdata bytes, service.player = .filled sdata bytes ∨
    service.player = .admitted sdata bytes → service.data sdata = bytes
  order : service.queued =
    service.sent ++ (service.pending ++ messages cells).filterMap service.payload
  owned : service.buffers.inUse.Perm
    (service.held ++ (service.current ++ messages cells).filterMap Threadmsg.data ++ service.lost)
  formed : ∀ msg ∈ service.current ++ messages cells, WellFormed msg
  loaded : service.retry = true ∨ service.place = .release → service.msg.msgtype = scData
  settled : service.retry = true → service.place = .connected ∨ service.place = .reconnect ∨
    service.place = .handle ∨ service.place = .release
  unasked : service.asked = none → service.place ≠ .ended ∧
    ∀ msg ∈ service.pending ++ messages cells, msg.msgtype = scData
  closing : ∀ all, service.asked = some all → service.Closing cells all

variable {service : StreamService} {cells pool : List (Nat × Msglist)} {free : List Nat}

theorem initial_accounted (buf : Nat → Text) : (initial buf).Accounted [] [] [] where
  keeps := Threadqueue.init_keeps
  pooled := PoolUse.initial_accounted
  copied := fun _ _ filled => by rcases filled with filled | filled <;> cases filled
  order := rfl
  owned := List.Perm.refl _
  formed := fun _ member => absurd member List.not_mem_nil
  loaded := fun loaded => by rcases loaded with loaded | loaded <;> cases loaded
  settled := fun retry => by cases retry
  unasked := fun _ => ⟨ScPlace.noConfusion, fun _ member => absurd member List.not_mem_nil⟩
  closing := fun _ asked => by cases asked

/-! ## Steps of the thread -/

/-- Outside of its attempts to send, the thread has nothing to send again. -/
theorem Accounted.fresh (accounted : service.Accounted cells pool free)
    (elsewhere : service.place = .start ∨ service.place = .get ∨ service.place = .silence ∨
      service.place = .ended) : service.retry = false := by
  cases retry : service.retry with
  | false => rfl
  | true =>
      have attempts := accounted.settled retry
      rcases elsewhere with place | place | place | place <;> rw [place] at attempts <;>
        simp at attempts

/-- The same messages are to be sent, with the same bytes. -/
theorem Closing.congr {other : StreamService} {more : List (Nat × Msglist)} {all : List Text}
    (closing : service.Closing cells all)
    (waiting : other.pending ++ messages more = service.pending ++ messages cells)
    (sent : other.sent = service.sent) (ended : service.place = .ended ↔ other.place = .ended)
    (same : ∀ msg ∈ service.pending ++ messages cells, other.payload msg = service.payload msg) :
    other.Closing more all := by
  rcases closing with ⟨place, front, back, parts, formed, sends⟩ | ⟨place, sends⟩
  · refine Or.inl ⟨mt ended.mpr place, front, back, waiting.trans parts, formed, ?_⟩
    rw [sent, sends]
    refine congrArg _ (List.filterMap_congr fun msg member => (same msg ?_).symm)
    rw [parts]
    exact List.mem_append_left _ member
  · exact Or.inr ⟨ended.mp place, sent.trans sends⟩

/-- One more message waits. -/
theorem Closing.append {other : StreamService} {more : List (Nat × Msglist)} {all : List Text}
    {msg : Threadmsg} (closing : service.Closing cells all)
    (waiting : other.pending ++ messages more = service.pending ++ messages cells ++ [msg])
    (sent : other.sent = service.sent) (ended : service.place = .ended ↔ other.place = .ended)
    (same : other.payload = service.payload) : other.Closing more all := by
  rcases closing with ⟨place, front, back, parts, formed, sends⟩ | ⟨place, sends⟩
  · refine Or.inl ⟨mt ended.mpr place, front, back ++ [msg], ?_, formed, ?_⟩
    · rw [waiting, parts, List.append_assoc, List.cons_append]
    · rw [sent, same, sends]
  · exact Or.inr ⟨ended.mp place, sent.trans sends⟩

/-- The thread goes elsewhere with the message that it has. -/
theorem Accounted.move (accounted : service.Accounted cells pool free) {state : ScState}
    {paused retry : Bool} {place : ScPlace}
    (pending : StreamService.pending { service with
      state := state, paused := paused, place := place, retry := retry } = service.pending)
    (current : StreamService.current { service with
      state := state, paused := paused, place := place, retry := retry } = service.current)
    (unended : service.place = .ended ↔ place = .ended)
    (loaded : retry = true ∨ place = .release → service.msg.msgtype = scData)
    (settled : retry = true → place = .connected ∨ place = .reconnect ∨ place = .handle ∨
      place = .release) :
    Accounted { service with state := state, paused := paused, place := place, retry := retry }
      cells pool free where
  keeps := accounted.keeps
  pooled := accounted.pooled
  copied := accounted.copied
  order := by
    rw [pending]
    exact accounted.order
  owned := by
    rw [current]
    exact accounted.owned
  formed := by
    rw [current]
    exact accounted.formed
  loaded := loaded
  settled := settled
  unasked := by
    rw [pending]
    exact fun asked => (accounted.unasked asked).imp_left (mt unended.mpr)
  closing := fun all asked => (accounted.closing all asked).congr (by rw [pending]) rfl
    unended fun _ _ => rfl

/-- The first message that waits is taken. -/
theorem Accounted.get (accounted : service.Accounted cells pool free) (here : service.place = .get)
    (answer : Bool) :
    ∃ next less rest, service.scServiceThread answer = .ok next ∧
      next.Accounted less rest free := by
  have fresh := accounted.fresh (Or.inr (Or.inl here))
  have pending : service.pending = [] := by simp [StreamService.pending, here, fresh]
  have current : service.current = [] := by simp [StreamService.current, here, fresh]
  have starts := accounted.keeps.queued.head_eq
  unfold scServiceThread
  rw [here]
  cases answer with
  | true =>
      refine ⟨_, cells, pool, rfl, accounted.move ?_ ?_ (by simp [here]) ?_ ?_⟩
      · rw [pending]
        simp [StreamService.pending, fresh]
      · rw [current]
        simp [StreamService.current, fresh]
      · simp [fresh]
      · simp [fresh]
  | false =>
      cases cells with
      | nil => exact ⟨service, [], pool, if_pos starts, accounted⟩
      | cons cell cells =>
          obtain ⟨queue, rest, taken, keeps⟩ := accounted.keeps.take
          have nonempty : service.scQueue.first ≠ none := by
            rw [starts]
            exact Option.some_ne_none _
          refine ⟨{ service with scQueue := queue, msg := cell.2.msg, place := .handle }, cells,
            rest, ?_, ?_⟩
          · change (if service.scQueue.first = none then _ else _) = _
            rw [if_neg nonempty, taken]
            rfl
          · have order := accounted.order
            have owned := accounted.owned
            have formed := accounted.formed
            have unasked := accounted.unasked
            rw [pending] at order unasked
            rw [current] at owned formed
            exact {
              keeps := keeps
              pooled := accounted.pooled
              copied := accounted.copied
              order := order
              owned := owned
              formed := formed
              loaded := fun loaded => by
                rcases loaded with loaded | loaded
                · rw [fresh] at loaded
                  cases loaded
                · cases loaded
              settled := fun retry => by
                rw [fresh] at retry
                cases retry
              unasked := fun asked => ⟨ScPlace.noConfusion, (unasked asked).2⟩
              closing := fun all asked => (accounted.closing all asked).congr
                (by rw [pending]; rfl) rfl (by simp [here]) fun _ _ => rfl }

/-- The message that is handled is the only one that the thread has. -/
private theorem handled_message (here : service.place = .handle) :
    service.pending = [service.msg] ∧ service.current = [service.msg] := by
  simp [pending, current, here]

/-- A buffer is sent. -/
private theorem Accounted.handle_sent (accounted : service.Accounted cells pool free)
    (here : service.place = .handle) (loaded : service.msg.msgtype = scData) {sdata : Nat}
    (holds : service.msg.data = some sdata) :
    Accounted { service with place := .release, sent := service.sent ++ [service.data sdata] }
      cells pool free := by
  obtain ⟨pending, current⟩ := handled_message here
  have pending' : StreamService.pending { service with
      place := .release, sent := service.sent ++ [service.data sdata] } = [] := by
    simp [StreamService.pending]
  have current' : StreamService.current { service with
      place := .release, sent := service.sent ++ [service.data sdata] } = service.current := by
    rw [current]
    simp [StreamService.current]
  have payload : service.payload service.msg = some (service.data sdata) := by
    rw [payload, holds]
    rfl
  refine {
    keeps := accounted.keeps
    pooled := accounted.pooled
    copied := accounted.copied
    order := ?_
    owned := by
      rw [current']
      exact accounted.owned
    formed := by
      rw [current']
      exact accounted.formed
    loaded := fun _ => loaded
    settled := fun _ => Or.inr (Or.inr (Or.inr rfl))
    unasked := ?_
    closing := ?_ }
  · rw [pending', accounted.order, pending, List.singleton_append, List.filterMap_cons, payload]
    exact List.append_cons ..
  · intro asked
    refine ⟨ScPlace.noConfusion, fun msg member => (accounted.unasked asked).2 msg ?_⟩
    rw [pending'] at member
    rw [pending]
    exact List.mem_cons_of_mem _ member
  · intro all asked
    rcases accounted.closing all asked with ⟨-, front, back, parts, data, sends⟩ | ⟨place, -⟩
    · rw [pending] at parts
      cases front with
      | nil =>
          rw [(List.cons.inj parts).1] at loaded
          cases loaded
      | cons first front =>
          obtain ⟨rfl, rest⟩ := List.cons.inj parts
          refine Or.inl ⟨ScPlace.noConfusion, front, back, ?_,
            fun msg member => data msg (List.mem_cons_of_mem _ member), ?_⟩
          · rw [pending']
            exact rest
          · rw [sends, List.filterMap_cons, payload]
            exact List.append_cons ..
    · rw [here] at place
      cases place

/-- A buffer could not be sent, and is kept to be sent again. -/
private theorem Accounted.handle_failed (accounted : service.Accounted cells pool free)
    (here : service.place = .handle) (loaded : service.msg.msgtype = scData) :
    Accounted { service with place := .reconnect, retry := true } cells pool free := by
  obtain ⟨pending, current⟩ := handled_message here
  refine accounted.move ?_ ?_ (by simp [here]) (fun _ => loaded) (fun _ => Or.inr (Or.inl rfl))
  · rw [pending]
    simp [StreamService.pending]
  · rw [current]
    simp [StreamService.current]

/-- The thread ends. -/
private theorem Accounted.handle_quit (accounted : service.Accounted cells pool free)
    (here : service.place = .handle) (ends : service.msg = ⟨none, scQuit⟩) :
    Accounted { service with place := .ended, state := .idle } cells pool free := by
  obtain ⟨pending, current⟩ := handled_message here
  have other : service.msg.msgtype ≠ scData := by
    rw [ends]
    decide
  have fresh : service.retry = false :=
    Bool.eq_false_iff.mpr fun retry => other (accounted.loaded (Or.inl retry))
  have pending' :
      StreamService.pending { service with place := .ended, state := .idle } = [] := by
    simp [StreamService.pending, fresh]
  have current' :
      StreamService.current { service with place := .ended, state := .idle } = [] := by
    simp [StreamService.current, fresh]
  have order := accounted.order
  have owned := accounted.owned
  have formed := accounted.formed
  rw [pending] at order
  rw [current] at owned formed
  refine {
    keeps := accounted.keeps
    pooled := accounted.pooled
    copied := accounted.copied
    order := ?_
    owned := ?_
    formed := ?_
    loaded := ?_
    settled := fun retry => absurd (fresh.symm.trans retry) Bool.false_ne_true
    unasked := ?_
    closing := ?_ }
  · rw [pending', order, List.singleton_append, List.filterMap_cons, payload, ends]
    rfl
  · rw [current']
    rw [List.singleton_append, List.filterMap_cons, ends] at owned
    exact owned
  · rw [current']
    exact fun msg member => formed msg (List.mem_cons_of_mem _ member)
  · rintro (loaded | place)
    · exact absurd (fresh.symm.trans loaded) Bool.false_ne_true
    · cases place
  · intro asked
    refine absurd ((accounted.unasked asked).2 service.msg ?_) other
    rw [pending]
    exact List.mem_cons_self
  · intro all asked
    rcases accounted.closing all asked with ⟨-, front, back, parts, data, sends⟩ | ⟨place, -⟩
    · rw [pending] at parts
      cases front with
      | nil =>
          refine Or.inr ⟨rfl, ?_⟩
          rw [sends]
          exact (List.append_nil _).symm
      | cons first front =>
          rw [← (List.cons.inj parts).1] at data
          exact absurd (data service.msg List.mem_cons_self) other
    · rw [here] at place
      cases place

/-- A message is sent, or kept to be sent again, or ends the thread. -/
theorem Accounted.handle (accounted : service.Accounted cells pool free)
    (here : service.place = .handle) (answer : Bool) :
    ∃ next, service.scServiceThread answer = .ok next ∧ next.Accounted cells pool free := by
  have member : service.msg ∈ service.current ++ messages cells := by
    rw [(handled_message here).2]
    exact List.mem_cons_self
  unfold scServiceThread StreamService.handle
  rw [here]
  rcases accounted.formed service.msg member with ⟨loaded, carries⟩ | ends
  · obtain ⟨sdata, holds⟩ := Option.isSome_iff_exists.mp carries
    simp only [loaded, holds, if_true]
    cases answer with
    | true => exact ⟨_, rfl, accounted.handle_sent here loaded holds⟩
    | false => exact ⟨_, rfl, accounted.handle_failed here loaded⟩
  · refine ⟨_, ?_, accounted.handle_quit here ends⟩
    rw [ends]
    rfl

/-- The bytes of a buffer depend on what it holds and on its length only. -/
theorem data_congr {other : StreamService} {sdata : Nat} (buf : other.buf sdata = service.buf sdata)
    (memory : other.buffers.pool.memory sdata = service.buffers.pool.memory sdata) :
    other.data sdata = service.data sdata := by
  rw [data, data, buf, memory]

theorem payload_congr {other : StreamService} {msg : Threadmsg}
    (same : ∀ sdata, msg.data = some sdata → other.data sdata = service.data sdata) :
    other.payload msg = service.payload msg := by
  cases holds : msg.data with
  | none => rw [payload, payload, holds]; rfl
  | some sdata =>
      rw [payload, payload, holds]
      exact congrArg some (same sdata holds)

private theorem Accounted.inUse_of_mem (accounted : service.Accounted cells pool free)
    {msg : Threadmsg} {sdata : Nat} (member : msg ∈ service.current ++ messages cells)
    (holds : msg.data = some sdata) : sdata ∈ service.buffers.inUse := by
  apply accounted.owned.mem_iff.mpr
  apply List.mem_append_left
  apply List.mem_append_right
  exact List.mem_filterMap.mpr ⟨msg, member, holds⟩

/-- What is to be sent has not been let go of. -/
theorem subset_current (service : StreamService) (cells : List (Nat × Msglist)) {msg : Threadmsg}
    (member : msg ∈ service.pending ++ messages cells) :
    msg ∈ service.current ++ messages cells := by
  refine (List.mem_append.mp member).elim (fun member => List.mem_append_left _ ?_)
    (List.mem_append_right _)
  unfold pending at member
  split at member
  case isTrue attempts =>
    rwa [current, if_pos]
    exact attempts.imp_right fun again => Or.inr again.1
  case isFalse => cases member

/-- The thread lets go of the buffer that it has sent. -/
theorem Accounted.release (accounted : service.Accounted cells pool free)
    (here : service.place = .release) (answer : Bool) :
    ∃ next free, service.scServiceThread answer = .ok next ∧ next.Accounted cells pool free := by
  have current : service.current = [service.msg] := by simp [StreamService.current, here]
  have pending : service.pending = [] := by simp [StreamService.pending, here]
  have loaded := accounted.loaded (Or.inr here)
  have order := accounted.order
  have owned := accounted.owned
  have formed := accounted.formed
  rw [pending, List.nil_append] at order
  rw [current] at owned formed
  obtain ⟨sdata, holds⟩ : ∃ sdata, service.msg.data = some sdata := by
    rcases formed service.msg List.mem_cons_self with ⟨-, some⟩ | ends
    · exact Option.isSome_iff_exists.mp some
    · rw [ends] at loaded
      cases loaded
  have others : service.buffers.inUse.Perm (sdata ::
      (service.held ++ (messages cells).filterMap Threadmsg.data ++ service.lost)) := by
    refine owned.trans ?_
    rw [List.singleton_append, List.filterMap_cons, holds, List.append_assoc, List.append_assoc]
    exact List.perm_middle
  obtain ⟨free', pooled, owned', same⟩ := accounted.pooled.release_cases others
  have bytes : ∀ msg ∈ messages cells, StreamService.payload { service with
      buffers := service.buffers.step (.release sdata), place := .connected, retry := false } msg =
        service.payload msg := by
    intro msg waits
    refine payload_congr fun other place => data_congr rfl (same other ?_)
    apply List.mem_append_left
    apply List.mem_append_right
    exact List.mem_filterMap.mpr ⟨msg, waits, place⟩
  have unasked := accounted.unasked
  rw [pending] at unasked
  refine ⟨{ service with
    buffers := service.buffers.step (.release sdata), place := .connected, retry := false }, free',
    ?_, {
      keeps := accounted.keeps
      pooled := pooled
      copied := ?_
      order := ?_
      owned := owned'
      formed := fun msg member => formed msg (List.mem_cons_of_mem _ member)
      loaded := ?_
      settled := fun retry => by cases retry
      unasked := fun asked => ⟨ScPlace.noConfusion, (unasked asked).2⟩
      closing := ?_ }⟩
  · rw [scServiceThread, here]
    simp only [holds]
    rfl
  · intro other bytes place
    rw [← accounted.copied other bytes place]
    refine data_congr rfl (same other ?_)
    apply List.mem_append_left
    apply List.mem_append_left
    rcases place with place | place <;> rw [held, place] <;> exact List.mem_singleton_self _
  · exact order.trans (congrArg _ (List.filterMap_congr fun msg waits => (bytes msg waits).symm))
  · rintro (loaded | loaded) <;> cases loaded
  · exact fun all asked => (accounted.closing all asked).congr (by rw [pending]; rfl) rfl
      (by simp [here]) (by rw [pending]; exact bytes)

/-- Whatever the thread does next is defined and keeps the accounts. -/
theorem Accounted.thread (accounted : service.Accounted cells pool free) (answer : Bool) :
    ∃ next cells pool free, service.scServiceThread answer = .ok next ∧
      next.Accounted cells pool free := by
  cases here : service.place with
  | get =>
      obtain ⟨next, less, rest, result, accounted⟩ := accounted.get here answer
      exact ⟨next, less, rest, free, result, accounted⟩
  | handle =>
      obtain ⟨next, result, accounted⟩ := accounted.handle here answer
      exact ⟨next, cells, pool, free, result, accounted⟩
  | release =>
      obtain ⟨next, free', result, accounted⟩ := accounted.release here answer
      exact ⟨next, cells, pool, free', result, accounted⟩
  | ended => exact ⟨service, cells, pool, free, by rw [scServiceThread, here]; rfl, accounted⟩
  | start =>
      have fresh := accounted.fresh (Or.inl here)
      refine ⟨_, cells, pool, free, by rw [scServiceThread, here]; rfl,
        accounted.move ?_ ?_ (by simp [here]) ?_ ?_⟩
      · simp [StreamService.pending, here, fresh]
      · simp [StreamService.current, here, fresh]
      · simp [fresh]
      · simp [fresh]
  | silence =>
      have fresh := accounted.fresh (Or.inr (Or.inr (Or.inl here)))
      refine ⟨_, cells, pool, free, by rw [scServiceThread, here]; rfl,
        accounted.move ?_ ?_ (by cases answer <;> simp [here]) ?_ ?_⟩
      · cases answer <;> simp [StreamService.pending, here, fresh]
      · cases answer <;> simp [StreamService.current, here, fresh]
      · cases answer <;> simp [fresh]
      · simp [fresh]
  | reconnect =>
      have loaded := fun retry => accounted.loaded (Or.inl retry)
      refine ⟨_, cells, pool, free, by rw [scServiceThread, here]; rfl, ?_⟩
      by_cases goes : answer = true ∨ service.state = .quit
      · rw [if_pos goes]
        refine accounted.move ?_ ?_ (by simp [here]) ?_ fun _ => Or.inl rfl
        · simp [StreamService.pending, here]
        · simp [StreamService.current, here]
        · rintro (retry | place)
          · exact loaded retry
          · cases place
      · rw [if_neg goes]
        refine accounted.move ?_ ?_ (by simp [here]) ?_ fun _ => Or.inr (Or.inl rfl)
        · simp [StreamService.pending, here]
        · simp [StreamService.current, here]
        · rintro (retry | place)
          · exact loaded retry
          · cases place
  | connected =>
      have loaded := fun retry => accounted.loaded (Or.inl retry)
      refine ⟨_, cells, pool, free, by rw [scServiceThread, here]; rfl, ?_⟩
      cases answer with
      | false =>
          refine accounted.move ?_ ?_ (by simp [here]) ?_ fun _ => Or.inr (Or.inl rfl)
          · simp [StreamService.pending, here]
          · simp [StreamService.current, here]
          · rintro (retry | place)
            · exact loaded retry
            · cases place
      | true =>
          cases again : service.retry with
          | true =>
              refine accounted.move ?_ ?_ (by simp [here]) (fun _ => loaded again)
                fun _ => Or.inr (Or.inr (Or.inl rfl))
              · simp [StreamService.pending, here, again]
              · simp [StreamService.current, here, again]
          | false =>
              refine accounted.move ?_ ?_ (by simp [here]) ?_ ?_
              · simp [StreamService.pending, here, again]
              · simp [StreamService.current, here, again]
              · simp
              · simp

/-! ## Steps of the player and of the server -/

/-- The player takes or lets go of a buffer, and the bytes that are to be sent stay. -/
theorem Accounted.reuse (accounted : service.Accounted cells pool free) {buffers : PoolUse}
    {buf : Nat → Text} {player : PlayerPlace} {free' : List Nat} (pooled : buffers.Accounted free')
    (bytes : ∀ msg ∈ service.pending ++ messages cells, StreamService.payload { service with
      buffers := buffers, buf := buf, player := player } msg = service.payload msg)
    (copied : ∀ sdata bytes, player = .filled sdata bytes ∨ player = .admitted sdata bytes →
      StreamService.data { service with buffers := buffers, buf := buf, player := player } sdata =
        bytes)
    (owned : buffers.inUse.Perm (StreamService.held { service with
      buffers := buffers, buf := buf, player := player } ++
        (service.current ++ messages cells).filterMap Threadmsg.data ++ service.lost)) :
    Accounted { service with
      buffers := buffers, buf := buf, player := player } cells pool free' where
  keeps := accounted.keeps
  pooled := pooled
  copied := copied
  order := accounted.order.trans
    (congrArg _ (List.filterMap_congr fun msg member => (bytes msg member).symm))
  owned := owned
  formed := accounted.formed
  loaded := accounted.loaded
  settled := accounted.settled
  unasked := accounted.unasked
  closing := fun all asked => (accounted.closing all asked).congr rfl rfl Iff.rfl bytes

/-- The player fills a buffer that nobody has. -/
theorem Accounted.fill (accounted : service.Accounted cells pool free) {bytes : Text}
    {malloc : Option Nat} (possible : service.Possible (.fill bytes malloc)) :
    ∃ free, (service.fill bytes malloc).Accounted cells pool free := by
  obtain ⟨idle, fresh⟩ := possible
  have granted : service.buffers.Possible (.get bytes.length malloc) := fresh
  obtain ⟨free', pooled⟩ := PoolUse.get_accounted accounted.pooled granted
  rcases accounted.pooled.get_cases granted with ⟨refused, same⟩ |
    ⟨newbuf, given, inUse, outside, ⟨link, memory⟩, same⟩
  · have nothing : service.fill bytes malloc = service := by
      unfold StreamService.fill
      simp only [refused, same]
    rw [nothing]
    exact ⟨free, accounted⟩
  · have filled : service.fill bytes malloc = { service with
        buffers := service.buffers.step (.get bytes.length malloc)
        buf := Function.update service.buf newbuf (bytes ++ (service.buf newbuf).drop bytes.length)
        player := .filled newbuf bytes } := by
      unfold StreamService.fill
      simp only [given]
    have nobody : service.held = [] := by rw [held, idle]
    have owned := accounted.owned
    rw [nobody] at owned
    rw [filled]
    refine ⟨free', accounted.reuse pooled ?_ ?_ ?_⟩
    · intro msg member
      refine payload_congr fun sdata holds => ?_
      have before : sdata ≠ newbuf := by
        rintro rfl
        exact outside (accounted.inUse_of_mem (service.subset_current cells member) holds)
      exact data_congr (Function.update_of_ne before _ _) (same sdata before)
    · rintro sdata copy (place | place)
      · cases place
        change ((Function.update service.buf newbuf _) newbuf).take
          (((service.buffers.step (.get bytes.length malloc)).pool.memory newbuf).map _ |>.getD 0) =
            bytes
        rw [Function.update_self, memory]
        exact List.take_left
      · cases place
    · rw [inUse]
      exact owned.cons newbuf

/-- Without the thread the buffer is dumped. -/
theorem Accounted.offer (accounted : service.Accounted cells pool free) :
    ∃ free, service.offer.Accounted cells pool free := by
  cases place : service.player with
  | idle => exact ⟨free, by rw [StreamService.offer, place]; exact accounted⟩
  | admitted sdata bytes => exact ⟨free, by rw [StreamService.offer, place]; exact accounted⟩
  | filled sdata bytes =>
      have mine : service.held = [sdata] := by rw [held, place]
      have owned := accounted.owned
      rw [mine, List.append_assoc, List.singleton_append] at owned
      by_cases running : service.state = .running
      · have offered : service.offer = { service with player := .admitted sdata bytes } := by
          rw [StreamService.offer, place]
          exact if_neg (not_not_intro running)
        refine ⟨free, ?_⟩
        rw [offered]
        refine accounted.reuse accounted.pooled (fun _ _ => rfl) ?_ ?_
        · rintro other copy (place' | place')
          · cases place'
          · cases place'
            exact accounted.copied sdata bytes (Or.inl place)
        · change service.buffers.inUse.Perm ([sdata] ++ _ ++ service.lost)
          rw [List.append_assoc]
          exact owned
      · obtain ⟨free', pooled, owned', same⟩ := accounted.pooled.release_cases owned
        have offered : service.offer = { service with
            buffers := service.buffers.step (.release sdata), player := .idle } := by
          rw [StreamService.offer, place]
          exact if_pos running
        refine ⟨free', ?_⟩
        rw [offered]
        refine accounted.reuse pooled ?_ ?_ owned'
        · intro msg member
          refine payload_congr fun other holds => data_congr rfl (same other ?_)
          apply List.mem_append_left
          exact List.mem_filterMap.mpr ⟨msg, service.subset_current cells member, holds⟩
        · rintro other copy (place' | place') <;> cases place'

/-- The player's buffer is put into the queue, or lost. -/
theorem Accounted.add (accounted : service.Accounted cells pool free) {malloc : Option Nat}
    (fresh : ∀ address ∈ malloc, service.scQueue.memory address = none) :
    ∃ next more rest, service.add malloc = .ok next ∧ next.Accounted more rest free := by
  unfold StreamService.add
  cases place : service.player with
  | idle => exact ⟨service, cells, pool, rfl, accounted⟩
  | filled sdata bytes => exact ⟨service, cells, pool, rfl, accounted⟩
  | admitted sdata bytes =>
      have mine : service.held = [sdata] := by rw [held, place]
      have owned := accounted.owned
      rw [mine, List.append_assoc, List.singleton_append] at owned
      rcases accounted.keeps.threadQueueAdd (some sdata) scData fresh with
        ⟨-, -, refused⟩ | ⟨scQueue, more, rest, added, keeps, said⟩
      · refine ⟨{ service with player := .idle, lost := sdata :: service.lost }, cells, pool, ?_, {
          accounted with
          copied := fun other copy held => by rcases held with held | held <;> cases held
          owned := owned.trans List.perm_middle.symm }⟩
        simp only [refused]
        rfl
      · have payload : service.payload ⟨some sdata, scData⟩ = some bytes :=
          congrArg some (accounted.copied sdata bytes (Or.inr place))
        refine ⟨{ service with
          scQueue := scQueue, player := .idle, queued := service.queued ++ [bytes] },
          more, rest, ?_, {
          keeps := keeps
          pooled := accounted.pooled
          copied := fun other copy held => by rcases held with held | held <;> cases held
          order := ?_
          owned := ?_
          formed := ?_
          loaded := accounted.loaded
          settled := accounted.settled
          unasked := ?_
          closing := fun all asked => (accounted.closing all asked).append
            (by rw [said, ← List.append_assoc]; rfl) rfl Iff.rfl rfl }⟩
        · simp only [added]
          rfl
        · rw [said, ← List.append_assoc, List.filterMap_append]
          change service.queued ++ [bytes] = service.sent ++ (_ ++ [_].filterMap service.payload)
          rw [List.filterMap_cons, payload, accounted.order, List.append_assoc]
          rfl
        · rw [said, ← List.append_assoc, List.filterMap_append]
          refine owned.trans ?_
          change (sdata :: (_ ++ service.lost)).Perm (_ ++ [sdata] ++ service.lost)
          rw [List.append_assoc]
          exact List.perm_middle.symm
        · rw [said, ← List.append_assoc]
          intro msg member
          rcases List.mem_append.mp member with member | member
          · exact accounted.formed msg member
          · rw [List.mem_singleton.mp member]
            exact Or.inl ⟨rfl, rfl⟩
        · rw [said, ← List.append_assoc]
          intro asked
          refine ⟨(accounted.unasked asked).1, fun msg member => ?_⟩
          rcases List.mem_append.mp member with member | member
          · exact (accounted.unasked asked).2 msg member
          · rw [List.mem_singleton.mp member]

/-- The message that ends the thread is added. -/
theorem Accounted.addQuit (accounted : service.Accounted cells pool free) {malloc : Option Nat}
    (fresh : ∀ address ∈ malloc, service.scQueue.memory address = none) :
    ∃ next more rest, service.addQuit malloc = .ok next ∧ next.Accounted more rest free := by
  unfold StreamService.addQuit
  rcases accounted.keeps.threadQueueAdd none scQuit fresh with
    ⟨-, -, refused⟩ | ⟨scQueue, more, rest, added, keeps, said⟩
  · refine ⟨service, cells, pool, ?_, accounted⟩
    rw [refused]
    rfl
  · refine ⟨{ service with
        scQueue := scQueue, asked := service.asked.or (some service.queued) }, more, rest, ?_, {
      keeps := keeps
      pooled := accounted.pooled
      copied := accounted.copied
      order := ?_
      owned := ?_
      formed := ?_
      loaded := accounted.loaded
      settled := accounted.settled
      unasked := ?_
      closing := ?_ }⟩
    · rw [added]
      rfl
    · rw [said, ← List.append_assoc, List.filterMap_append]
      change service.queued = service.sent ++ (_ ++ [])
      rw [List.append_nil]
      exact accounted.order
    · rw [said, ← List.append_assoc, List.filterMap_append]
      change service.buffers.inUse.Perm (_ ++ (_ ++ []) ++ _)
      rw [List.append_nil]
      exact accounted.owned
    · rw [said, ← List.append_assoc]
      intro msg member
      rcases List.mem_append.mp member with member | member
      · exact accounted.formed msg member
      · rw [List.mem_singleton.mp member]
        exact Or.inr rfl
    · intro asked
      cases before : service.asked <;> rw [before] at asked <;> cases asked
    · intro all asked
      cases before : service.asked with
      | none =>
          rw [before] at asked
          cases asked
          have unasked := accounted.unasked before
          refine Or.inl ⟨unasked.1, service.pending ++ messages cells, [], ?_, unasked.2,
            accounted.order⟩
          rw [said, ← List.append_assoc]
          rfl
      | some given =>
          rw [before] at asked
          cases asked
          exact (accounted.closing all before).append (by rw [said, ← List.append_assoc]; rfl) rfl
            Iff.rfl rfl

/-! ## Whole runs -/

theorem Accounted.step (accounted : service.Accounted cells pool free) {event : ScEvent}
    (possible : service.Possible event) :
    ∃ next cells pool free, service.step event = .ok next ∧ next.Accounted cells pool free := by
  cases event with
  | fill bytes malloc =>
      obtain ⟨free', accounted⟩ := accounted.fill possible
      exact ⟨_, cells, pool, free', rfl, accounted⟩
  | offer =>
      obtain ⟨free', accounted⟩ := accounted.offer
      exact ⟨_, cells, pool, free', rfl, accounted⟩
  | add malloc =>
      obtain ⟨next, more, rest, result, accounted⟩ := accounted.add possible
      exact ⟨next, more, rest, free, result, accounted⟩
  | quit => exact ⟨_, cells, pool, free, rfl,
      accounted.move rfl rfl Iff.rfl accounted.loaded accounted.settled⟩
  | addQuit malloc =>
      obtain ⟨next, more, rest, result, accounted⟩ := accounted.addQuit possible
      exact ⟨next, more, rest, free, result, accounted⟩
  | thread answer => exact accounted.thread answer

theorem Accounted.run (accounted : service.Accounted cells pool free) {events : List ScEvent}
    (possible : service.AllPossible events) :
    ∃ last cells pool free, service.run events = .ok last ∧ last.Accounted cells pool free := by
  induction events generalizing service cells pool free with
  | nil => exact ⟨service, cells, pool, free, rfl, accounted⟩
  | cons event events induction =>
      obtain ⟨next, cells, pool, free, stepped, accounted⟩ := accounted.step possible.1
      rw [StreamService.run, List.foldlM_cons, stepped]
      exact induction accounted (possible.2 next stepped)

/-- The buffer that was sent and is not yet let go of. -/
def leaving (service : StreamService) : List Nat :=
  if service.place = .release then service.msg.data.toList else []

private theorem current_eq (service : StreamService) : service.current.filterMap Threadmsg.data =
    service.leaving ++ service.pending.filterMap Threadmsg.data := by
  unfold current leaving pending
  by_cases here : service.place = .release
  · cases holds : service.msg.data <;> simp [here, holds]
  · simp [here]

/-- However the player, the service thread and the server interleave, and whatever the connection
does: what was sent and what waits is what was put into the queue, in this order, each buffer once;
each buffer in use is in one place; and a thread that ended has sent all that was put into the queue
before it was asked to. -/
theorem streamService_delivery (buf : Nat → Text) (events : List ScEvent)
    (possible : (initial buf).AllPossible events) :
    ∃ service waiting, (initial buf).run events = .ok service ∧
      service.queued = service.sent ++ waiting.map service.data ∧
      service.buffers.inUse.Nodup ∧
      service.buffers.inUse.Perm (service.held ++ (service.leaving ++ waiting) ++ service.lost) ∧
      (service.place = .ended → service.asked = some service.sent) := by
  obtain ⟨service, cells, pool, free, result, accounted⟩ := (initial_accounted buf).run possible
  refine ⟨service, (service.pending ++ messages cells).filterMap Threadmsg.data, result, ?_,
    accounted.pooled.inUse_nodup, ?_, ?_⟩
  · rw [List.map_filterMap]
    exact accounted.order
  · have owned := accounted.owned
    rw [List.filterMap_append, current_eq, List.append_assoc service.leaving] at owned
    rw [List.filterMap_append]
    exact owned
  · intro ended
    cases asked : service.asked with
    | none => exact absurd ended (accounted.unasked asked).1
    | some all =>
        rcases accounted.closing all asked with ⟨place, -⟩ | ⟨-, sent⟩
        · exact absurd ended place
        · rw [sent]

/-- The player fills a buffer while the thread starts, and puts it into the queue; the thread takes
it from there, sends it and lets go of it. -/
theorem streamService_delivery_hi :
    ∃ service waiting, (initial fun _ => []).run
        [.fill (ascii "hi") (some 1), .thread true, .offer, .add (some 2), .thread true,
          .thread false, .thread true, .thread true] = .ok service ∧
      service.sent = [ascii "hi"] ∧
      service.queued = service.sent ++ waiting.map service.data ∧
      service.buffers.inUse.Nodup ∧
      service.buffers.inUse.Perm (service.held ++ (service.leaving ++ waiting) ++ service.lost) ∧
      (service.place = .ended → service.asked = some service.sent) := by
  have possible : (initial fun _ => []).AllPossible
      [.fill (ascii "hi") (some 1), .thread true, .offer, .add (some 2), .thread true,
        .thread false, .thread true, .thread true] := by
    refine ⟨⟨rfl, fun _ _ => rfl⟩, fun filled result => ⟨trivial, fun running starts =>
      ⟨trivial, fun offered offers => ⟨?_, fun _ _ => ⟨trivial, fun _ _ => ⟨trivial, fun _ _ =>
        ⟨trivial, fun _ _ => ⟨trivial, fun _ _ => trivial⟩⟩⟩⟩⟩⟩⟩⟩
    obtain rfl := Except.ok.inj result
    obtain rfl := Except.ok.inj starts
    obtain rfl := Except.ok.inj offers
    exact fun _ _ => rfl
  obtain ⟨service, waiting, ran, accounts⟩ := streamService_delivery _ _ possible
  obtain rfl := Except.ok.inj ran
  exact ⟨_, waiting, ran, rfl, accounts⟩

/-! ## The end -/

/-- The free list with what its buffers say. -/
private theorem linked_of_chained {memory : Nat → Option StreamData} {head : Option Nat}
    (chained : BufferPool.Chained memory head free) :
    ∃ spare : List (Nat × StreamData), spare.map Prod.fst = free ∧
      Linked StreamData.next memory head spare := by
  induction free generalizing head with
  | nil => exact ⟨[], rfl, chained⟩
  | cons address rest induction =>
      obtain ⟨starts, data, present, chained⟩ := chained
      obtain ⟨spare, places, linked⟩ := induction chained
      exact ⟨(address, data) :: spare, congrArg _ places, starts, present, linked⟩

/-- Closing the service at any point of a run frees every node of its queue, and of the buffers just
those that nobody has: what waits in the queue by then and what was lost is never freed. -/
theorem scCloseService_frees (buf : Nat → Text) (events : List ScEvent)
    (possible : (initial buf).AllPossible events) :
    ∃ service count, (initial buf).run events = .ok service ∧ ∀ fuel ≥ count, ∃ closed,
      service.scCloseService fuel = .ok (some closed) ∧
      (∀ address, closed.scQueue.memory address = none) ∧ closed.buffers.pool.icyHead = none ∧
      ∀ address,
        (closed.buffers.pool.memory address).isSome ↔ address ∈ service.buffers.inUse := by
  obtain ⟨service, cells, pool, free, result, accounted⟩ := (initial_accounted buf).run possible
  have pooled := accounted.pooled
  obtain ⟨spare, rfl, linked⟩ := linked_of_chained pooled.chained
  have apart := List.nodup_append.mp pooled.distinct
  refine ⟨service, (cells ++ pool).length + spare.length, result, fun fuel enough => ?_⟩
  have nodes :=
    accounted.keeps.threadQueueCleanup (show (cells ++ pool).length ≤ fuel by omega) false
  have buffers := linked.freeNodes_eq apart.1 (show spare.length ≤ fuel by omega)
  refine ⟨{ service with
    scQueue := { service.scQueue with memory := fun _ => none }
    buffers := { service.buffers with
      pool := { service.buffers.pool with
        icyHead := none
        memory := fun address => if address ∈ spare.map Prod.fst then none
          else service.buffers.pool.memory address } } }, ?_, fun _ => rfl, rfl, fun address => ?_⟩
  · simp only [scCloseService, nodes, buffers]
    rfl
  · by_cases spared : address ∈ spare.map Prod.fst
    · simp only [spared, if_true, Option.isSome_none, Bool.false_eq_true, false_iff]
      exact fun used => apart.2.2 address spared address used rfl
    · simp only [spared, if_false]
      refine ⟨fun allocated => ?_, pooled.allocated address⟩
      exact (List.mem_append.mp (pooled.owned address allocated)).resolve_left spared

/-! ## Without a server -/

/-- The thread tries to connect. -/
def Away (service : StreamService) : Prop :=
  service.place = .connected ∨ service.place = .reconnect

private theorem fill_place (service : StreamService) (bytes : Text) (malloc : Option Nat) :
    (service.fill bytes malloc).place = service.place ∧
      (service.fill bytes malloc).sent = service.sent := by
  unfold fill
  cases service.buffers.pool.scBufferGet bytes.length malloc with
  | mk sdata pool => cases sdata <;> exact ⟨rfl, rfl⟩

private theorem offer_place (service : StreamService) :
    service.offer.place = service.place ∧ service.offer.sent = service.sent := by
  unfold offer
  split
  · split <;> exact ⟨rfl, rfl⟩
  · exact ⟨rfl, rfl⟩

private theorem add_place {service next : StreamService} {malloc : Option Nat}
    (added : service.add malloc = .ok next) :
    next.place = service.place ∧ next.sent = service.sent := by
  unfold add at added
  split at added
  · next sdata bytes _ =>
      cases result : service.scQueue.threadQueueAdd (some sdata) scData malloc with
      | error fault => rw [result] at added; cases added
      | ok answer =>
          rw [result] at added
          change (if answer.1 = .success then _ else _) = _ at added
          split at added <;> cases added <;> exact ⟨rfl, rfl⟩
  · cases added
    exact ⟨rfl, rfl⟩

private theorem addQuit_place {service next : StreamService} {malloc : Option Nat}
    (added : service.addQuit malloc = .ok next) :
    next.place = service.place ∧ next.sent = service.sent := by
  unfold addQuit at added
  cases result : service.scQueue.threadQueueAdd none scQuit malloc with
  | error fault => rw [result] at added; cases added
  | ok answer =>
      rw [result] at added
      cases added
      exact ⟨rfl, rfl⟩

/-- While no connection can be opened, every event leaves the thread where it is. -/
theorem Away.step {service next : StreamService} {event : ScEvent} (away : service.Away)
    (down : ∀ answer, event = .thread answer → answer = false)
    (stepped : service.step event = .ok next) : next.Away ∧ next.sent = service.sent := by
  have stays : next.place = service.place ∧ next.sent = service.sent →
      next.Away ∧ next.sent = service.sent := fun same =>
    ⟨by rw [Away, same.1]; exact away, same.2⟩
  cases event with
  | fill bytes malloc =>
      cases stepped
      exact stays (service.fill_place bytes malloc)
  | offer =>
      cases stepped
      exact stays service.offer_place
  | add malloc => exact stays (add_place stepped)
  | quit =>
      cases stepped
      exact stays ⟨rfl, rfl⟩
  | addQuit malloc => exact stays (addQuit_place stepped)
  | thread answer =>
      rw [down answer rfl] at stepped
      rcases away with here | here
      · rw [StreamService.step, scServiceThread, here] at stepped
        cases stepped
        exact ⟨Or.inr rfl, rfl⟩
      · rw [StreamService.step, scServiceThread, here] at stepped
        cases stepped
        refine ⟨?_, rfl⟩
        change (if _ then _ else _) = _ ∨ (if _ then _ else _) = _
        split
        · exact Or.inl rfl
        · exact Or.inr rfl

/-- While no connection can be opened, the thread neither sends nor ends, also when it is
asked to. -/
theorem streamService_away {service last : StreamService} {events : List ScEvent}
    (away : service.Away) (down : ∀ answer, ScEvent.thread answer ∈ events → answer = false)
    (ran : service.run events = .ok last) :
    last.Away ∧ last.sent = service.sent := by
  induction events generalizing service with
  | nil =>
      cases ran
      exact ⟨away, rfl⟩
  | cons event events induction =>
      cases stepped : service.step event with
      | error fault =>
          rw [StreamService.run, List.foldlM_cons, stepped] at ran
          cases ran
      | ok next =>
          rw [StreamService.run, List.foldlM_cons, stepped] at ran
          have first :=
            away.step (fun answer same => down answer (same ▸ List.mem_cons_self)) stepped
          have rest := induction first.1 (fun answer member =>
            down answer (List.mem_cons_of_mem _ member)) ran
          exact ⟨rest.1, rest.2.trans first.2⟩

/-- The server is asked to close, and the thread goes on. -/
theorem streamService_away_quit :
    ∃ last, StreamService.run { initial fun _ => [] with place := .connected }
        [.thread false, .quit, .addQuit (some 1), .thread false] = .ok last ∧
      last.Away ∧ last.sent = [] := by
  have runs : ∃ last, StreamService.run { initial fun _ => [] with place := .connected }
      [.thread false, .quit, .addQuit (some 1), .thread false] = .ok last := ⟨_, rfl⟩
  obtain ⟨last, ran⟩ := runs
  exact ⟨last, ran, streamService_away (Or.inl rfl) (by simp) ran⟩

end StreamService

end Pianod
