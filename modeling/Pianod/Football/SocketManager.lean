import Pianod.Football.Connection
import Pianod.Football.SocketRegistry

/-!
# The socket manager and TLS

TLS may have decrypted more than was asked for, and `select` knows nothing of that.  A bit for each
descriptor and one flag for all of them make the next `select` call return at once; its answer is
then completed with the descriptors that have the bit.  What the event handlers do to the registry
is given as the list of their calls.
-/

namespace Football

open Foundation

namespace Registry

/-- Whether a descriptor is in a set. -/
def isSet (sets : List (List Nat)) (index socketFd : Nat) : Bool :=
  decide (socketFd ∈ sets.getD index [])

/-- The pairs of sets and descriptors, in the order in which they are searched. -/
def places (maxsockets : Nat) : List (Nat × Nat) :=
  (List.range actionSelectCount).flatMap fun action =>
    (List.range maxsockets).map fun socketFd => (action, socketFd)

/-- What was found, in the order in which it is searched. -/
def found (registry : Registry) : List (Nat × Nat) :=
  (places registry.maxsockets).filter fun place => isSet registry.lastState place.1 place.2

/-- What was found from some place on. -/
def foundFrom (registry : Registry) (action socketFd : Nat) : List (Nat × Nat) :=
  registry.found.filter fun place =>
    decide (action < place.1) || (action == place.1 && decide (socketFd ≤ place.2))

/-- Copy what is watched to where the answers of `select` are put. -/
def copyMasks (registry : Registry) : Registry :=
  { registry with lastState := (List.range actionSelectCount).map fun index =>
      registry.selectState.getD index [] }

/-- Descriptors for which TLS has data and `select` found none. -/
def buffered (registry : Registry) : List Nat :=
  (List.range registry.maxsockets).filter fun socketFd =>
    isSet registry.selectState Action.buffering.index socketFd &&
      !isSet registry.lastState Action.reading.index socketFd

/-- Add the buffered reads to what was found. -/
def addBuffered (registry : Registry) : Registry :=
  { registry with lastState :=
      registry.lastState.modify Action.reading.index fun known => registry.buffered ++ known }

end Registry

/-- A connection, as far as its TLS session goes. -/
structure TlsPeer where
  /-- Whether the connection uses TLS. -/
  encrypted : Bool
  state : SocketState
  /-- Whether decrypted bytes are waiting in the session. -/
  pending : Bool
deriving DecidableEq, Repr

/-- A service on its way out: its listening sockets, and whether its end was announced. -/
structure Reaping where
  sockets : List Nat
  shutdownEventDone : Bool
deriving DecidableEq, Repr

structure SocketManager where
  /-- The registered sockets and the sets of `select`. -/
  registry : Registry
  /-- The connection that is registered under a descriptor. -/
  peers : Nat → TlsPeer
  /-- Whether an event was queued. -/
  queuedEvent : Bool
  /-- The services that are being closed. -/
  reapq : List Reaping
  /-- Set while a connection has decrypted input waiting. -/
  tlsCurrentlyBuffering : Bool
  /-- How many descriptors of the last `select` are still to be attended to. -/
  eventsRemaining : Int
  /-- The set that the search is in. -/
  processAction : Nat
  /-- The descriptor that the search is at. -/
  processFd : Nat
  /-- The poll routine is in the middle of its search. -/
  searching : Bool

/-- How a pass through the poll routine ends: it goes on, or it returns an event. -/
inductive Reply where
  | goesOn
  | null
  | queued
  | stopped
  | timeout
  | event
deriving DecidableEq, Repr

/-- The states in which a connection accepts input. -/
abbrev ReadingState := { state : SocketState // state.rank ≤ SocketState.opened.rank }

/-- What handlers and applications ask of the socket manager. -/
inductive Call where
  | register (socketFd : Nat) (type : SocketType) (thing : Nat) (reallocated allocated : Bool)
      (encrypted : Bool) (state : ReadingState)
  | unregister (socketFd : Nat)
  | setWritable (socketFd : Nat) (enable : Bool)
  | acceptInput (socketFd : Nat) (input : Bool)
  | closeConnection (socketFd : Nat)
  | stopListening (socketFd : Nat)
  | enterState (socketFd : Nat) (state : ReadingState)
  | finishFlushing (socketFd : Nat)
  | queueEvent
  | scheduleReap (sockets : List Nat)

/-- What the outside world answers during one pass: how often `select` is interrupted, what it then
finds, if it does not fail otherwise, and what the handler of a descriptor does. -/
structure PassAnswer where
  interruptions : Nat
  ready : Option (Nat → List Nat)
  calls : List Call
  pending : Bool
  event : Bool

namespace SocketManager

/-- Nothing is registered. -/
def initial : SocketManager where
  registry := .empty
  peers := fun _ => ⟨false, .opened, false⟩
  queuedEvent := false
  reapq := []
  tlsCurrentlyBuffering := false
  eventsRemaining := 0
  processAction := 0
  processFd := 0
  searching := false

/-- A connection is registered under a descriptor. -/
def HasConnection (manager : SocketManager) (socketFd : Nat) : Prop :=
  ∃ data, manager.registry.sockets[socketFd]? = some (some data) ∧ data.type = .connection

/-- Read the connection that is registered under a descriptor. -/
def connection (manager : SocketManager) (socketFd : Nat) : Except Fault TlsPeer :=
  match manager.registry.sockets[socketFd]? with
  | some (some data) =>
      if data.type = .connection then .ok (manager.peers socketFd) else .error .useAfterFree
  | _ => .error .useAfterFree

/-- Write the connection that is registered under a descriptor. -/
def setPeer (manager : SocketManager) (socketFd : Nat) (peer : TlsPeer) : SocketManager :=
  { manager with peers := Function.update manager.peers socketFd peer }

def setFlags (manager : SocketManager) (socketFd : Nat) (group : Action) (enable : Bool) :
    Except Fault SocketManager :=
  (manager.registry.setSocketSelectFlags socketFd group enable).map fun registry =>
    { manager with registry := registry }

/-- Note whether TLS has data for a descriptor. -/
def setBuffering (manager : SocketManager) (socketFd : Nat) (enable : Bool) :
    Except Fault SocketManager :=
  (manager.setFlags socketFd .buffering enable).map fun flagged =>
    { flagged with tlsCurrentlyBuffering := manager.tlsCurrentlyBuffering || enable }

def setReadable (manager : SocketManager) (socketFd : Nat) (enable : Bool) :
    Except Fault SocketManager :=
  manager.setFlags socketFd .reading enable

def setWritable (manager : SocketManager) (socketFd : Nat) (enable : Bool) :
    Except Fault SocketManager :=
  manager.setFlags socketFd .writing enable

/-- Enable or disable reading on a connection. -/
def acceptInput (manager : SocketManager) (socketFd : Nat) (input : Bool) :
    Except Fault SocketManager := do
  let peer ← manager.connection socketFd
  if peer.state ≠ .opened then throw (.assertion "connection->state == FB_SOCKET_STATE_OPEN")
  let readable ← manager.setReadable socketFd
    (input && decide (peer.state.rank ≤ SocketState.opened.rank))
  if input then
    if peer.encrypted && decide (SocketState.tlsHandshake.rank < peer.state.rank) &&
        decide (peer.state.rank ≤ SocketState.opened.rank) then
      readable.setBuffering socketFd peer.pending
    else return readable
  else readable.setBuffering socketFd false

/-- Start to close a connection. -/
def closeConnection (manager : SocketManager) (socketFd : Nat) : Except Fault SocketManager := do
  let peer ← manager.connection socketFd
  let closing := if peer.state.rank ≤ SocketState.opened.rank then
      manager.setPeer socketFd { peer with state := .flushing }
    else manager
  let writable ← closing.setWritable socketFd true
  let readable ← writable.setReadable socketFd false
  readable.setBuffering socketFd false

/-- Carry out a call. -/
def call (manager : SocketManager) : Call → Except Fault SocketManager
  | .register socketFd type thing reallocated allocated encrypted state => do
      let (entered, registry) ←
        manager.registry.register socketFd type thing reallocated allocated
      let registered := { manager with registry := registry }
      return if entered then registered.setPeer socketFd ⟨encrypted, state, false⟩ else registered
  | .unregister socketFd =>
      (manager.registry.unregister socketFd).map fun registry =>
        { manager with registry := registry }
  | .setWritable socketFd enable => manager.setWritable socketFd enable
  | .acceptInput socketFd input => manager.acceptInput socketFd input
  | .closeConnection socketFd => manager.closeConnection socketFd
  | .stopListening socketFd =>
      match manager.registry.sockets[socketFd]? with
      | some (some data) =>
          if data.type = .service then manager.setReadable socketFd false
          else .error .useAfterFree
      | _ => .error .useAfterFree
  | .enterState socketFd state => do
      let peer ← manager.connection socketFd
      return manager.setPeer socketFd { peer with state := state }
  | .finishFlushing socketFd => do
      let peer ← manager.connection socketFd
      return if peer.state = .flushing then
          manager.setPeer socketFd { peer with state := .closing }
        else manager
  | .queueEvent =>
      if manager.queuedEvent then .error (.assertion "!queued_event")
      else .ok { manager with queuedEvent := true }
  | .scheduleReap sockets => .ok { manager with reapq := ⟨sockets, false⟩ :: manager.reapq }

/-- Carry out calls one after the other. -/
def callAll (manager : SocketManager) (calls : List Call) : Except Fault SocketManager :=
  FallibleRun.run call manager calls

/-! ## The poll routine -/

/-- Unregister the listening sockets of a service. -/
def unregisterAll (registry : Registry) (sockets : List Nat) : Except Fault Registry :=
  FallibleRun.run Registry.unregister registry sockets

/-- Free the services at the head of the queue whose end was announced. -/
def reap (registry : Registry) : List Reaping → Except Fault (Registry × List Reaping)
  | [] => .ok (registry, [])
  | reaping :: reapq =>
      if reaping.shutdownEventDone then
        match unregisterAll registry reaping.sockets with
        | .error fault => .error fault
        | .ok freed => reap freed reapq
      else .ok (registry, reaping :: reapq)

/-- The part of the poll routine before `select`: it returns an event, or goes on. -/
def announce (manager : SocketManager) : Except Fault (Reply × SocketManager) := do
  if manager.registry.maxsockets = 0 then throw (.assertion "maxsockets > 0")
  if manager.registry.activesockets = 0 then return (.null, manager)
  if manager.queuedEvent then return (.queued, { manager with queuedEvent := false })
  if manager.reapq = [] then return (.goesOn, manager)
  let (registry, reapq) ← reap manager.registry manager.reapq
  match reapq with
  | reaping :: rest =>
      return (.stopped, { manager with
        registry := registry
        reapq := { reaping with shutdownEventDone := true } :: rest })
  | [] =>
      let reaped := { manager with registry := registry, reapq := [] }
      return (if registry.activesockets = 0 then .stopped else .goesOn, reaped)

/-- Whether the `select` call of a pass fails; only one that may block is repeated when it is
interrupted. -/
def selectFails (manager : SocketManager) (answer : PassAnswer) : Bool :=
  (manager.tlsCurrentlyBuffering && decide (0 < answer.interruptions)) || answer.ready.isNone

/-- What a `select` call puts into the sets, and the number it returns; one that fails leaves the
copies of the masks alone. -/
def selectOnce (manager : SocketManager) (answer : PassAnswer) : Registry × Int :=
  let copied := manager.registry.copyMasks
  if manager.selectFails answer then (copied, -1)
  else
    let selected := copied.select (answer.ready.getD fun _ => [])
    (selected, selected.found.length)

/-- The answer of `select`, completed with the buffered reads. -/
def selectBuffered (manager : SocketManager) (answer : PassAnswer) : Registry × Int :=
  let (registry, count) := manager.selectOnce answer
  if manager.tlsCurrentlyBuffering then
    (registry.addBuffered, count + registry.buffered.length)
  else (registry, count)

/-- Call `select` and start to search what it found. -/
def selectSockets (manager : SocketManager) (answer : PassAnswer) : Reply × SocketManager :=
  let (registry, count) := manager.selectBuffered answer
  let selected := { manager with
    registry := registry
    tlsCurrentlyBuffering := false
    eventsRemaining := max count 0
    processAction := 0
    processFd := 0 }
  if count < 0 then (.null, selected)
  else if count = 0 then (.timeout, selected)
  else (.goesOn, { selected with searching := true })

/-- After a read, note what TLS has buffered for the connection. -/
def noteBuffering (manager : SocketManager) (socketFd : Nat) (pending : Bool) :
    Except Fault SocketManager :=
  match manager.connection socketFd with
  | .error _ => .ok manager
  | .ok peer =>
      if peer.encrypted then
        (manager.setPeer socketFd { peer with pending := pending }).setBuffering socketFd
          (decide (peer.state.rank ≤ SocketState.opened.rank) &&
            Registry.isSet manager.registry.selectState Action.reading.index socketFd && pending)
      else .ok manager

/-- Process a descriptor that is ready. -/
def processEvent (manager : SocketManager) (action socketFd : Nat) (answer : PassAnswer) :
    Except Fault SocketManager := do
  if manager.registry.activesockets ≤ socketFd then
    throw (.assertion "socket_fd >= 0 && socket_fd < activesockets")
  match ← manager.registry.slot socketFd with
  | none => throw (.assertion "sockets [socket_fd]")
  | some data =>
      if data.type ≠ .user ∧ (action = Action.faulting.index ∨
          data.type = .service ∧ action = Action.writing.index) then throw (.assertion "0")
      let handled ← manager.callAll answer.calls
      if data.type = .connection ∧ action = Action.reading.index then
        handled.noteBuffering socketFd answer.pending
      else return handled

/-- Search for the next descriptor that needs attention and attend to it. -/
def search (manager : SocketManager) (answer : PassAnswer) :
    Except Fault (Reply × SocketManager) := do
  match manager.registry.foundFrom manager.processAction manager.processFd with
  | [] => return (.goesOn, { manager with eventsRemaining := 0, searching := false })
  | (action, socketFd) :: _ =>
      let counted := { manager with
        eventsRemaining := manager.eventsRemaining - 1
        processAction := action
        processFd := socketFd }
      let processed ← counted.processEvent action socketFd answer
      if answer.event then
        let bumped := if socketFd + 1 < processed.registry.maxsockets then
            { processed with processFd := socketFd + 1 }
          else { processed with processFd := 0, processAction := action + 1 }
        return (.event, { bumped with searching := false })
      else if processed.eventsRemaining ≤ 0 then
        return (.goesOn, { processed with searching := false })
      else return (.goesOn, { processed with processFd := socketFd + 1 })

/-- A pass through the poll routine: up to the next event, the next descriptor, or the point from
which it polls again. -/
def pass (manager : SocketManager) (answer : PassAnswer) : Except Fault (Reply × SocketManager) :=
  if manager.searching then manager.search answer
  else do
    let (reply, announced) ← manager.announce
    if reply ≠ .goesOn then return (reply, announced)
    else if announced.eventsRemaining = 0 then return announced.selectSockets answer
    else return (.goesOn, { announced with searching := true })

/-- What moves the socket manager. -/
inductive ManagerAction where
  | pass (answer : PassAnswer)
  | call (call : Call)

/-- What an action does. -/
def step (manager : SocketManager) : ManagerAction → Except Fault SocketManager
  | .pass answer => (manager.pass answer).map Prod.snd
  | .call call => manager.call call

end SocketManager

/-! ## What the registry does to its sets -/

namespace Registry

theorem isSet_iff {sets : List (List Nat)} {index socketFd : Nat} :
    isSet sets index socketFd = true ↔ socketFd ∈ sets.getD index [] := by
  simp [isSet]

theorem getD_modify {sets : List (List Nat)} {change : List Nat → List Nat} {index other : Nat}
    (inside : index < sets.length) :
    (sets.modify index change).getD other [] =
      if other = index then change (sets.getD other []) else sets.getD other [] := by
  simp only [List.getD_eq_getElem?_getD, List.getElem?_modify]
  by_cases same : other = index
  · subst same
    simp [List.getElem?_eq_getElem inside]
  · simp [same, Ne.symm same]

theorem watched_of_isSet {registry : Registry} {index socketFd : Nat}
    (watched : isSet registry.selectState index socketFd = true) : registry.Watched socketFd := by
  have member := isSet_iff.mp watched
  rw [List.getD_eq_getElem?_getD] at member
  cases found : registry.selectState[index]? with
  | none =>
      rw [found] at member
      cases member
  | some known =>
      rw [found] at member
      exact ⟨known, List.mem_of_getElem? found, member⟩

theorem pending_of_isSet {registry : Registry} {index socketFd : Nat}
    (pending : isSet registry.lastState index socketFd = true) : registry.Pending socketFd := by
  have member := isSet_iff.mp pending
  rw [List.getD_eq_getElem?_getD] at member
  cases found : registry.lastState[index]? with
  | none =>
      rw [found] at member
      cases member
  | some known =>
      rw [found] at member
      exact ⟨known, List.mem_of_getElem? found, member⟩

/-- Only descriptors within the array of sockets are watched. -/
theorem Sound.lt_of_watched {registry : Registry} (sound : registry.Sound) {index socketFd : Nat}
    (watched : isSet registry.selectState index socketFd = true) :
    socketFd < registry.maxsockets := by
  rw [← sound.size]
  exact (sound.watched socketFd (watched_of_isSet watched)).lt_length

theorem Sound.lt_of_pending {registry : Registry} (sound : registry.Sound) {index socketFd : Nat}
    (pending : isSet registry.lastState index socketFd = true) :
    socketFd < registry.maxsockets := by
  rw [← sound.size]
  exact (sound.pending socketFd (pending_of_isSet pending)).lt_length

/-- Enabling or disabling changes one bit. -/
theorem Sound.flags {registry next : Registry} (sound : registry.Sound) {socketFd : Nat}
    {group : Action} {enable : Bool}
    (move : registry.setSocketSelectFlags socketFd group enable = .ok next) :
    next.Sound ∧ next.sockets = registry.sockets ∧ next.maxsockets = registry.maxsockets ∧
      next.lastState = registry.lastState ∧
      ∀ index other, isSet next.selectState index other =
        if index = group.index ∧ other = socketFd then enable
        else isSet registry.selectState index other := by
  have inside : group.index < registry.selectState.length := by
    rw [sound.selectCount]
    exact group.index_lt
  have next_sound : next.Sound := by
    have outcome := @Sound.step registry sound (.setFlags socketFd group enable) trivial
    rw [Registry.step, move] at outcome
    exact outcome.1
  simp only [setSocketSelectFlags] at move
  split at move
  · cases move
  · split at move
    · cases move
    · cases move
    · have same := Except.ok.inj move
      cases enable with
      | true =>
          simp only [if_true] at same
          subst same
          rw [Registry.fdSet, if_pos inside] at next_sound ⊢
          refine ⟨next_sound, rfl, rfl, rfl, fun index other => ?_⟩
          rw [Bool.eq_iff_iff, isSet_iff, getD_modify inside]
          by_cases same_set : index = group.index
          · by_cases same_fd : other = socketFd
            · simp [same_set, same_fd]
            · simp [same_set, same_fd, mem_clear, isSet_iff]
          · simp [same_set, isSet_iff]
      | false =>
          simp only [Bool.false_eq_true, if_false] at same
          subst same
          rw [Registry.fdClr, if_pos inside] at next_sound ⊢
          refine ⟨next_sound, rfl, rfl, rfl, fun index other => ?_⟩
          rw [Bool.eq_iff_iff, isSet_iff, getD_modify inside]
          by_cases same_set : index = group.index
          · by_cases same_fd : other = socketFd
            · simp [same_set, same_fd, mem_clear]
            · simp [same_set, same_fd, mem_clear, isSet_iff]
          · simp [same_set, isSet_iff]

/-- Unregistering clears the bits of a descriptor and its slot. -/
theorem Sound.unregister_sets {registry next : Registry} (sound : registry.Sound) {socketFd : Nat}
    (move : registry.unregister socketFd = .ok next) :
    next.maxsockets = registry.maxsockets ∧
      (∀ other data, next.sockets[other]? = some (some data) ↔
        other ≠ socketFd ∧ registry.sockets[other]? = some (some data)) ∧
      (∀ index other, isSet next.selectState index other =
        (isSet registry.selectState index other && decide (other ≠ socketFd))) ∧
      ∀ index other, isSet next.lastState index other =
        (isSet registry.lastState index other && decide (other ≠ socketFd)) := by
  have cleared : ∀ (sets : List (List Nat)) (index other : Nat),
      isSet (sets.map (clear socketFd)) index other =
        (isSet sets index other && decide (other ≠ socketFd)) := by
    intro sets index other
    rw [Bool.eq_iff_iff, Bool.and_eq_true, isSet_iff, isSet_iff, decide_eq_true_iff]
    simp only [List.getD_eq_getElem?_getD, List.getElem?_map]
    cases sets[index]? with
    | none => simp
    | some known => simp [mem_clear]
  simp only [Registry.unregister] at move
  split at move
  · cases move
  · split at move
    · cases move
    · cases move
    · rw [cancel_eq sound.selectCount sound.lastCount, Except.ok.injEq] at move
      subst move
      refine ⟨rfl, fun other data => ?_, fun index other => cleared _ index other,
        fun index other => cleared _ index other⟩
      simp only [List.getElem?_set]
      by_cases same : socketFd = other
      · subst same
        simp
      · simp [same, Ne.symm same]

/-- What registering a descriptor changes: its slot and one bit, when it is entered. -/
structure Registers (registry next : Registry) (socketFd : Nat) (type : SocketType)
    (entered : Bool) : Prop where
  sound : next.Sound
  lastState : next.lastState = registry.lastState
  room : registry.maxsockets ≤ next.maxsockets
  slots : ∀ other data, other ≠ socketFd ∨ entered = false →
    (next.sockets[other]? = some (some data) ↔ registry.sockets[other]? = some (some data))
  fresh : entered = true → ¬registry.Registered socketFd
  type : entered = true →
    ∀ data, next.sockets[socketFd]? = some (some data) → data.type = type
  bits : ∀ index other, isSet next.selectState index other =
    (isSet registry.selectState index other ||
      (entered && decide (index = Action.reading.index ∧ other = socketFd)))

theorem Sound.enter_registers {registry next : Registry} (sound : registry.Sound) {socketFd : Nat}
    {type : SocketType} {thing : Nat} {allocated entered : Bool}
    (move : registry.enter socketFd type thing allocated = .ok (entered, next)) :
    Registers registry next socketFd type entered := by
  have vacant : registry.slot socketFd = .ok none := by
    simp only [Registry.enter] at move
    split at move
    · cases move
    · cases move
    · assumption
  have place : registry.sockets[socketFd]? = some none := by
    simp only [slot] at vacant
    split at vacant
    · cases vacant
    · rename_i data found
      rw [Except.ok.inj vacant] at found
      exact found
  have inside : socketFd < registry.sockets.length := (List.getElem?_eq_some_iff.mp place).1
  have fresh : ¬registry.Registered socketFd := by
    rintro ⟨data, found⟩
    rw [place] at found
    cases found
  have next_sound : next.Sound := by
    rw [sound.size] at inside
    obtain ⟨again, after, same_move, reaches⟩ := sound.enter fresh inside type thing allocated
    rw [move] at same_move
    obtain ⟨-, rfl⟩ := Prod.mk.inj (Except.ok.inj same_move)
    exact reaches.1
  simp only [Registry.enter, vacant] at move
  cases allocated with
  | false =>
      obtain ⟨rfl, rfl⟩ := Prod.mk.inj (Except.ok.inj move)
      exact ⟨sound, rfl, Nat.le_refl _, fun _ _ _ => Iff.rfl,
        fun made => absurd made Bool.false_ne_true,
        fun made => absurd made Bool.false_ne_true, fun index other => by simp⟩
  | true =>
      have reading : Action.reading.index < registry.selectState.length := by
        rw [sound.selectCount]
        exact Action.index_lt .reading
      obtain ⟨rfl, same⟩ := Prod.mk.inj (Except.ok.inj move)
      rw [Registry.fdSet, if_pos reading] at same
      subst same
      refine ⟨next_sound, rfl, Nat.le_refl _, fun other data different => ?_, fun _ => fresh,
        fun _ data found => ?_, fun index other => ?_⟩
      · have apart : socketFd ≠ other := by
          rcases different with different | impossible
          · exact Ne.symm different
          · cases impossible
        simp [apart]
      · simp only [List.getElem?_set, inside, if_true] at found
        rw [← Option.some.inj (Option.some.inj found)]
      · rw [Bool.eq_iff_iff, isSet_iff, getD_modify reading]
        by_cases same_set : index = Action.reading.index
        · by_cases same_fd : other = socketFd
          · simp [same_set, same_fd]
          · simp [same_set, same_fd, mem_clear, isSet_iff]
        · simp [same_set, isSet_iff]

/-- Growing the array keeps every slot. -/
theorem grow_slot (registry : Registry) (wanted other : Nat) (data : SocketData) :
    (registry.grow wanted).sockets[other]? = some (some data) ↔
      registry.sockets[other]? = some (some data) := by
  simp only [Registry.grow]
  rcases Nat.lt_or_ge other registry.sockets.length with early | late
  · rw [List.getElem?_append_left early]
  · rw [List.getElem?_append_right late, List.getElem?_eq_none late]
    constructor
    · intro found
      have := List.eq_of_mem_replicate (List.mem_of_getElem? found)
      cases this
    · intro found
      cases found

/-- The registry as it is when registering has set up its sets. -/
structure Prepared (registry initialized : Registry) : Prop where
  sound : initialized.Sound
  sockets : initialized.sockets = registry.sockets
  lastState : initialized.lastState = registry.lastState
  size : initialized.maxsockets = registry.maxsockets
  bits : ∀ index other,
    isSet initialized.selectState index other = isSet registry.selectState index other

/-- The sets are emptied only when nothing is registered, and then they are empty already. -/
theorem Sound.prepared {registry : Registry} (sound : registry.Sound) :
    Prepared registry (if registry.maxsockets = 0 then
      { registry with selectState := registry.selectState.map fun _ => [] } else registry) := by
  split
  · rename_i unused
    refine ⟨sound.reset, rfl, rfl, rfl, fun index other => ?_⟩
    have nothing : isSet (registry.selectState.map fun _ => []) index other = false := by
      simp only [isSet, List.getD_eq_getElem?_getD, List.getElem?_map, decide_eq_false_iff_not]
      cases registry.selectState[index]? <;> simp
    rw [nothing]
    symm
    apply Bool.eq_false_iff.mpr
    intro watched
    have inside := sound.lt_of_watched watched
    rw [unused] at inside
    exact absurd inside (Nat.not_lt_zero other)
  · exact ⟨sound, rfl, rfl, rfl, fun _ _ => rfl⟩

theorem Sound.register_registers {registry next : Registry} (sound : registry.Sound)
    {socketFd : Nat} {type : SocketType} {thing : Nat} {reallocated allocated entered : Bool}
    (move : registry.register socketFd type thing reallocated allocated = .ok (entered, next)) :
    Registers registry next socketFd type entered := by
  have prepared := sound.prepared
  simp only [Registry.register] at move
  generalize (if registry.maxsockets = 0 then
    { registry with selectState := registry.selectState.map fun _ => [] } else registry) =
      initialized at move prepared
  have unchanged : (false, initialized) = (entered, next) →
      Registers registry next socketFd type entered := by
    intro same
    obtain ⟨rfl, rfl⟩ := Prod.mk.inj same
    refine ⟨prepared.sound, prepared.lastState, Nat.le_of_eq prepared.size.symm,
      fun other data _ => ?_, fun made => absurd made Bool.false_ne_true,
      fun made => absurd made Bool.false_ne_true, fun index other => ?_⟩
    · rw [prepared.sockets]
    · simp [prepared.bits]
  split at move
  · exact unchanged (Except.ok.inj move)
  · split at move
    · rename_i full
      cases reallocated with
      | false => exact unchanged (Except.ok.inj move)
      | true =>
          have registers := (prepared.sound.grow full).enter_registers move
          refine ⟨registers.sound, registers.lastState.trans prepared.lastState, ?_,
            fun other data different => ?_, fun made registered => ?_, registers.type,
            fun index other => ?_⟩
          · calc registry.maxsockets = initialized.maxsockets := prepared.size.symm
              _ ≤ grownSize initialized.maxsockets socketFd :=
                le_grownSize prepared.sound.capped full
              _ ≤ next.maxsockets := registers.room
          · rw [registers.slots other data different, grow_slot, prepared.sockets]
          · obtain ⟨data, found⟩ := registered
            rw [← prepared.sockets] at found
            exact registers.fresh made ⟨data, (grow_slot _ _ _ _).mpr found⟩
          · rw [registers.bits index other, ← prepared.bits index other]
            rfl
    · have registers := prepared.sound.enter_registers move
      refine ⟨registers.sound, registers.lastState.trans prepared.lastState, ?_,
        fun other data different => ?_, fun made registered => ?_, registers.type,
        fun index other => ?_⟩
      · rw [← prepared.size]
        exact registers.room
      · rw [registers.slots other data different, prepared.sockets]
      · obtain ⟨data, found⟩ := registered
        exact registers.fresh made ⟨data, by rw [prepared.sockets]; exact found⟩
      · rw [registers.bits index other, prepared.bits index other]

end Registry

end Football
