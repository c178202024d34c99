import Mathlib.Data.List.Perm.Subperm
import Pianod.Football.SocketManager

/-!
# No TLS wakeup is lost

A connection whose TLS session holds data is either noted for the next `select` call or still to be
searched in the current round.  Every call of a handler or of the application keeps this for all
connections, and the poll routine restores it for the connection it has read from.
-/

namespace Football

open Foundation

namespace Registry

theorem mem_places {maxsockets : Nat} {place : Nat × Nat} :
    place ∈ places maxsockets ↔ place.1 < actionSelectCount ∧ place.2 < maxsockets := by
  simp only [places, List.mem_flatMap, List.mem_map, List.mem_range]
  constructor
  · rintro ⟨action, inside, socketFd, below, rfl⟩
    exact ⟨inside, below⟩
  · rintro ⟨inside, below⟩
    exact ⟨place.1, inside, place.2, below, rfl⟩

/-- One place comes before another in the search. -/
def Precedes (left right : Nat × Nat) : Prop :=
  left.1 < right.1 ∨ left.1 = right.1 ∧ left.2 < right.2

private theorem places_sorted (maxsockets : Nat) : (places maxsockets).Pairwise Precedes := by
  simp only [places]
  apply List.pairwise_flatMap.mpr
  constructor
  · intro action _
    rw [List.pairwise_map]
    exact List.pairwise_lt_range.imp fun below => .inr ⟨rfl, below⟩
  · refine List.pairwise_lt_range.imp fun {action later} below place here other there => ?_
    obtain ⟨socketFd, -, rfl⟩ := List.mem_map.mp here
    obtain ⟨otherFd, -, rfl⟩ := List.mem_map.mp there
    exact .inl below

/-- A place is at or after some point of the search. -/
def From (action socketFd : Nat) (place : Nat × Nat) : Prop :=
  action < place.1 ∨ action = place.1 ∧ socketFd ≤ place.2

theorem mem_foundFrom {registry : Registry} {action socketFd : Nat} {place : Nat × Nat} :
    place ∈ registry.foundFrom action socketFd ↔
      place.1 < actionSelectCount ∧ place.2 < registry.maxsockets ∧
        isSet registry.lastState place.1 place.2 = true ∧ From action socketFd place := by
  simp only [foundFrom, found, From, List.mem_filter, mem_places, Bool.or_eq_true, Bool.and_eq_true,
    decide_eq_true_iff, beq_iff_eq, and_assoc]

theorem foundFrom_sorted (registry : Registry) (action socketFd : Nat) :
    (registry.foundFrom action socketFd).Pairwise Precedes :=
  ((places_sorted registry.maxsockets).filter _).filter _

theorem foundFrom_nodup (registry : Registry) (action socketFd : Nat) :
    (registry.foundFrom action socketFd).Nodup := by
  refine (registry.foundFrom_sorted action socketFd).imp fun {left right} precedes => ?_
  rintro rfl
  rcases precedes with below | ⟨-, below⟩
  · exact Nat.lt_irrefl _ below
  · exact Nat.lt_irrefl _ below

/-- Behind the first place that was found lie the others. -/
theorem foundFrom_tail {registry : Registry} {action socketFd : Nat} {first : Nat × Nat}
    {rest : List (Nat × Nat)} (found : registry.foundFrom action socketFd = first :: rest)
    {place : Nat × Nat} :
    place ∈ registry.foundFrom first.1 (first.2 + 1) ↔ place ∈ rest := by
  have sorted := registry.foundFrom_sorted action socketFd
  rw [found] at sorted
  have first_here : From action socketFd first :=
    (mem_foundFrom.mp (found ▸ List.mem_cons_self)).2.2.2
  have same : ∀ other, other ∈ registry.foundFrom action socketFd ↔ other ∈ first :: rest := by
    intro other
    rw [found]
  constructor
  · intro member
    obtain ⟨inside, below, bit, beyond⟩ := mem_foundFrom.mp member
    have here : From action socketFd place := by
      simp only [From] at first_here beyond ⊢
      omega
    rcases List.mem_cons.mp ((same place).mp (mem_foundFrom.mpr ⟨inside, below, bit, here⟩)) with
      rfl | later
    · simp only [From] at beyond
      omega
    · exact later
  · intro later
    obtain ⟨inside, below, bit, -⟩ :=
      mem_foundFrom.mp ((same place).mpr (List.mem_cons_of_mem _ later))
    refine mem_foundFrom.mpr ⟨inside, below, bit, ?_⟩
    have precedes := (List.pairwise_cons.mp sorted).1 place later
    simp only [Precedes] at precedes
    simp only [From]
    omega

end Registry

namespace SocketManager

open Registry

/-- A connection that accepts input has data waiting in its TLS session. -/
structure Awaiting (manager : SocketManager) (socketFd : Nat) : Prop where
  connection : manager.HasConnection socketFd
  encrypted : (manager.peers socketFd).encrypted = true
  pending : (manager.peers socketFd).pending = true
  readable : isSet manager.registry.selectState Action.reading.index socketFd = true

/-- The next `select` call will not wait, and the descriptor is added to its answer. -/
def Noted (manager : SocketManager) (socketFd : Nat) : Prop :=
  manager.tlsCurrentlyBuffering = true ∧
    isSet manager.registry.selectState Action.buffering.index socketFd = true

/-- The search from some place on comes to the descriptor. -/
def Due (manager : SocketManager) (action from_fd socketFd : Nat) : Prop :=
  0 < manager.eventsRemaining ∧
    (Action.reading.index, socketFd) ∈ manager.registry.foundFrom action from_fd

/-- What holds of the poll routine when it is about to search from some place on; the connection
that it is busy with may be unattended. -/
structure Attentive (manager : SocketManager) (action from_fd : Nat) (busy : Option Nat) :
    Prop where
  sound : manager.registry.Sound
  nonneg : 0 ≤ manager.eventsRemaining
  counted : 0 < manager.eventsRemaining →
    ((manager.registry.foundFrom action from_fd).length : Int) ≤ manager.eventsRemaining
  buffering : ∀ socketFd,
    isSet manager.registry.selectState Action.buffering.index socketFd = true →
      isSet manager.registry.selectState Action.reading.index socketFd = true ∧
        manager.HasConnection socketFd
  closing : ∀ socketFd, manager.HasConnection socketFd →
    SocketState.opened.rank < (manager.peers socketFd).state.rank →
      isSet manager.registry.selectState Action.reading.index socketFd = false
  covered : ∀ socketFd, some socketFd ≠ busy → manager.Awaiting socketFd →
    manager.Noted socketFd ∨ manager.Due action from_fd socketFd

/-- A step that concerns one descriptor only, and neither counts nor searches. -/
structure Touches (before after : SocketManager) (socketFd : Nat) : Prop where
  sound : after.registry.Sound
  events : after.eventsRemaining = before.eventsRemaining
  room : before.registry.maxsockets ≤ after.registry.maxsockets
  flag : before.tlsCurrentlyBuffering = true → after.tlsCurrentlyBuffering = true
  connections : ∀ other, other ≠ socketFd →
    (after.HasConnection other ↔ before.HasConnection other)
  peers : ∀ other, other ≠ socketFd → after.peers other = before.peers other
  watched : ∀ index other, other ≠ socketFd →
    isSet after.registry.selectState index other = isSet before.registry.selectState index other
  found : ∀ index other, other ≠ socketFd →
    isSet after.registry.lastState index other = isSet before.registry.lastState index other
  found_here : ∀ index, isSet after.registry.lastState index socketFd = true →
    isSet before.registry.lastState index socketFd = true

theorem Touches.trans {before middle after : SocketManager} {socketFd : Nat}
    (first : Touches before middle socketFd) (second : Touches middle after socketFd) :
    Touches before after socketFd where
  sound := second.sound
  events := second.events.trans first.events
  room := Nat.le_trans first.room second.room
  flag := second.flag ∘ first.flag
  connections := fun other different =>
    (second.connections other different).trans (first.connections other different)
  peers := fun other different => (second.peers other different).trans (first.peers other different)
  watched := fun index other different =>
    (second.watched index other different).trans (first.watched index other different)
  found := fun index other different =>
    (second.found index other different).trans (first.found index other different)
  found_here := fun index bit => first.found_here index (second.found_here index bit)

/-- A descriptor is as attended to as it should be. -/
structure Attended (manager : SocketManager) (action from_fd : Nat) (busy : Option Nat)
    (socketFd : Nat) : Prop where
  buffering : isSet manager.registry.selectState Action.buffering.index socketFd = true →
    isSet manager.registry.selectState Action.reading.index socketFd = true ∧
      manager.HasConnection socketFd
  closing : manager.HasConnection socketFd →
    SocketState.opened.rank < (manager.peers socketFd).state.rank →
      isSet manager.registry.selectState Action.reading.index socketFd = false
  covered : some socketFd ≠ busy → manager.Awaiting socketFd →
    manager.Noted socketFd ∨ manager.Due action from_fd socketFd

theorem Attentive.attended {manager : SocketManager} {action from_fd : Nat} {busy : Option Nat}
    (attentive : Attentive manager action from_fd busy) (socketFd : Nat) :
    Attended manager action from_fd busy socketFd :=
  ⟨attentive.buffering socketFd, attentive.closing socketFd, attentive.covered socketFd⟩

/-- A descriptor that was to be searched still is. -/
theorem Due.keep {before after : SocketManager} {action from_fd socketFd other : Nat}
    (due : before.Due action from_fd other) (touches : Touches before after socketFd)
    (bit : isSet after.registry.lastState Action.reading.index other =
      isSet before.registry.lastState Action.reading.index other) :
    after.Due action from_fd other := by
  obtain ⟨some_left, member⟩ := due
  obtain ⟨inside, below, found, place⟩ := mem_foundFrom.mp member
  refine ⟨touches.events ▸ some_left, mem_foundFrom.mpr ⟨inside, ?_, bit.trans found, place⟩⟩
  exact Nat.lt_of_lt_of_le below touches.room

/-- What concerns one descriptor leaves the others as they are. -/
theorem Attentive.touch {before after : SocketManager} {action from_fd socketFd : Nat}
    {busy : Option Nat} (attentive : Attentive before action from_fd busy)
    (touches : Touches before after socketFd)
    (here : Attended after action from_fd busy socketFd) :
    Attentive after action from_fd busy where
  sound := touches.sound
  nonneg := touches.events ▸ attentive.nonneg
  counted := by
    intro some_left
    have fewer : after.registry.foundFrom action from_fd ⊆
        before.registry.foundFrom action from_fd := by
      intro place member
      obtain ⟨inside, -, bit, beyond⟩ := mem_foundFrom.mp member
      have earlier : isSet before.registry.lastState place.1 place.2 = true := by
        by_cases same : place.2 = socketFd
        · rw [same] at bit ⊢
          exact touches.found_here place.1 bit
        · rwa [touches.found place.1 place.2 same] at bit
      exact mem_foundFrom.mpr
        ⟨inside, attentive.sound.lt_of_pending earlier, earlier, beyond⟩
    have shorter := ((foundFrom_nodup after.registry action from_fd).subperm fewer).length_le
    have counted := attentive.counted (touches.events ▸ some_left)
    rw [touches.events]
    omega
  buffering := by
    intro other bit
    by_cases same : other = socketFd
    · rw [same] at bit ⊢
      exact here.buffering bit
    · rw [touches.watched _ other same] at bit
      obtain ⟨readable, connected⟩ := attentive.buffering other bit
      exact ⟨(touches.watched _ other same).trans readable,
        (touches.connections other same).mpr connected⟩
  closing := by
    intro other connected late
    by_cases same : other = socketFd
    · rw [same] at connected late ⊢
      exact here.closing connected late
    · rw [touches.peers other same] at late
      rw [touches.watched _ other same]
      exact attentive.closing other ((touches.connections other same).mp connected) late
  covered := by
    intro other idle awaiting
    by_cases same : other = socketFd
    · rw [same] at idle awaiting ⊢
      exact here.covered idle awaiting
    · have before_awaiting : before.Awaiting other := by
        obtain ⟨connected, encrypted, pending, readable⟩ := awaiting
        rw [touches.peers other same] at encrypted pending
        rw [touches.watched _ other same] at readable
        exact ⟨(touches.connections other same).mp connected, encrypted, pending, readable⟩
      rcases attentive.covered other idle before_awaiting with ⟨flag, bit⟩ | due
      · exact .inl ⟨touches.flag flag, (touches.watched _ other same).trans bit⟩
      · exact .inr (due.keep touches (touches.found _ other same))

/-! ## Calls -/

theorem connection_ok {manager : SocketManager} {socketFd : Nat} {peer : TlsPeer}
    (read : manager.connection socketFd = .ok peer) :
    manager.HasConnection socketFd ∧ manager.peers socketFd = peer := by
  simp only [connection] at read
  split at read
  · rename_i data found
    split at read
    · rename_i type
      exact ⟨⟨data, found, type⟩, Except.ok.inj read⟩
    · cases read
  · cases read

/-- Writing a connection concerns its descriptor only. -/
theorem touches_setPeer {manager : SocketManager} (sound : manager.registry.Sound) (socketFd : Nat)
    (peer : TlsPeer) : Touches manager (manager.setPeer socketFd peer) socketFd where
  sound := sound
  events := rfl
  room := Nat.le_refl _
  flag := id
  connections := fun _ _ => Iff.rfl
  peers := fun _ different => Function.update_of_ne different _ _
  watched := fun _ _ _ => rfl
  found := fun _ _ _ => rfl
  found_here := fun _ => id

/-- Enabling or disabling changes one bit of one descriptor. -/
structure SetsFlag (before after : SocketManager) (socketFd : Nat) (group : Action)
    (enable : Bool) : Prop where
  touches : Touches before after socketFd
  sockets : after.registry.sockets = before.registry.sockets
  lastState : after.registry.lastState = before.registry.lastState
  peers : after.peers = before.peers
  bits : ∀ index, isSet after.registry.selectState index socketFd =
    if index = group.index then enable else isSet before.registry.selectState index socketFd

theorem setFlags_sets {manager next : SocketManager} (sound : manager.registry.Sound)
    {socketFd : Nat} {group : Action} {enable : Bool}
    (move : manager.setFlags socketFd group enable = .ok next) :
    SetsFlag manager next socketFd group enable ∧
      next.tlsCurrentlyBuffering = manager.tlsCurrentlyBuffering := by
  simp only [setFlags] at move
  obtain ⟨registry, flagged, rfl⟩ := FallibleRun.map_ok_iff.mp move
  obtain ⟨next_sound, sockets, size, lastState, bits⟩ := sound.flags flagged
  refine ⟨⟨⟨next_sound, rfl, Nat.le_of_eq size.symm, id, fun other _ => ?_, fun _ _ => rfl,
    fun index other different => ?_, fun index other _ => ?_, fun index => ?_⟩, sockets,
    lastState, rfl, fun index => ?_⟩, rfl⟩
  · simp only [HasConnection, sockets]
  · rw [bits index other, if_neg (fun both => different both.2)]
  · rw [lastState]
  · rw [lastState]
    exact id
  · simp [bits]

theorem setBuffering_sets {manager next : SocketManager} (sound : manager.registry.Sound)
    {socketFd : Nat} {enable : Bool} (move : manager.setBuffering socketFd enable = .ok next) :
    SetsFlag manager next socketFd .buffering enable ∧
      (enable = true → next.tlsCurrentlyBuffering = true) := by
  simp only [setBuffering] at move
  obtain ⟨middle, flagged, rfl⟩ := FallibleRun.map_ok_iff.mp move
  obtain ⟨sets, -⟩ := setFlags_sets sound flagged
  have touches := sets.touches
  refine ⟨⟨⟨touches.sound, touches.events, touches.room, fun flag => ?_, touches.connections,
    touches.peers, touches.watched, touches.found, touches.found_here⟩, sets.sockets,
    sets.lastState, sets.peers, sets.bits⟩, fun enabled => ?_⟩
  · simp [flag]
  · simp [enabled]

theorem SetsFlag.connections {before after : SocketManager} {socketFd : Nat} {group : Action}
    {enable : Bool} (sets : SetsFlag before after socketFd group enable) (other : Nat) :
    after.HasConnection other ↔ before.HasConnection other := by
  simp only [HasConnection, sets.sockets]

/-- A descriptor whose relevant bits are unchanged is as attended to as before. -/
theorem Attended.carry {before after : SocketManager} {action from_fd socketFd : Nat}
    {busy : Option Nat} (attended : Attended before action from_fd busy socketFd)
    (touches : Touches before after socketFd)
    (connected : after.HasConnection socketFd ↔ before.HasConnection socketFd)
    (encrypted : (after.peers socketFd).encrypted = (before.peers socketFd).encrypted)
    (pending : (after.peers socketFd).pending = (before.peers socketFd).pending)
    (late : SocketState.opened.rank < (after.peers socketFd).state.rank →
      SocketState.opened.rank < (before.peers socketFd).state.rank)
    (reading : isSet after.registry.selectState Action.reading.index socketFd =
      isSet before.registry.selectState Action.reading.index socketFd)
    (buffering : isSet after.registry.selectState Action.buffering.index socketFd =
      isSet before.registry.selectState Action.buffering.index socketFd)
    (found : isSet after.registry.lastState Action.reading.index socketFd =
      isSet before.registry.lastState Action.reading.index socketFd) :
    Attended after action from_fd busy socketFd where
  buffering := by
    rw [buffering, reading, connected]
    exact attended.buffering
  closing := by
    intro connected_after late_after
    rw [reading]
    exact attended.closing (connected.mp connected_after) (late late_after)
  covered := by
    intro idle awaiting
    have before_awaiting : before.Awaiting socketFd :=
      ⟨connected.mp awaiting.connection, encrypted ▸ awaiting.encrypted,
        pending ▸ awaiting.pending, reading ▸ awaiting.readable⟩
    rcases attended.covered idle before_awaiting with ⟨flag, bit⟩ | due
    · exact .inl ⟨touches.flag flag, buffering.trans bit⟩
    · exact .inr (due.keep touches found)

/-- A descriptor that is not read from needs no attention. -/
theorem Attended.of_deaf {manager : SocketManager} {action from_fd socketFd : Nat}
    {busy : Option Nat}
    (deaf : isSet manager.registry.selectState Action.reading.index socketFd = false)
    (unbuffered : isSet manager.registry.selectState Action.buffering.index socketFd = false) :
    Attended manager action from_fd busy socketFd where
  buffering := by
    intro bit
    rw [unbuffered] at bit
    cases bit
  closing := fun _ _ => deaf
  covered := by
    intro _ awaiting
    have readable := awaiting.readable
    rw [deaf] at readable
    cases readable

variable {manager next : SocketManager} {action from_fd : Nat} {busy : Option Nat}

theorem Attentive.setWritable (attentive : Attentive manager action from_fd busy) {socketFd : Nat}
    {enable : Bool} (move : manager.setWritable socketFd enable = .ok next) :
    Attentive next action from_fd busy := by
  obtain ⟨sets, -⟩ := setFlags_sets attentive.sound move
  refine attentive.touch sets.touches ((attentive.attended socketFd).carry sets.touches
    (sets.connections socketFd) ?_ ?_ ?_ ?_ ?_ ?_)
  · rw [sets.peers]
  · rw [sets.peers]
  · rw [sets.peers]
    exact id
  · exact (sets.bits _).trans (if_neg (by decide))
  · exact (sets.bits _).trans (if_neg (by decide))
  · rw [sets.lastState]

/-- What enabling or disabling input comes to on an open connection. -/
theorem acceptInput_ok {socketFd : Nat} {input : Bool}
    (move : manager.acceptInput socketFd input = .ok next) :
    manager.HasConnection socketFd ∧ (manager.peers socketFd).state = .opened ∧
      ∃ readable, manager.setReadable socketFd input = .ok readable ∧
        if input && !(manager.peers socketFd).encrypted then next = readable
        else readable.setBuffering socketFd (input && (manager.peers socketFd).pending) =
          .ok next := by
  simp only [SocketManager.acceptInput, bind, Except.bind] at move
  split at move
  · cases move
  · rename_i peer read
    obtain ⟨connected, rfl⟩ := connection_ok read
    split at move
    · cases move
    · rename_i unless_open
      have opened := not_not.mp unless_open
      have may_read : decide (SocketState.opened.rank ≤ SocketState.opened.rank) = true := rfl
      have shook_hands :
          decide (SocketState.tlsHandshake.rank < SocketState.opened.rank) = true := rfl
      simp only [opened, may_read, shook_hands, Bool.and_true, pure, Except.pure] at move
      split at move
      · cases move
      · rename_i readable sets_readable
        refine ⟨connected, opened, readable, sets_readable, ?_⟩
        cases input with
        | false => simpa using move
        | true =>
            cases encrypted : (manager.peers socketFd).encrypted with
            | false =>
                have same : readable = next := by simpa [encrypted] using move
                simp [same]
            | true => simpa [encrypted] using move

theorem Attentive.acceptInput (attentive : Attentive manager action from_fd busy) {socketFd : Nat}
    {input : Bool} (move : manager.acceptInput socketFd input = .ok next) :
    Attentive next action from_fd busy := by
  obtain ⟨connected, opened, readable, sets_readable, move⟩ := acceptInput_ok move
  obtain ⟨first, -⟩ := setFlags_sets attentive.sound sets_readable
  have early : ∀ peer : TlsPeer, peer.state = .opened →
      ¬SocketState.opened.rank < peer.state.rank := by
    intro peer state
    rw [state]
    exact Nat.lt_irrefl _
  split at move
  · rename_i plain
    obtain ⟨input_on, unencrypted⟩ := Bool.and_eq_true_iff.mp plain
    subst move
    have reading := first.bits Action.reading.index
    have buffering := first.bits Action.buffering.index
    rw [if_pos rfl] at reading
    rw [if_neg (by decide)] at buffering
    refine attentive.touch first.touches ⟨fun _ => ?_, fun _ late => ?_, fun _ awaiting => ?_⟩
    · exact ⟨reading.trans input_on, (first.connections socketFd).mpr connected⟩
    · rw [first.peers] at late
      exact absurd late (early _ opened)
    · have encrypted := awaiting.encrypted
      rw [first.peers] at encrypted
      rw [encrypted] at unencrypted
      cases unencrypted
  · obtain ⟨second, flags⟩ := setBuffering_sets first.touches.sound move
    have touches := first.touches.trans second.touches
    have peers : next.peers = manager.peers := second.peers.trans first.peers
    have reading : isSet next.registry.selectState Action.reading.index socketFd = input := by
      rw [second.bits, if_neg (by decide), first.bits, if_pos rfl]
    have buffering : isSet next.registry.selectState Action.buffering.index socketFd =
        (input && (manager.peers socketFd).pending) := by
      rw [second.bits, if_pos rfl]
    refine attentive.touch touches ⟨fun bit => ?_, fun _ late => ?_, fun _ awaiting => ?_⟩
    · rw [buffering] at bit
      refine ⟨reading.trans (Bool.and_eq_true_iff.mp bit).1, ?_⟩
      exact (second.connections socketFd).mpr ((first.connections socketFd).mpr connected)
    · rw [peers] at late
      exact absurd late (early _ opened)
    · have enabled : (input && (manager.peers socketFd).pending) = true := by
        have pending := awaiting.pending
        rw [peers] at pending
        rw [pending, Bool.and_true, ← reading, awaiting.readable]
      exact .inl ⟨flags enabled, buffering.trans enabled⟩

/-- What starting to close a connection comes to. -/
theorem closeConnection_ok {socketFd : Nat}
    (move : manager.closeConnection socketFd = .ok next) :
    ∃ closing writable readable,
      (closing = manager ∨
        ∃ peer : TlsPeer, closing = manager.setPeer socketFd peer) ∧
      closing.setWritable socketFd true = .ok writable ∧
      writable.setReadable socketFd false = .ok readable ∧
      readable.setBuffering socketFd false = .ok next := by
  simp only [SocketManager.closeConnection, bind, Except.bind] at move
  split at move
  · cases move
  · rename_i peer read
    split at move
    · cases move
    · rename_i writable sets_writable
      split at move
      · cases move
      · rename_i readable sets_readable
        refine ⟨_, writable, readable, ?_, sets_writable, sets_readable, move⟩
        split
        · exact .inr ⟨_, rfl⟩
        · exact .inl rfl

theorem Attentive.closeConnection (attentive : Attentive manager action from_fd busy)
    {socketFd : Nat} (move : manager.closeConnection socketFd = .ok next) :
    Attentive next action from_fd busy := by
  obtain ⟨closing, writable, readable, start, sets_writable, sets_readable, sets_buffering⟩ :=
    closeConnection_ok move
  have start : closing.registry = manager.registry ∧
      (Touches closing next socketFd → Touches manager next socketFd) := by
    rcases start with rfl | ⟨peer, rfl⟩
    · exact ⟨rfl, id⟩
    · exact ⟨rfl, (touches_setPeer attentive.sound socketFd peer).trans⟩
  have sound : closing.registry.Sound := start.1 ▸ attentive.sound
  obtain ⟨first, -⟩ := setFlags_sets sound sets_writable
  obtain ⟨second, -⟩ := setFlags_sets first.touches.sound sets_readable
  obtain ⟨third, -⟩ := setBuffering_sets second.touches.sound sets_buffering
  refine attentive.touch (start.2 ((first.touches.trans second.touches).trans third.touches))
    (.of_deaf ?_ ?_)
  · rw [third.bits, if_neg (by decide), second.bits, if_pos rfl]
  · rw [third.bits, if_pos rfl]

theorem Attentive.unregister (attentive : Attentive manager action from_fd busy) {socketFd : Nat}
    {registry : Registry} (move : manager.registry.unregister socketFd = .ok registry) :
    Attentive { manager with registry := registry } action from_fd busy := by
  obtain ⟨size, slots, watched, found⟩ := attentive.sound.unregister_sets move
  have sound : registry.Sound := (attentive.sound.unregister move).1.1
  have touches : Touches manager { manager with registry := registry } socketFd := by
    refine ⟨sound, rfl, Nat.le_of_eq size.symm, id, fun other different => ?_, fun _ _ => rfl,
      fun index other different => ?_, fun index other different => ?_, fun index bit => ?_⟩
    · simp only [HasConnection, slots other, different, ne_eq, not_false_eq_true, true_and]
    · simp [watched, different]
    · simp [found, different]
    · simp [found] at bit
  refine attentive.touch touches (.of_deaf ?_ ?_)
  · simp [watched]
  · simp [watched]

theorem Attentive.register (attentive : Attentive manager action from_fd busy) {socketFd : Nat}
    {type : SocketType} {thing : Nat} {reallocated allocated encrypted : Bool}
    {state : ReadingState}
    (move : manager.call (.register socketFd type thing reallocated allocated encrypted state) =
      .ok next) :
    Attentive next action from_fd busy := by
  simp only [call, bind, Except.bind] at move
  split at move
  · cases move
  · rename_i result registers_eq
    obtain ⟨entered, registry⟩ := result
    have registers := attentive.sound.register_registers registers_eq
    cases entered with
    | false =>
        obtain rfl : { manager with registry := registry } = next := Except.ok.inj move
        have bits : ∀ index other, isSet registry.selectState index other =
            isSet manager.registry.selectState index other := by
          intro index other
          simp [registers.bits]
        have connections : ∀ other, (∃ data, registry.sockets[other]? = some (some data) ∧
            data.type = .connection) ↔ manager.HasConnection other := by
          intro other
          simp only [HasConnection, registers.slots other _ (.inr rfl)]
        have touches : Touches manager { manager with registry := registry } socketFd := by
          refine ⟨registers.sound, rfl, registers.room, id, fun other _ => connections other,
            fun _ _ => rfl, fun index other _ => bits index other, fun index other _ => ?_,
            fun index => ?_⟩
          · rw [registers.lastState]
          · rw [registers.lastState]
            exact id
        refine attentive.touch touches ((attentive.attended socketFd).carry touches
          (connections socketFd) rfl rfl id (bits _ _) (bits _ _) ?_)
        rw [registers.lastState]
    | true =>
        obtain rfl : setPeer { manager with registry := registry } socketFd
          ⟨encrypted, state, false⟩ = next := Except.ok.inj move
        have fresh := registers.fresh rfl
        have unbuffered : isSet manager.registry.selectState Action.buffering.index socketFd =
            false := by
          apply Bool.eq_false_iff.mpr
          intro bit
          exact fresh (attentive.sound.watched socketFd (watched_of_isSet bit))
        have touches : Touches manager (setPeer { manager with registry := registry } socketFd
            ⟨encrypted, state, false⟩) socketFd := by
          refine ⟨registers.sound, rfl, registers.room, id, fun other different => ?_,
            fun other different => Function.update_of_ne different _ _,
            fun index other different => ?_, fun index other _ => ?_, fun index => ?_⟩
          · simp only [HasConnection, setPeer, registers.slots other _ (.inl different)]
          · simp [setPeer, registers.bits, different]
          · simp [setPeer, registers.lastState]
          · simp [setPeer, registers.lastState]
        refine attentive.touch touches ⟨fun bit => ?_, fun _ late => ?_, fun _ awaiting => ?_⟩
        · simp only [setPeer, registers.bits, unbuffered] at bit
          exact absurd bit (by simp; decide)
        · simp only [setPeer, Function.update_self] at late
          exact absurd late (Nat.not_lt.mpr state.property)
        · have pending := awaiting.pending
          simp [setPeer] at pending

theorem Attentive.stopListening (attentive : Attentive manager action from_fd busy)
    {socketFd : Nat} (move : manager.call (.stopListening socketFd) = .ok next) :
    Attentive next action from_fd busy := by
  simp only [call] at move
  split at move
  · rename_i data found
    split at move
    · rename_i service
      obtain ⟨sets, -⟩ := setFlags_sets attentive.sound move
      have unconnected : ¬manager.HasConnection socketFd := by
        rintro ⟨other, other_found, connection⟩
        obtain rfl := Option.some.inj (Option.some.inj (other_found.symm.trans found))
        rw [service] at connection
        cases connection
      refine attentive.touch sets.touches (.of_deaf ?_ ?_)
      · rw [sets.bits, if_pos rfl]
      · rw [sets.bits, if_neg (by decide)]
        apply Bool.eq_false_iff.mpr
        exact fun bit => unconnected (attentive.buffering socketFd bit).2
    · cases move
  · cases move

/-- A connection may change its state, unless it reads while it is closing. -/
theorem Attentive.setState (attentive : Attentive manager action from_fd busy) {socketFd : Nat}
    (state : SocketState)
    (late : SocketState.opened.rank < state.rank →
      SocketState.opened.rank < (manager.peers socketFd).state.rank) :
    Attentive (manager.setPeer socketFd { manager.peers socketFd with state := state }) action
      from_fd busy := by
  have touches := touches_setPeer attentive.sound socketFd
    { manager.peers socketFd with state := state }
  refine attentive.touch touches ((attentive.attended socketFd).carry touches Iff.rfl ?_ ?_ ?_ rfl
    rfl rfl)
  · simp [setPeer]
  · simp [setPeer]
  · simpa [setPeer] using late

/-- Fields that attention does not depend on. -/
theorem Attentive.congr (attentive : Attentive manager action from_fd busy)
    (registry : next.registry = manager.registry) (peers : next.peers = manager.peers)
    (flag : next.tlsCurrentlyBuffering = manager.tlsCurrentlyBuffering)
    (events : next.eventsRemaining = manager.eventsRemaining) :
    Attentive next action from_fd busy := by
  have touches : Touches manager next 0 := by
    refine ⟨registry ▸ attentive.sound, events, registry ▸ Nat.le_refl _, flag ▸ id, ?_, ?_, ?_, ?_,
      ?_⟩
    · exact fun other _ => by simp only [HasConnection, registry]
    · exact fun other _ => by rw [peers]
    · exact fun index other _ => by rw [registry]
    · exact fun index other _ => by rw [registry]
    · exact fun index => by rw [registry]; exact id
  refine attentive.touch touches ((attentive.attended 0).carry touches ?_ ?_ ?_ ?_ ?_ ?_ ?_)
  · simp only [HasConnection, registry]
  · rw [peers]
  · rw [peers]
  · rw [peers]
    exact id
  · rw [registry]
  · rw [registry]
  · rw [registry]

/-- Every call keeps the poll routine attentive. -/
theorem Attentive.call (attentive : Attentive manager action from_fd busy) {request : Call}
    (move : manager.call request = .ok next) : Attentive next action from_fd busy := by
  cases request with
  | register socketFd type thing reallocated allocated encrypted state =>
      exact attentive.register move
  | unregister socketFd =>
      simp only [SocketManager.call] at move
      obtain ⟨registry, unregistered, rfl⟩ := FallibleRun.map_ok_iff.mp move
      exact attentive.unregister unregistered
  | setWritable socketFd enable => exact attentive.setWritable move
  | acceptInput socketFd input => exact attentive.acceptInput move
  | closeConnection socketFd => exact attentive.closeConnection move
  | stopListening socketFd => exact attentive.stopListening move
  | enterState socketFd state =>
      simp only [SocketManager.call, bind, Except.bind] at move
      split at move
      · cases move
      · rename_i peer read
        obtain ⟨-, rfl⟩ := connection_ok read
        obtain rfl := Except.ok.inj move
        exact attentive.setState state fun late => absurd late (Nat.not_lt.mpr state.property)
  | finishFlushing socketFd =>
      simp only [SocketManager.call, bind, Except.bind] at move
      split at move
      · cases move
      · rename_i peer read
        obtain ⟨-, rfl⟩ := connection_ok read
        obtain rfl := Except.ok.inj move
        split
        · rename_i flushing
          refine attentive.setState .closing fun _ => ?_
          rw [flushing]
          decide
        · exact attentive
  | queueEvent =>
      simp only [SocketManager.call] at move
      split at move
      · cases move
      · obtain rfl := Except.ok.inj move
        exact attentive.congr rfl rfl rfl rfl
  | scheduleReap sockets =>
      obtain rfl := Except.ok.inj move
      exact attentive.congr rfl rfl rfl rfl

/-- A step that does not disturb the search. -/
structure SameSearch (before after : SocketManager) : Prop where
  events : after.eventsRemaining = before.eventsRemaining
  action : after.processAction = before.processAction
  socketFd : after.processFd = before.processFd
  searching : after.searching = before.searching

theorem SameSearch.refl (manager : SocketManager) : SameSearch manager manager :=
  ⟨rfl, rfl, rfl, rfl⟩

theorem SameSearch.trans {before middle after : SocketManager} (first : SameSearch before middle)
    (second : SameSearch middle after) : SameSearch before after :=
  ⟨second.events.trans first.events, second.action.trans first.action,
    second.socketFd.trans first.socketFd, second.searching.trans first.searching⟩

theorem sameSearch_setFlags {socketFd : Nat} {group : Action} {enable : Bool}
    (move : manager.setFlags socketFd group enable = .ok next) : SameSearch manager next := by
  simp only [setFlags] at move
  obtain ⟨registry, flagged, rfl⟩ := FallibleRun.map_ok_iff.mp move
  exact ⟨rfl, rfl, rfl, rfl⟩

theorem sameSearch_setBuffering {socketFd : Nat} {enable : Bool}
    (move : manager.setBuffering socketFd enable = .ok next) : SameSearch manager next := by
  simp only [setBuffering] at move
  obtain ⟨middle, flagged, rfl⟩ := FallibleRun.map_ok_iff.mp move
  have same := sameSearch_setFlags flagged
  exact ⟨same.events, same.action, same.socketFd, same.searching⟩

/-- No call disturbs the search. -/
theorem sameSearch_call {request : Call} (move : manager.call request = .ok next) :
    SameSearch manager next := by
  cases request with
  | register socketFd type thing reallocated allocated encrypted state =>
      simp only [call, bind, Except.bind] at move
      split at move
      · cases move
      · obtain rfl := Except.ok.inj move
        split
        · exact ⟨rfl, rfl, rfl, rfl⟩
        · exact ⟨rfl, rfl, rfl, rfl⟩
  | unregister socketFd =>
      simp only [call] at move
      obtain ⟨registry, unregistered, rfl⟩ := FallibleRun.map_ok_iff.mp move
      exact ⟨rfl, rfl, rfl, rfl⟩
  | setWritable socketFd enable => exact sameSearch_setFlags move
  | acceptInput socketFd input =>
      obtain ⟨-, -, readable, sets_readable, move⟩ := acceptInput_ok move
      have first := sameSearch_setFlags sets_readable
      split at move
      · exact move ▸ first
      · exact first.trans (sameSearch_setBuffering move)
  | closeConnection socketFd =>
      obtain ⟨closing, writable, readable, start, sets_writable, sets_readable, sets_buffering⟩ :=
        closeConnection_ok move
      have first : SameSearch manager closing := by
        rcases start with rfl | ⟨peer, rfl⟩
        · exact .refl _
        · exact ⟨rfl, rfl, rfl, rfl⟩
      exact ((first.trans (sameSearch_setFlags sets_writable)).trans
        (sameSearch_setFlags sets_readable)).trans (sameSearch_setBuffering sets_buffering)
  | stopListening socketFd =>
      simp only [call] at move
      split at move
      · split at move
        · exact sameSearch_setFlags move
        · cases move
      · cases move
  | enterState socketFd state =>
      simp only [call, bind, Except.bind] at move
      split at move
      · cases move
      · obtain rfl := Except.ok.inj move
        exact ⟨rfl, rfl, rfl, rfl⟩
  | finishFlushing socketFd =>
      simp only [call, bind, Except.bind] at move
      split at move
      · cases move
      · obtain rfl := Except.ok.inj move
        split
        · exact ⟨rfl, rfl, rfl, rfl⟩
        · exact .refl _
  | queueEvent =>
      simp only [call] at move
      split at move
      · cases move
      · obtain rfl := Except.ok.inj move
        exact ⟨rfl, rfl, rfl, rfl⟩
  | scheduleReap sockets =>
      obtain rfl := Except.ok.inj move
      exact ⟨rfl, rfl, rfl, rfl⟩

/-- Calls one after the other keep the poll routine attentive and do not disturb the search. -/
theorem Attentive.callAll (attentive : Attentive manager action from_fd busy) {calls : List Call}
    (moves : manager.callAll calls = .ok next) :
    Attentive next action from_fd busy ∧ SameSearch manager next := by
  have free : FallibleRun.Guarded SocketManager.call (fun _ _ => True) manager calls :=
    FallibleRun.guarded_of_forall (fun _ _ => trivial) manager calls
  exact free.invariant
    (fun state => Attentive state action from_fd busy ∧ SameSearch manager state)
    (fun _ _ _ holds _ move => ⟨holds.1.call move, holds.2.trans (sameSearch_call move)⟩)
    ⟨attentive, .refl _⟩ moves

/-! ## The poll routine -/

private theorem connection_of {socketFd : Nat} (connected : manager.HasConnection socketFd) :
    manager.connection socketFd = .ok (manager.peers socketFd) := by
  obtain ⟨data, found, type⟩ := connected
  simp [connection, found, type]

/-- A connection without waiting data needs no attention. -/
theorem Attentive.idle {socketFd : Nat}
    (attentive : Attentive manager action from_fd (some socketFd))
    (idle : ¬manager.Awaiting socketFd) : Attentive manager action from_fd none := by
  refine ⟨attentive.sound, attentive.nonneg, attentive.counted, attentive.buffering,
    attentive.closing, fun other _ awaiting => attentive.covered other ?_ awaiting⟩
  rintro same
  obtain rfl := Option.some.inj same
  exact idle awaiting

/-- After a read, TLS data that is left is noted. -/
theorem Attentive.noteBuffering {socketFd : Nat} {pending : Bool}
    (attentive : Attentive manager action from_fd (some socketFd))
    (move : manager.noteBuffering socketFd pending = .ok next) :
    Attentive next action from_fd none ∧ SameSearch manager next := by
  simp only [SocketManager.noteBuffering] at move
  split at move
  · rename_i fault unread
    obtain rfl := Except.ok.inj move
    refine ⟨attentive.idle fun awaiting => ?_, .refl _⟩
    rw [connection_of awaiting.connection] at unread
    cases unread
  · rename_i peer read
    obtain ⟨connected, rfl⟩ := connection_ok read
    split at move
    · let noted := manager.setPeer socketFd { manager.peers socketFd with pending := pending }
      have first : Touches manager noted socketFd := touches_setPeer attentive.sound socketFd _
      obtain ⟨second, flags⟩ := setBuffering_sets first.sound move
      have search := sameSearch_setBuffering move
      have touches := first.trans second.touches
      have peer : next.peers socketFd = { manager.peers socketFd with pending := pending } := by
        rw [second.peers]
        exact Function.update_self ..
      have reading : isSet next.registry.selectState Action.reading.index socketFd =
          isSet manager.registry.selectState Action.reading.index socketFd := by
        rw [second.bits, if_neg (by decide)]
        rfl
      have buffering := second.bits Action.buffering.index
      rw [if_pos rfl] at buffering
      have weaker : Attended next action from_fd (some socketFd) socketFd := by
        refine ⟨fun bit => ?_, fun _ late => ?_, fun idle => absurd rfl idle⟩
        · rw [buffering] at bit
          refine ⟨reading.trans ?_, (second.connections socketFd).mpr connected⟩
          exact (Bool.and_eq_true_iff.mp (Bool.and_eq_true_iff.mp bit).1).2
        · rw [peer] at late
          rw [reading]
          exact attentive.closing socketFd connected late
      have after := attentive.touch touches weaker
      refine ⟨⟨after.sound, after.nonneg, after.counted, after.buffering, after.closing,
        fun other _ awaiting => ?_⟩, ⟨search.events, search.action, search.socketFd,
        search.searching⟩⟩
      by_cases same : other = socketFd
      · subst same
        have waiting : pending = true := by
          have waiting := awaiting.pending
          rwa [peer] at waiting
        have readable := awaiting.readable
        rw [reading] at readable
        have early : (manager.peers other).state.rank ≤ SocketState.opened.rank := by
          by_contra late
          have deaf := attentive.closing other connected (Nat.lt_of_not_le late)
          rw [deaf] at readable
          cases readable
        have enabled : (decide ((manager.peers other).state.rank ≤ SocketState.opened.rank) &&
            isSet manager.registry.selectState Action.reading.index other && pending) = true := by
          rw [decide_eq_true early, readable, waiting]
          rfl
        exact .inl ⟨flags enabled, buffering.trans enabled⟩
      · exact after.covered other (fun both => same (Option.some.inj both)) awaiting
    · rename_i unencrypted
      obtain rfl := Except.ok.inj move
      exact ⟨attentive.idle fun awaiting => unencrypted awaiting.encrypted, .refl _⟩

/-- Processing a descriptor leaves the poll routine attentive, also to the connection it read
from. -/
theorem Attentive.processEvent {act socketFd : Nat} {answer : PassAnswer}
    (attentive : Attentive manager action from_fd
      (if act = Action.reading.index then some socketFd else none))
    (process : manager.processEvent act socketFd answer = .ok next) :
    Attentive next action from_fd none ∧ SameSearch manager next := by
  simp only [SocketManager.processEvent, bind, Except.bind] at process
  split at process
  · cases process
  · rename_i inside
    simp only [pure, Except.pure] at process
    split at process
    · cases process
    · rename_i slot slot_eq
      split at process
      · cases process
      · rename_i data
        split at process
        · cases process
        · split at process
          · cases process
          · rename_i handled handles
            split at process
            · rename_i reads
              rw [if_pos reads.2] at attentive
              obtain ⟨attentive_handled, search⟩ := attentive.callAll handles
              obtain ⟨noted, search_noted⟩ := attentive_handled.noteBuffering process
              exact ⟨noted, search.trans search_noted⟩
            · rename_i no_read
              obtain rfl := Except.ok.inj process
              split at attentive
              · rename_i reading
                refine (attentive.idle fun awaiting => no_read ⟨?_, reading⟩).callAll handles
                obtain ⟨other, found, connection⟩ := awaiting.connection
                simp only [Registry.slot, found] at slot_eq
                rw [← Option.some.inj (Except.ok.inj slot_eq)]
                exact connection
              · exact attentive.callAll handles

private theorem Attentive.anywhere (attentive : Attentive manager action from_fd busy)
    (none_left : manager.eventsRemaining = 0) (other_action other_fd : Nat) :
    Attentive manager other_action other_fd busy := by
  refine ⟨attentive.sound, attentive.nonneg, fun some_left => ?_, attentive.buffering,
    attentive.closing, fun socketFd idle awaiting => ?_⟩
  · rw [none_left] at some_left
    exact absurd some_left (Int.lt_irrefl 0)
  · refine .inl ((attentive.covered socketFd idle awaiting).resolve_right fun due => ?_)
    have some_left := due.1
    rw [none_left] at some_left
    exact absurd some_left (Int.lt_irrefl 0)

/-- Two places from which the same is left to search. -/
theorem Attentive.move (attentive : Attentive manager action from_fd busy)
    {other_action other_fd : Nat}
    (same : ∀ place, place ∈ manager.registry.foundFrom other_action other_fd ↔
      place ∈ manager.registry.foundFrom action from_fd) :
    Attentive manager other_action other_fd busy := by
  refine ⟨attentive.sound, attentive.nonneg, fun some_left => ?_, attentive.buffering,
    attentive.closing, fun socketFd idle awaiting => ?_⟩
  · have shorter :=
      ((foundFrom_nodup _ _ _).subperm fun place member => (same place).mp member).length_le
    have counted := attentive.counted some_left
    omega
  · exact (attentive.covered socketFd idle awaiting).imp_right
      fun due => ⟨due.1, (same _).mpr due.2⟩

/-- What holds between two passes of the poll routine. -/
structure AtRest (manager : SocketManager) : Prop where
  attentive : Attentive manager manager.processAction manager.processFd none
  searching : manager.searching = true → 0 < manager.eventsRemaining

/-- The first place that was found is taken. -/
theorem Attentive.take {first : Nat × Nat} {rest : List (Nat × Nat)}
    (attentive : Attentive manager action from_fd none) (some_left : 0 < manager.eventsRemaining)
    (found : manager.registry.foundFrom action from_fd = first :: rest) :
    Attentive { manager with
        eventsRemaining := manager.eventsRemaining - 1
        processAction := first.1
        processFd := first.2 } first.1 (first.2 + 1)
      (if first.1 = Action.reading.index then some first.2 else none) := by
  have counted := attentive.counted some_left
  rw [found, List.length_cons] at counted
  have rest_length : (manager.registry.foundFrom first.1 (first.2 + 1)).length ≤ rest.length :=
    ((foundFrom_nodup _ _ _).subperm fun _ member => (foundFrom_tail found).mp member).length_le
  refine ⟨attentive.sound, ?_, fun _ => ?_, attentive.buffering, attentive.closing,
    fun socketFd idle awaiting => ?_⟩
  · simp only
    omega
  · simp only
    omega
  · rcases attentive.covered socketFd (Option.some_ne_none _)
        ⟨awaiting.connection, awaiting.encrypted, awaiting.pending, awaiting.readable⟩ with
      noted | due
    · exact .inl noted
    · have member := due.2
      rw [found] at member
      have later : (Action.reading.index, socketFd) ∈ rest := by
        refine (List.mem_cons.mp member).resolve_left fun same => idle ?_
        rw [← same, if_pos rfl]
      refine .inr ⟨?_, (foundFrom_tail found).mpr later⟩
      have := List.length_pos_of_mem later
      simp only
      omega

theorem AtRest.search {answer : PassAnswer} {reply : Reply} (rest : AtRest manager)
    (some_left : 0 < manager.eventsRemaining)
    (moved : manager.search answer = .ok (reply, next)) : AtRest next := by
  simp only [SocketManager.search, bind, Except.bind] at moved
  split at moved
  · rename_i nothing
    obtain ⟨-, rfl⟩ := Prod.mk.inj (Except.ok.inj moved)
    refine ⟨⟨rest.attentive.sound, Int.le_refl 0,
      fun impossible => absurd impossible (Int.lt_irrefl 0),
      rest.attentive.buffering, rest.attentive.closing, fun socketFd idle awaiting => ?_⟩,
      fun impossible => nomatch impossible⟩
    rcases rest.attentive.covered socketFd idle
        ⟨awaiting.connection, awaiting.encrypted, awaiting.pending, awaiting.readable⟩ with
      noted | due
    · exact .inl noted
    · have member := due.2
      rw [nothing] at member
      cases member
  · rename_i act socketFd others found
    have taken := rest.attentive.take some_left found
    split at moved
    · cases moved
    · rename_i processed processes
      obtain ⟨attentive, search⟩ := taken.processEvent processes
      split at moved
      · obtain ⟨-, rfl⟩ := Prod.mk.inj (Except.ok.inj moved)
        refine ⟨?_, fun impossible => nomatch impossible⟩
        have position : processed.processAction = act := search.action
        split
        · rw [← position] at attentive
          exact attentive.congr rfl rfl rfl rfl
        · rename_i last
          refine (attentive.move fun place => ?_).congr rfl rfl rfl rfl
          rw [mem_foundFrom, mem_foundFrom]
          simp only [From]
          constructor
          · rintro ⟨inside, below, bit, beyond⟩
            exact ⟨inside, below, bit, by omega⟩
          · rintro ⟨inside, below, bit, beyond⟩
            exact ⟨inside, below, bit, by omega⟩
      · split at moved
        · rename_i none_left
          obtain ⟨-, rfl⟩ := Prod.mk.inj (Except.ok.inj moved)
          have none_left : processed.eventsRemaining = 0 :=
            Int.le_antisymm none_left attentive.nonneg
          exact ⟨(attentive.anywhere none_left _ _).congr rfl rfl rfl rfl,
            fun impossible => nomatch impossible⟩
        · rename_i more
          obtain ⟨-, rfl⟩ := Prod.mk.inj (Except.ok.inj moved)
          have position : processed.processAction = act := search.action
          refine ⟨?_, fun _ => Int.not_le.mp more⟩
          rw [← position] at attentive
          exact attentive.congr rfl rfl rfl rfl

/-! ## Before and at `select` -/

theorem Attentive.unregisterAll (attentive : Attentive manager action from_fd busy)
    {sockets : List Nat} {registry : Registry}
    (moves : unregisterAll manager.registry sockets = .ok registry) :
    Attentive { manager with registry := registry } action from_fd busy := by
  have free : FallibleRun.Guarded Registry.unregister (fun _ _ => True) manager.registry sockets :=
    FallibleRun.guarded_of_forall (fun _ _ => trivial) _ _
  exact free.invariant
    (fun state => Attentive { manager with registry := state } action from_fd busy)
    (fun _ _ _ holds _ move => holds.unregister move) attentive moves

theorem Attentive.reap (attentive : Attentive manager action from_fd busy) {reapq : List Reaping}
    {registry : Registry} {rest : List Reaping}
    (reaps : reap manager.registry reapq = .ok (registry, rest)) :
    Attentive { manager with registry := registry } action from_fd busy := by
  induction reapq generalizing manager with
  | nil =>
      obtain ⟨rfl, -⟩ := Prod.mk.inj (Except.ok.inj reaps)
      exact attentive
  | cons reaping reapq ih =>
      simp only [SocketManager.reap] at reaps
      split at reaps
      · split at reaps
        · cases reaps
        · rename_i freed frees
          exact @ih { manager with registry := freed } (attentive.unregisterAll frees) reaps
      · obtain ⟨rfl, -⟩ := Prod.mk.inj (Except.ok.inj reaps)
        exact attentive

/-- What comes before `select` keeps the poll routine attentive. -/
theorem Attentive.announce (attentive : Attentive manager action from_fd busy) {reply : Reply}
    (announced : manager.announce = .ok (reply, next)) :
    Attentive next action from_fd busy ∧ SameSearch manager next := by
  simp only [SocketManager.announce, bind, Except.bind, pure, Except.pure] at announced
  split at announced
  · cases announced
  · split at announced
    · obtain ⟨-, rfl⟩ := Prod.mk.inj (Except.ok.inj announced)
      exact ⟨attentive, .refl _⟩
    · split at announced
      · obtain ⟨-, rfl⟩ := Prod.mk.inj (Except.ok.inj announced)
        exact ⟨attentive.congr rfl rfl rfl rfl, ⟨rfl, rfl, rfl, rfl⟩⟩
      · split at announced
        · obtain ⟨-, rfl⟩ := Prod.mk.inj (Except.ok.inj announced)
          exact ⟨attentive, .refl _⟩
        · split at announced
          · cases announced
          · rename_i result reaps
            obtain ⟨registry, rest⟩ := result
            have reaped := attentive.reap reaps
            cases rest with
            | nil =>
                obtain ⟨-, rfl⟩ := Prod.mk.inj (Except.ok.inj announced)
                exact ⟨reaped.congr rfl rfl rfl rfl, ⟨rfl, rfl, rfl, rfl⟩⟩
            | cons reaping rest =>
                obtain ⟨-, rfl⟩ := Prod.mk.inj (Except.ok.inj announced)
                exact ⟨reaped.congr rfl rfl rfl rfl, ⟨rfl, rfl, rfl, rfl⟩⟩

/-- The pass calls `select` in this state. -/
def Selects (manager selecting : SocketManager) : Prop :=
  manager.searching = false ∧ manager.announce = .ok (.goesOn, selecting) ∧
    selecting.eventsRemaining = 0

/-- When `select` is called, all data that is waiting is noted. -/
theorem AtRest.noted {selecting : SocketManager} (rest : AtRest manager)
    (selects : manager.Selects selecting) {socketFd : Nat}
    (awaiting : selecting.Awaiting socketFd) : selecting.Noted socketFd := by
  obtain ⟨-, announced, none_left⟩ := selects
  obtain ⟨attentive, -⟩ := rest.attentive.announce announced
  refine (attentive.covered socketFd (Option.some_ne_none _) awaiting).resolve_right fun due => ?_
  have some_left := due.1
  rw [none_left] at some_left
  exact Int.lt_irrefl 0 some_left

theorem isSet_range {change : Nat → List Nat} {index socketFd : Nat} :
    isSet ((List.range actionSelectCount).map change) index socketFd =
      (decide (index < actionSelectCount) && decide (socketFd ∈ change index)) := by
  simp only [isSet, List.getD_eq_getElem?_getD, List.getElem?_map]
  by_cases inside : index < actionSelectCount
  · simp [inside]
  · simp [inside]

theorem mem_buffered {registry : Registry} {socketFd : Nat} :
    socketFd ∈ registry.buffered ↔ socketFd < registry.maxsockets ∧
      isSet registry.selectState Action.buffering.index socketFd = true ∧
      isSet registry.lastState Action.reading.index socketFd = false := by
  simp [buffered]

theorem isSet_addBuffered {registry : Registry} (sound : registry.Sound) {index socketFd : Nat} :
    isSet registry.addBuffered.lastState index socketFd = true ↔
      isSet registry.lastState index socketFd = true ∨
        index = Action.reading.index ∧ socketFd ∈ registry.buffered := by
  have inside : Action.reading.index < registry.lastState.length := by
    rw [sound.lastCount]
    decide
  rw [addBuffered, isSet_iff, getD_modify inside, isSet_iff]
  by_cases same : index = Action.reading.index
  · simp [same, or_comm]
  · simp [same]

private theorem pending_iff {registry : Registry} {socketFd : Nat} :
    registry.Pending socketFd ↔ ∃ index, isSet registry.lastState index socketFd = true := by
  constructor
  · rintro ⟨known, member, inside⟩
    obtain ⟨index, found⟩ := List.mem_iff_getElem?.mp member
    exact ⟨index, isSet_iff.mpr (by rw [List.getD_eq_getElem?_getD, found]; exact inside)⟩
  · rintro ⟨index, bit⟩
    exact pending_of_isSet bit

/-- A registry stays sound when its answers are replaced by bits of registered descriptors. -/
theorem sound_of_found {registry after : Registry} (sound : registry.Sound)
    (sockets : after.sockets = registry.sockets) (size : after.maxsockets = registry.maxsockets)
    (active : after.activesockets = registry.activesockets)
    (selectState : after.selectState = registry.selectState)
    (count : after.lastState.length = actionSelectCount)
    (bits : ∀ index socketFd, isSet after.lastState index socketFd = true →
      registry.Registered socketFd) : after.Sound := by
  have registered : ∀ socketFd, after.Registered socketFd ↔ registry.Registered socketFd := by
    intro socketFd
    simp only [Registered, sockets]
  refine ⟨by rw [sockets, size, sound.size], by rw [size]; exact sound.capped,
    fun socketFd here => ?_, ?_, by rw [selectState, sound.selectCount], count,
    fun socketFd watched => ?_, fun socketFd pending => ?_⟩
  · rw [active]
    exact sound.active socketFd ((registered socketFd).mp here)
  · rw [active, registered]
    exact sound.top
  · rw [registered]
    apply sound.watched
    simpa [Watched, selectState] using watched
  · obtain ⟨index, bit⟩ := pending_iff.mp pending
    exact (registered socketFd).mpr (bits index socketFd bit)

/-- What a `select` call leaves in the registry. -/
structure Answers (registry after : Registry) : Prop where
  sound : after.Sound
  sockets : after.sockets = registry.sockets
  size : after.maxsockets = registry.maxsockets
  selectState : after.selectState = registry.selectState

private theorem selectOnce_answers {selecting : SocketManager} (sound : selecting.registry.Sound)
    (answer : PassAnswer) : Answers selecting.registry (selecting.selectOnce answer).1 := by
  simp only [selectOnce]
  split
  · refine ⟨sound_of_found sound rfl rfl rfl rfl (by simp [copyMasks]) ?_, rfl, rfl, rfl⟩
    intro index socketFd bit
    simp only [copyMasks] at bit
    rw [isSet_range] at bit
    have member := of_decide_eq_true (Bool.and_eq_true_iff.mp bit).2
    exact sound.watched socketFd (watched_of_isSet (isSet_iff.mpr member))
  · refine ⟨sound_of_found sound rfl rfl rfl rfl (by simp [Registry.select]) ?_, rfl, rfl, rfl⟩
    intro index socketFd bit
    simp only [Registry.select, copyMasks] at bit
    rw [isSet_range] at bit
    have member := (List.mem_filter.mp (of_decide_eq_true (Bool.and_eq_true_iff.mp bit).2)).1
    exact sound.watched socketFd (watched_of_isSet (isSet_iff.mpr member))

private theorem addBuffered_answers {registry : Registry} (sound : registry.Sound) :
    Answers registry registry.addBuffered := by
  refine ⟨sound_of_found sound rfl rfl rfl rfl (by simp [addBuffered, sound.lastCount]) ?_, rfl,
    rfl, rfl⟩
  intro index socketFd bit
  rcases (isSet_addBuffered sound).mp bit with found | ⟨-, member⟩
  · exact sound.pending socketFd (pending_of_isSet found)
  · exact sound.watched socketFd (watched_of_isSet (mem_buffered.mp member).2.1)

theorem mem_found {registry : Registry} {place : Nat × Nat} :
    place ∈ registry.found ↔ place.1 < actionSelectCount ∧ place.2 < registry.maxsockets ∧
      isSet registry.lastState place.1 place.2 = true := by
  simp only [found, List.mem_filter, mem_places, and_assoc]

theorem foundFrom_subset (registry : Registry) (action from_fd : Nat) :
    registry.foundFrom action from_fd ⊆ registry.found :=
  fun _ member => List.mem_of_mem_filter member

private theorem found_addBuffered_le {registry : Registry} (sound : registry.Sound)
    (action from_fd : Nat) : (registry.addBuffered.foundFrom action from_fd).length ≤
      registry.found.length + registry.buffered.length := by
  have covered : registry.addBuffered.foundFrom action from_fd ⊆
      registry.found ++ registry.buffered.map fun socketFd => (Action.reading.index, socketFd) := by
    intro place member
    obtain ⟨inside, below, bit⟩ := mem_found.mp (foundFrom_subset _ _ _ member)
    rcases (isSet_addBuffered sound).mp bit with found | ⟨reading, buffered⟩
    · exact List.mem_append_left _ (mem_found.mpr ⟨inside, below, found⟩)
    · exact List.mem_append_right _ (List.mem_map.mpr ⟨place.2, buffered, by rw [← reading]⟩)
  have shorter := ((foundFrom_nodup _ _ _).subperm covered).length_le
  rwa [List.length_append, List.length_map] at shorter

/-- The registry and the count that a `select` call leads to: it fails and nothing was buffered, or
the count covers what was found, and all that is noted was found. -/
theorem selectBuffered_spec {selecting : SocketManager}
    (attentive : Attentive selecting action from_fd none) (answer : PassAnswer) :
    Answers selecting.registry (selecting.selectBuffered answer).1 ∧
      (selecting.selectFails answer = true → (selecting.selectBuffered answer).2 = -1) ∧
      (selecting.selectFails answer = false →
        ((((selecting.selectBuffered answer).1.foundFrom 0 0).length : Int) ≤
          (selecting.selectBuffered answer).2) ∧
        ∀ socketFd, selecting.Noted socketFd →
          (Action.reading.index, socketFd) ∈
            (selecting.selectBuffered answer).1.foundFrom 0 0) := by
  have once := selectOnce_answers attentive.sound answer
  have whole : ∀ place, From 0 0 place := by
    intro place
    simp only [From]
    omega
  simp only [selectBuffered]
  split
  · rename_i flag
    have buffered := addBuffered_answers once.sound
    refine ⟨⟨buffered.sound, buffered.sockets.trans once.sockets, buffered.size.trans once.size,
      buffered.selectState.trans once.selectState⟩, fun fails => ?_, fun succeeds => ?_⟩
    · -- What is buffered is also watched for reading, so the copies of the masks have it.
      have nothing : (selecting.selectOnce answer).1.buffered = [] := by
        apply List.eq_nil_iff_forall_not_mem.mpr
        intro socketFd member
        obtain ⟨-, bit, unread⟩ := mem_buffered.mp member
        rw [once.selectState] at bit
        have watched := (attentive.buffering socketFd bit).1
        have copied : isSet selecting.registry.copyMasks.lastState Action.reading.index socketFd =
            true := by
          rw [copyMasks, isSet_range, decide_eq_true (isSet_iff.mp watched)]
          rfl
        simp only [selectOnce, fails, if_true, copied] at unread
        cases unread
      rw [nothing]
      simp [selectOnce, fails]
    · have counted := found_addBuffered_le once.sound 0 0
      have count : (selecting.selectOnce answer).2 =
          (selecting.selectOnce answer).1.found.length := by
        simp [selectOnce, succeeds]
      refine ⟨?_, fun socketFd noted => ?_⟩
      · rw [count]
        simp only
        omega
      · have bit := noted.2
        have below : socketFd < selecting.registry.maxsockets :=
          attentive.sound.lt_of_watched bit
        refine mem_foundFrom.mpr ⟨Nat.zero_lt_succ 2, ?_, ?_, whole _⟩
        · rw [buffered.size, once.size]
          exact below
        · apply (isSet_addBuffered once.sound).mpr
          cases unread : isSet (selecting.selectOnce answer).1.lastState Action.reading.index
              socketFd with
          | true => exact .inl rfl
          | false =>
              refine .inr ⟨rfl, mem_buffered.mpr ⟨?_, ?_, unread⟩⟩
              · rw [once.size]
                exact below
              · rw [once.selectState]
                exact bit
  · rename_i no_flag
    refine ⟨once, fun fails => by simp [selectOnce, fails], fun succeeds => ⟨?_, fun _ noted => ?_⟩⟩
    · have shorter := ((foundFrom_nodup (selecting.selectOnce answer).1 0 0).subperm
        (foundFrom_subset _ 0 0)).length_le
      have count : (selecting.selectOnce answer).2 =
          (selecting.selectOnce answer).1.found.length := by
        simp [selectOnce, succeeds]
      rw [count]
      exact_mod_cast shorter
    · exact absurd noted.1 no_flag

/-- A `select` call that does not fail while data is waiting leads to a search of all of it. -/
theorem Attentive.selectSockets {selecting : SocketManager} {answer : PassAnswer}
    (attentive : Attentive selecting action from_fd none)
    (noted : ∀ socketFd, selecting.Awaiting socketFd → selecting.Noted socketFd)
    (safe : selecting.selectFails answer = true → ∀ socketFd, ¬selecting.Awaiting socketFd)
    (idle : selecting.searching = false) : AtRest (selecting.selectSockets answer).2 := by
  obtain ⟨answers, failed, succeeded⟩ := selectBuffered_spec attentive answer
  have rested : ∀ after : SocketManager,
      after.registry = (selecting.selectBuffered answer).1 → after.peers = selecting.peers →
      after.eventsRemaining = max (selecting.selectBuffered answer).2 0 →
      Attentive after 0 0 none := by
    intro after registry peers events
    have connections : ∀ socketFd, after.HasConnection socketFd ↔
        selecting.HasConnection socketFd := by
      intro socketFd
      simp only [HasConnection, registry, answers.sockets]
    have watched : after.registry.selectState = selecting.registry.selectState := by
      rw [registry, answers.selectState]
    refine ⟨registry ▸ answers.sound, ?_, fun some_left => ?_, fun socketFd bit => ?_,
      fun socketFd connected late => ?_, fun socketFd _ awaiting => ?_⟩
    · rw [events]
      exact Int.le_max_right _ _
    · cases fails : selecting.selectFails answer with
      | true =>
          rw [events, failed fails] at some_left
          exact absurd some_left (by decide)
      | false =>
          rw [events, registry]
          exact Int.le_trans (succeeded fails).1 (Int.le_max_left _ _)
    · rw [watched] at bit ⊢
      rw [connections]
      exact attentive.buffering socketFd bit
    · rw [watched]
      rw [peers] at late
      exact attentive.closing socketFd ((connections socketFd).mp connected) late
    · have before : selecting.Awaiting socketFd :=
        ⟨(connections socketFd).mp awaiting.connection, peers ▸ awaiting.encrypted,
          peers ▸ awaiting.pending, watched ▸ awaiting.readable⟩
      cases fails : selecting.selectFails answer with
      | true => exact absurd before (safe fails socketFd)
      | false =>
          have member := (succeeded fails).2 socketFd (noted socketFd before)
          have counted := (succeeded fails).1
          have some_found := List.length_pos_of_mem member
          refine .inr ⟨?_, registry ▸ member⟩
          rw [events]
          omega
  simp only [SocketManager.selectSockets]
  split
  · refine ⟨rested _ rfl rfl rfl, fun searching => ?_⟩
    rw [idle] at searching
    cases searching
  · split
    · refine ⟨rested _ rfl rfl rfl, fun searching => ?_⟩
      rw [idle] at searching
      cases searching
    · rename_i nonneg nonzero
      refine ⟨rested _ rfl rfl rfl, fun _ => ?_⟩
      simp only
      omega

private theorem selectSockets_null_iff {selecting : SocketManager}
    (attentive : Attentive selecting action from_fd none) (answer : PassAnswer) :
    (selecting.selectSockets answer).1 = .null ↔ selecting.selectFails answer = true := by
  obtain ⟨-, failed, succeeded⟩ := selectBuffered_spec attentive answer
  simp only [SocketManager.selectSockets]
  cases fails : selecting.selectFails answer with
  | true =>
      rw [failed fails]
      simp
  | false =>
      have nonneg := (succeeded fails).1
      rw [if_neg (by omega)]
      split <;> simp

/-! ## Runs -/

/-- What keeps TLS wakeups: while TLS is buffering, no `select` call is interrupted, and none fails
otherwise when data is waiting. -/
def SelectsThrough (manager : SocketManager) : ManagerAction → Prop
  | .call _ => True
  | .pass answer => ∀ selecting, manager.Selects selecting →
      selecting.tlsCurrentlyBuffering = true →
        answer.interruptions = 0 ∧
          (answer.ready = none → ∀ socketFd, ¬selecting.Awaiting socketFd)

private theorem atRest_initial : AtRest initial := by
  have nowhere : ∀ index socketFd, isSet initial.registry.selectState index socketFd = false := by
    intro index socketFd
    apply Bool.eq_false_iff.mpr
    intro bit
    have watched := Registry.sound_empty.watched socketFd (watched_of_isSet bit)
    obtain ⟨data, found⟩ := watched
    cases found
  refine ⟨⟨Registry.sound_empty, Int.le_refl 0, fun some_left => absurd some_left (Int.lt_irrefl 0),
    fun socketFd bit => ?_, fun socketFd _ _ => nowhere _ socketFd, fun socketFd _ awaiting => ?_⟩,
    fun searching => nomatch searching⟩
  · rw [nowhere] at bit
    cases bit
  · have readable := awaiting.readable
    rw [nowhere] at readable
    cases readable

/-- A `select` call in a guarded pass does not fail while data is waiting. -/
theorem AtRest.safe {selecting : SocketManager} {answer : PassAnswer} (rest : AtRest manager)
    (selects : manager.Selects selecting) (through : manager.SelectsThrough (.pass answer))
    (fails : selecting.selectFails answer = true) (socketFd : Nat) :
    ¬selecting.Awaiting socketFd := by
  intro awaiting
  obtain ⟨flag, -⟩ := rest.noted selects awaiting
  obtain ⟨uninterrupted, otherwise⟩ := through selecting selects flag
  refine otherwise ?_ socketFd awaiting
  simpa [selectFails, uninterrupted] using fails

/-- A guarded pass brings the poll routine to rest. -/
theorem AtRest.pass {answer : PassAnswer} {reply : Reply} (rest : AtRest manager)
    (through : manager.SelectsThrough (.pass answer))
    (moved : manager.pass answer = .ok (reply, next)) : AtRest next := by
  simp only [SocketManager.pass] at moved
  split at moved
  · rename_i searching
    exact rest.search (rest.searching searching) moved
  · rename_i idle
    have idle : manager.searching = false := Bool.eq_false_iff.mpr idle
    simp only [bind, Except.bind] at moved
    split at moved
    · cases moved
    · rename_i result announces
      obtain ⟨first_reply, announced⟩ := result
      obtain ⟨attentive, search⟩ := rest.attentive.announce announces
      have stays : AtRest announced := by
        refine ⟨?_, fun searching => ?_⟩
        · rw [search.action, search.socketFd]
          exact attentive
        · rw [search.searching, idle] at searching
          cases searching
      split at moved
      · obtain ⟨-, rfl⟩ := Prod.mk.inj (Except.ok.inj moved)
        exact stays
      · rename_i goes_on
        have goes_on : first_reply = .goesOn := not_not.mp goes_on
        subst goes_on
        split at moved
        · rename_i none_left
          have selects : manager.Selects announced := ⟨idle, announces, none_left⟩
          have same := Except.ok.inj moved
          rw [show next = (announced.selectSockets answer).2 by rw [same]]
          exact attentive.selectSockets (fun _ => rest.noted selects) (rest.safe selects through)
            (search.searching.trans idle)
        · rename_i some_left
          obtain ⟨-, rfl⟩ := Prod.mk.inj (Except.ok.inj moved)
          refine ⟨stays.attentive.congr rfl rfl rfl rfl, fun _ => ?_⟩
          have nonneg := attentive.nonneg
          simp only at some_left ⊢
          omega

theorem AtRest.step {act : ManagerAction} (rest : AtRest manager)
    (through : manager.SelectsThrough act) (moved : manager.step act = .ok next) : AtRest next := by
  cases act with
  | call request =>
      have search := sameSearch_call moved
      refine ⟨?_, fun searching => ?_⟩
      · rw [search.action, search.socketFd]
        exact rest.attentive.call moved
      · rw [search.searching] at searching
        rw [search.events]
        exact rest.searching searching
  | pass answer =>
      simp only [SocketManager.step] at moved
      obtain ⟨result, passes, rfl⟩ := FallibleRun.map_ok_iff.mp moved
      exact rest.pass through passes

/-- In every run in which no `select` call fails while TLS is buffering, the poll routine does not
wait in `select` while data is waiting in a TLS session, and no interruption makes it return a null
event. -/
theorem wakeful_of_run {actions : List ManagerAction} {answer : PassAnswer}
    (guarded : FallibleRun.Guarded SocketManager.step SelectsThrough initial
      (actions ++ [.pass answer]))
    (reached : FallibleRun.run SocketManager.step initial actions = .ok manager) :
    ∀ selecting, manager.Selects selecting →
      (selecting.tlsCurrentlyBuffering = false → ∀ socketFd, ¬selecting.Awaiting socketFd) ∧
      (answer.ready.isSome → ∀ after, manager.pass answer ≠ .ok (.null, after)) := by
  have rest : AtRest manager := guarded.of_append.invariant AtRest
    (fun _ _ _ rest through moved => rest.step through moved) atRest_initial reached
  have through := (guarded.after_append reached).1
  intro selecting selects
  refine ⟨fun no_flag socketFd awaiting => ?_, fun ready after null => ?_⟩
  · have flag := (rest.noted selects awaiting).1
    rw [no_flag] at flag
    cases flag
  · obtain ⟨idle, announces, none_left⟩ := selects
    obtain ⟨attentive, -⟩ := rest.attentive.announce announces
    have passes : manager.pass answer = .ok (selecting.selectSockets answer) := by
      simp [SocketManager.pass, idle, announces, none_left, bind, Except.bind, pure, Except.pure]
    rw [passes] at null
    have reply : (selecting.selectSockets answer).1 = .null := by rw [Except.ok.inj null]
    have fails := (selectSockets_null_iff attentive answer).mp reply
    have some_ready : answer.ready.isNone = false := by simpa using ready
    simp only [selectFails, some_ready, Bool.or_false, Bool.and_eq_true,
      decide_eq_true_iff] at fails
    have uninterrupted := (through selecting ⟨idle, announces, none_left⟩ fails.1).1
    omega

/-- A pass in which `select` finds some descriptors and the handler makes some calls. -/
def samplePass (ready : List Nat) (calls : List Call) (pending event : Bool) : ManagerAction :=
  .pass ⟨0, some fun index => if index = 0 then ready else [], calls, pending, event⟩

/-- An encrypted connection is registered and opened, and a read leaves data in its session. -/
def sampleRead : List ManagerAction :=
  [.call (.register 4 .connection 0 true true true ⟨.opened, Nat.le_refl _⟩),
    samplePass [4] [] true true, samplePass [] [] true true]

private theorem sampleRead_guarded (answer : PassAnswer) (uninterrupted : answer.interruptions = 0)
    (ready : answer.ready.isSome) :
    FallibleRun.Guarded SocketManager.step SelectsThrough initial
      (sampleRead ++ [.pass answer]) := by
  refine .cons trivial rfl (.cons ?_ rfl (.cons ?_ rfl ⟨?_, fun _ _ => trivial⟩))
  · exact fun selecting _ flag => ⟨rfl, fun impossible => nomatch impossible⟩
  · exact fun selecting _ flag => ⟨rfl, fun impossible => nomatch impossible⟩
  · refine fun selecting _ flag => ⟨uninterrupted, fun impossible => ?_⟩
    rw [impossible] at ready
    cases ready

/-- What `select` answers at once after the sample read. -/
def sampleAnswer (interruptions : Nat) : PassAnswer :=
  ⟨interruptions, some fun _ => [], [], false, false⟩

theorem sampleRead_wakeful : ∃ manager,
    FallibleRun.run SocketManager.step initial sampleRead = .ok manager ∧
      ∀ selecting, manager.Selects selecting →
        (selecting.tlsCurrentlyBuffering = false → ∀ socketFd, ¬selecting.Awaiting socketFd) ∧
        ((sampleAnswer 0).ready.isSome →
          ∀ after, manager.pass (sampleAnswer 0) ≠ .ok (.null, after)) :=
  ⟨_, rfl, wakeful_of_run (sampleRead_guarded (sampleAnswer 0) rfl rfl) rfl⟩

/-- One interruption after the sample read: the poll routine returns a null event, and is about to
wait although data is waiting. -/
theorem sampleRead_lost : ∃ manager lost,
    FallibleRun.run SocketManager.step initial sampleRead = .ok manager ∧
      manager.pass (sampleAnswer 1) = .ok (.null, lost) ∧
      lost.Selects lost ∧ lost.tlsCurrentlyBuffering = false ∧ lost.Awaiting 4 :=
  ⟨_, _, rfl, rfl, ⟨rfl, rfl, rfl⟩, rfl, ⟨⟨_, rfl, rfl⟩, rfl, rfl, rfl⟩⟩

end SocketManager

end Football
