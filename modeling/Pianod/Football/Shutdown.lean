import Pianod.Football.NoReturn

/-!
# Closing services

A service that is closed lets go of its connections one by one.  When the last one is destroyed, or
at once if there is none, the service is put on the stack of services to reap; the poll routine
first reports its end and frees it when it is called again.  In the list of services a freed one
stays as a closing service without relatives, listeners and connections.
-/

namespace Football

open Foundation

namespace System

/-- The connections, each with its service. -/
def roll (system : System) : List (Nat × Nat) :=
  system.peers.map fun peer => (peer.serial, peer.service)

/-- The connections of a service. -/
def members (system : System) (service : Nat) : List Nat :=
  (system.roll.filter (·.2 == service)).map Prod.fst

def isClosing (system : System) (service : Nat) : Bool :=
  (system.services[service]?).any Service.closing

/-- A service leaves its parent and its children. -/
def withoutRelative (service index : Nat) (found : Service) : Service :=
  if index = service ∨ found.parent = some service then { found with parent := none } else found

/-- Free a service and close its listeners. -/
def destroyService (system : System) (service : Nat) : Except Fault System :=
  if (system.members service).length ≠ 0 then .error (.assertion "service->connection_count == 0")
  else
    let sockets := (system.listeners.filter (·.service == service)).map Listener.socket
    .ok { system with
      services := system.services.mapIdx (withoutRelative service)
      listeners := system.listeners.filter (·.service != service)
      pendingReads := system.pendingReads.filter (· ∉ sockets)
      pendingWrites := system.pendingWrites.filter (· ∉ sockets) }

/-- The service that writing to a descriptor leaves without connections while it is closing. -/
def lastOf (system : System) (socket : Nat) : Option Nat :=
  match system.peers.find? (·.connection.socket == socket) with
  | none => none
  | some peer =>
      match peer.connection.sendOutput true with
      | .ok (_, .destroyed) =>
          if (system.members peer.service).length = 1 ∧ system.isClosing peer.service then
            some peer.service
          else none
      | _ => none

/-- Whether any descriptor is registered. -/
def anyRegistered (system : System) : Bool :=
  !(system.listeners.isEmpty && system.peers.isEmpty)

/-- Whether a turn returned an event. -/
def returned (before after : System) : Bool :=
  (after.log.drop before.log.length).any fun occurrence =>
    match occurrence with
    | .event _ _ _ => true
    | .reading _ => false

end System

/-- A service to be freed, and whether its end was reported. -/
structure Reap where
  service : Nat
  shutdownEventDone : Bool
deriving DecidableEq, Repr

/-- The system with the services that are to be reaped. -/
structure Daemon where
  system : System
  /-- The last that was scheduled comes first. -/
  reapq : List Reap
  /-- The poll routine is in the middle of its search. -/
  searching : Bool
  /-- All services that were ever scheduled, and all whose end was reported. -/
  scheduled : List Nat
  stopped : List Nat
deriving DecidableEq, Repr

/-- What moves the daemon; an application may also transfer connections. -/
inductive DaemonAction where
  | system (action : System.SystemAction)
  | transfer (serial service : Nat)

namespace Daemon

/-- Schedule a service for reaping. -/
def scheduleReap (daemon : Daemon) : Option Nat → Daemon
  | none => daemon
  | some service => { daemon with
      reapq := ⟨service, false⟩ :: daemon.reapq
      scheduled := daemon.scheduled ++ [service] }

/-- Free the services whose end was reported. -/
def reapDone (system : System) : List Reap → Except Fault (System × List Reap)
  | [] => .ok (system, [])
  | reap :: reapq =>
      if reap.shutdownEventDone then
        match system.destroyService reap.service with
        | .error fault => .error fault
        | .ok freed => reapDone freed reapq
      else .ok (system, reap :: reapq)

/-- Free what can be freed, and report the end of the next service. -/
def reap (daemon : Daemon) : Except Fault Daemon :=
  match reapDone daemon.system daemon.reapq with
  | .error fault => .error fault
  | .ok (system, []) => .ok { daemon with system := system, reapq := [] }
  | .ok (system, reap :: reapq) => .ok { daemon with
      system := system
      reapq := ⟨reap.service, true⟩ :: reapq
      stopped := daemon.stopped ++ [reap.service] }

/-- The descriptor that the next turn writes to. -/
def writesTo (system : System) : Option Nat :=
  match system.queuedEvent, system.pendingReads with
  | none, [] => system.pendingWrites.head?
  | _, _ => none

/-- Deliver a queued event, refresh the masks or attend to the next descriptor. -/
def advance (daemon : Daemon) (answer : PollAnswer) : Except Fault Daemon :=
  match daemon.system.poll answer with
  | .error fault => .error fault
  | .ok after =>
      let moved := { daemon with
        system := after
        searching := !daemon.system.returned after &&
          !(after.pendingReads.isEmpty && after.pendingWrites.isEmpty) }
      .ok (moved.scheduleReap ((writesTo daemon.system).bind daemon.system.lastOf))

/-- One turn of the poll loop; services are reaped when it starts afresh. -/
def turn (daemon : Daemon) (answer : PollAnswer) : Except Fault Daemon :=
  if daemon.searching then daemon.advance answer
  else if !daemon.system.anyRegistered then .ok daemon
  else if daemon.system.queuedEvent.isSome || daemon.reapq.isEmpty then daemon.advance answer
  else daemon.reap

/-- What an action does. -/
def step (daemon : Daemon) : DaemonAction → Except Fault Daemon
  | .system (.poll answer) => daemon.turn answer
  | .system (.closeService service) =>
      (daemon.system.step (.closeService service)).map fun after =>
        { daemon with system := after }.scheduleReap
          (if service < after.services.length ∧ (after.members service).length = 0 then some service
            else none)
  | .system action =>
      (daemon.system.step action).map fun after => { daemon with system := after }
  | .transfer serial service => .ok { daemon with system := daemon.system.transfer serial service }

end Daemon

namespace System

/-! ## Connections and services -/

/-- Connections are told apart by serial number, and those of closing services are closing. -/
structure Winding (system : System) : Prop where
  serials : (system.roll.map Prod.fst).Nodup
  bounded : ∀ entry ∈ system.roll, entry.1 < system.nextSerial
  leaving : ∀ peer ∈ system.peers, system.isClosing peer.service = true → peer.connection.Closing

/-- Closing services keep their connections, and no other service starts to close. -/
structure Steady (before after : System) : Prop where
  winding : Winding after
  closing : ∀ service, after.isClosing service = before.isClosing service
  members : ∀ service, before.isClosing service = true →
    after.members service = before.members service

theorem Steady.of_roll {before after : System} (winding : Winding before)
    (services : after.services = before.services) (roll : after.roll = before.roll)
    (nextSerial : after.nextSerial = before.nextSerial)
    (leaving : ∀ peer ∈ after.peers, after.isClosing peer.service = true →
      peer.connection.Closing) : Steady before after where
  winding := ⟨roll ▸ winding.serials, by rw [roll, nextSerial]; exact winding.bounded, leaving⟩
  closing := fun service => by rw [isClosing, isClosing, services]
  members := fun service _ => by rw [System.members, System.members, roll]

/-- What happens to the masks, the queued event and the log does not matter. -/
theorem Steady.of_peers {before after : System} (winding : Winding before)
    (services : after.services = before.services) (peers : after.peers = before.peers)
    (nextSerial : after.nextSerial = before.nextSerial) : Steady before after := by
  apply Steady.of_roll winding services (by rw [roll, roll, peers]) nextSerial
  intro peer member closing
  rw [peers] at member
  rw [isClosing, services] at closing
  exact winding.leaving peer member closing

theorem Steady.refl {system : System} (winding : Winding system) : Steady system system :=
  .of_peers winding rfl rfl rfl

theorem Steady.trans {before middle after : System} (first : Steady before middle)
    (second : Steady middle after) : Steady before after where
  winding := second.winding
  closing := fun service => (second.closing service).trans (first.closing service)
  members := fun service closing =>
    (second.members service ((first.closing service).trans closing)).trans
      (first.members service closing)

theorem mem_roll {system : System} {entry : Nat × Nat} :
    entry ∈ system.roll ↔ ∃ peer ∈ system.peers, peer.serial = entry.1 ∧
    peer.service = entry.2 := by
  simp only [roll, List.mem_map]
  constructor
  · rintro ⟨peer, member, rfl⟩
    exact ⟨peer, member, rfl, rfl⟩
  · rintro ⟨peer, member, serial, service⟩
    exact ⟨peer, member, Prod.ext serial service⟩

theorem mem_members {system : System} {serial service : Nat} :
    serial ∈ system.members service ↔ (serial, service) ∈ system.roll := by
  simp only [members, List.mem_map, List.mem_filter, beq_iff_eq]
  constructor
  · rintro ⟨⟨first, second⟩, ⟨member, rfl⟩, rfl⟩
    exact member
  · exact fun member => ⟨(serial, service), ⟨member, rfl⟩, rfl⟩

/-- A serial number stands for one connection. -/
theorem Winding.only {system : System} (winding : Winding system) {left right : Peer}
    (left_member : left ∈ system.peers) (right_member : right ∈ system.peers)
    (same : left.serial = right.serial) : left = right := by
  have serials : (system.peers.map Peer.serial).Nodup := by
    have serials := winding.serials
    rwa [roll, List.map_map] at serials
  exact List.inj_on_of_nodup_map serials left_member right_member same

private theorem roll_setConnection (system : System) (serial : Nat) (connection : Connection) :
    (system.setConnection serial connection).roll = system.roll := by
  simp only [roll, setConnection, List.map_map]
  apply List.map_congr_left
  intro peer _
  simp only [Function.comp]
  split <;> rfl

/-- A connection outside closing services, or one that is closing, is put back. -/
theorem Winding.setConnection {system : System} (winding : Winding system) {peer : Peer}
    (member : peer ∈ system.peers) {connection : Connection}
    (closing : system.isClosing peer.service = true → connection.Closing) :
    Steady system (system.setConnection peer.serial connection) := by
  apply @Steady.of_roll system (system.setConnection peer.serial connection) winding rfl
    (roll_setConnection system peer.serial connection) rfl
  intro after after_member after_closing
  obtain ⟨old, old_member, rfl⟩ := List.mem_map.mp after_member
  split at after_closing
  · rename_i same
    obtain rfl := winding.only old_member member same
    rw [if_pos rfl]
    exact closing after_closing
  · rename_i different
    rw [if_neg different]
    exact winding.leaving old old_member after_closing

/-- A connection goes away. -/
theorem Winding.destroyConnection {system : System} (winding : Winding system)
    (serial socket : Nat) :
    Winding (system.destroyConnection serial socket) ∧
      ∀ service, (system.destroyConnection serial socket).members service =
        (system.members service).filter (· ≠ serial) := by
  have roll_eq : (system.destroyConnection serial socket).roll =
      system.roll.filter (·.1 ≠ serial) := by
    simp only [roll, System.destroyConnection, List.filter_map]
    rfl
  refine ⟨⟨?_, fun entry listed => ?_, fun other listed closing => ?_⟩, fun service => ?_⟩
  · rw [roll_eq]
    exact winding.serials.sublist (List.filter_sublist.map _)
  · rw [roll_eq] at listed
    exact winding.bounded entry (List.mem_of_mem_filter listed)
  · exact winding.leaving other (List.mem_of_mem_filter listed) closing
  · rw [members, roll_eq, members, List.filter_map]
    congr 1
    rw [List.filter_filter, List.filter_filter]
    apply List.filter_congr
    intro entry _
    exact Bool.and_comm _ _

/-- A connection of a service that is not closing goes away. -/
theorem Winding.leaveOpen {system : System} (winding : Winding system) {peer : Peer}
    (member : peer ∈ system.peers) (open_yet : system.isClosing peer.service = false)
    (socket : Nat) : Steady system (system.destroyConnection peer.serial socket) := by
  obtain ⟨after, members⟩ := winding.destroyConnection peer.serial socket
  refine ⟨after, fun _ => rfl, fun service closing => ?_⟩
  rw [members, List.filter_eq_self]
  intro serial listed
  rw [decide_eq_true_iff]
  rintro rfl
  obtain ⟨other, other_member, same, service_eq⟩ := mem_roll.mp (mem_members.mp listed)
  obtain rfl := winding.only other_member member same
  rw [service_eq, closing] at open_yet
  cases open_yet

theorem roll_transfer (system : System) (serial service : Nat) :
    (system.transfer serial service).roll = system.roll.filter (·.1 ≠ serial) ++
      (system.roll.filter (·.1 = serial)).map fun entry => (entry.1, service) := by
  simp only [roll, System.transfer, List.map_append, List.map_map, List.filter_map]
  rfl

/-- The members of a service after a transfer to it or to another one. -/
theorem mem_members_transfer {system : System} {serial service other target : Nat} :
    other ∈ (system.transfer serial service).members target ↔
      (other ≠ serial ∧ other ∈ system.members target) ∨
        (other = serial ∧ target = service ∧ ∃ origin, serial ∈ system.members origin) := by
  simp only [mem_members, roll_transfer, List.mem_append, List.mem_filter, decide_eq_true_iff,
    List.mem_map]
  constructor
  · rintro (⟨listed, different⟩ | ⟨⟨first, origin⟩, ⟨listed, rfl⟩, same⟩)
    · exact .inl ⟨different, listed⟩
    · cases same
      exact .inr ⟨rfl, rfl, origin, listed⟩
  · rintro (⟨different, listed⟩ | ⟨rfl, rfl, origin, listed⟩)
    · exact .inl ⟨listed, different⟩
    · exact .inr ⟨(other, origin), ⟨listed, rfl⟩, rfl⟩

/-- Serial numbers are kept in a transfer, and only closing connections go to closing services. -/
theorem Winding.transferred {system : System} (winding : Winding system) {serial service : Nat}
    (stays : ∀ peer ∈ system.peers, peer.serial = serial → system.isClosing service = true →
      peer.connection.Closing) :
    Winding (system.transfer serial service) := by
  refine ⟨?_, fun entry listed => ?_, fun peer listed closing => ?_⟩
  · have halves : ((system.transfer serial service).roll.map Prod.fst).Perm
        (system.roll.map Prod.fst) := by
      rw [roll_transfer, List.map_append, List.map_map]
      change (List.map Prod.fst _ ++ List.map Prod.fst _).Perm _
      rw [← List.map_append]
      apply List.Perm.map
      have parts := List.filter_append_perm (fun entry : Nat × Nat => decide (entry.1 ≠ serial))
        system.roll
      simpa using parts
    exact halves.nodup_iff.mpr winding.serials
  · rw [roll_transfer] at listed
    rcases List.mem_append.mp listed with kept | moved
    · exact winding.bounded entry (List.mem_of_mem_filter kept)
    · obtain ⟨old, old_listed, rfl⟩ := List.mem_map.mp moved
      exact winding.bounded old (List.mem_of_mem_filter old_listed)
  · rcases List.mem_append.mp listed with kept | moved
    · exact winding.leaving peer (List.mem_of_mem_filter kept) closing
    · obtain ⟨old, old_listed, rfl⟩ := List.mem_map.mp moved
      obtain ⟨old_member, same⟩ := List.mem_filter.mp old_listed
      exact stays old old_member (by simpa using same) closing

/-- A connection moves from one service to another, neither of which is closing. -/
theorem Winding.transfer {system : System} (winding : Winding system) {serial service : Nat}
    (away : ∀ peer ∈ system.peers, peer.serial = serial → system.isClosing peer.service = false)
    (open_yet : system.isClosing service = false) :
    Steady system (system.transfer serial service) := by
  refine ⟨winding.transferred fun _ _ _ closing => ?_, fun _ => rfl, fun other closing => ?_⟩
  · rw [open_yet] at closing
    cases closing
  · have not_target : ¬(service == other) = true := by
      intro same
      rw [beq_iff_eq.mp same, closing] at open_yet
      cases open_yet
    rw [members, roll_transfer, List.filter_append, List.map_append, members]
    have moved_elsewhere : ((system.roll.filter (·.1 = serial)).map
        fun entry => (entry.1, service)).filter (·.2 == other) = [] := by
      apply List.filter_eq_nil_iff.mpr
      intro entry listed
      obtain ⟨old, -, rfl⟩ := List.mem_map.mp listed
      exact not_target
    rw [moved_elsewhere, List.map_nil, List.append_nil, List.filter_filter]
    congr 1
    apply List.filter_congr
    intro entry listed
    by_cases here : entry.2 = other
    · obtain ⟨peer, member, serial_eq, service_eq⟩ := mem_roll.mp listed
      have apart : entry.1 ≠ serial := by
        intro same
        have := away peer member (serial_eq.trans same)
        rw [service_eq, here, closing] at this
        cases this
      simp [here, apart]
    · simp [here]

/-- A connection joins a service that is not closing. -/
theorem Winding.addPeer {system after : System} (winding : Winding system) {service : Nat}
    {connection : Connection} (open_yet : system.isClosing service = false)
    (added : system.addPeer service connection = .ok after) : Steady system after := by
  rw [System.addPeer] at added
  split at added
  · cases added
  · obtain rfl := Except.ok.inj added
    have roll_eq : ∀ peers, roll { system with
        peers := system.peers ++ peers
        nextSerial := system.nextSerial + 1 } =
          system.roll ++ peers.map fun peer => (peer.serial, peer.service) := by
      intro peers
      simp only [roll, List.map_append]
    refine ⟨⟨?_, fun entry listed => ?_, fun peer listed closing => ?_⟩, fun _ => rfl,
      fun other closing => ?_⟩
    · rw [roll_eq, List.map_append, List.nodup_append]
      refine ⟨winding.serials, List.nodup_singleton _, fun serial listed other new same => ?_⟩
      obtain ⟨entry, entry_listed, rfl⟩ := List.mem_map.mp listed
      have below := winding.bounded entry entry_listed
      rw [same, List.mem_singleton.mp new] at below
      exact Nat.lt_irrefl _ below
    · rw [roll_eq] at listed
      rcases List.mem_append.mp listed with old | new
      · exact Nat.lt_succ_of_lt (winding.bounded entry old)
      · rw [List.mem_singleton.mp new]
        exact Nat.lt_succ_self _
    · rcases List.mem_append.mp listed with old | new
      · exact winding.leaving peer old closing
      · rw [List.mem_singleton.mp new] at closing
        exact absurd (open_yet.symm.trans closing) Bool.false_ne_true
    · have elsewhere : (service == other) = false := by
        apply Bool.eq_false_iff.mpr
        intro same
        rw [beq_iff_eq.mp same, closing] at open_yet
        cases open_yet
      rw [members, roll_eq, List.filter_append, List.map_append, members]
      simp [elsewhere]

private theorem forPeers_roll {condition : Peer → Bool}
    {operation : Connection → Except Fault Connection}
    {peers after : List Peer} (applied : forPeers condition operation peers = .ok after) :
    after.map (fun peer => (peer.serial, peer.service)) =
      peers.map fun peer => (peer.serial, peer.service) := by
  induction peers generalizing after with
  | nil =>
      obtain rfl := Except.ok.inj applied
      rfl
  | cons peer peers ih =>
      rw [forPeers] at applied
      split at applied
      · cases applied
      · obtain ⟨rest, later, rfl⟩ := FallibleRun.map_ok_iff.mp applied
        rw [List.map_cons, List.map_cons, ih later]

/-- The connections after an operation, each with what it was before. -/
theorem onPeers_ok {system after : System} {condition : Peer → Bool}
    {operation : Connection → Except Fault Connection}
    (applied : system.onPeers condition operation = .ok after) :
    ∃ peers, after = { system with peers := peers } ∧ after.roll = system.roll ∧
      ∀ peer ∈ peers, ∃ old ∈ system.peers, peer.service = old.service ∧
        (if condition old then operation old.connection = .ok peer.connection
          else peer.connection = old.connection) := by
  rw [onPeers] at applied
  obtain ⟨peers, done, rfl⟩ := FallibleRun.map_ok_iff.mp applied
  have same := forPeers_roll done
  refine ⟨peers, rfl, same, fun peer member => ?_⟩
  obtain ⟨place, found⟩ := List.mem_iff_getElem?.mp member
  have length_eq := (forPeers_forall₂ done).length_eq
  have inside : place < system.peers.length := by
    rw [length_eq]
    exact (List.getElem?_eq_some_iff.mp found).1
  have old_found := List.getElem?_eq_getElem inside
  refine ⟨system.peers[place], List.getElem_mem inside, ?_, ?_⟩
  · have entries := congrArg (·[place]?) same
    simp only [List.getElem?_map, found, old_found, Option.map_some] at entries
    exact (Prod.mk.inj (Option.some.inj entries)).2
  · have pairs := forPeers_forall₂ done
    have pair := List.forall₂_iff_get.mp pairs
    have at_place := pair.2 place inside (length_eq ▸ inside)
    obtain ⟨within, value⟩ := List.getElem?_eq_some_iff.mp found
    rw [← value]
    exact at_place.2

/-- Operations under which closing connections go on closing. -/
theorem Winding.onPeers {system after : System} {condition : Peer → Bool}
    {operation : Connection → Except Fault Connection} (winding : Winding system)
    (moves : ∀ before after, operation before = .ok after → before.Closing → after.Closing)
    (applied : system.onPeers condition operation = .ok after) : Steady system after := by
  obtain ⟨peers, rfl, same, changes⟩ := onPeers_ok applied
  apply @Steady.of_roll system { system with peers := peers } winding rfl same rfl
  intro peer member closing
  obtain ⟨old, old_member, service, change⟩ := changes peer member
  have old_closing := winding.leaving old old_member (service ▸ closing)
  split at change
  · exact moves _ _ change old_closing
  · rw [change]
    exact old_closing

/-! ## Reading and writing -/

/-- A connection that is closing cannot be read from. -/
theorem readInput_of_closing {services : List Service} {answer : PollAnswer} {service : Nat}
    {options : ServiceOptions} {connection : Connection} (closing : connection.Closing) :
    readInput services answer service options connection = .error (.assertion "0") := by
  rw [Connection.Closing] at closing
  have shaken : connection.state ≠ .tlsHandshake := by
    intro state
    rw [state] at closing
    exact absurd closing (by decide)
  rw [readInput, if_neg shaken, readSession]
  split
  · rfl
  · rename_i state
    rw [state] at closing
    exact absurd closing (by decide)
  · rename_i state
    rw [state] at closing
    exact absurd closing (by decide)
  · rename_i state
    rw [state] at closing
    exact absurd closing (by decide)
  · rfl
  · rfl

/-- Reading from a connection keeps closing services as they are, unless it sends the connection
to one. -/
theorem Winding.attendRead {system after : System} {answer : PollAnswer} {peer : Peer}
    (winding : Winding system) (member : peer ∈ system.peers)
    (apart : ∀ connection event service,
      readInput system.services answer peer.service (system.optionsOf peer.service)
        peer.connection = .ok (.goesOn connection event (some service)) →
      system.isClosing service = false)
    (read : system.attendRead answer peer = .ok after) : Steady system after := by
  have open_yet : system.isClosing peer.service = false := by
    apply Bool.eq_false_iff.mpr
    intro closing
    rw [System.attendRead, readInput_of_closing (winding.leaving peer member closing)] at read
    cases read
  rw [System.attendRead] at read
  simp only at read
  split at read
  · cases read
  · obtain rfl := Except.ok.inj read
    exact (winding.leaveOpen member open_yet _).trans
      (.of_peers (winding.leaveOpen member open_yet peer.connection.socket).winding rfl rfl rfl)
  · rename_i connection line outcome
    obtain rfl := Except.ok.inj read
    have put := @Winding.setConnection system winding peer member
      (noteBuffering connection answer.buffered)
      fun closing => absurd (open_yet.symm.trans closing) Bool.false_ne_true
    exact put.trans (.of_peers put.winding rfl rfl rfl)
  · rename_i connection event moved outcome
    obtain rfl := Except.ok.inj read
    have put := @Winding.setConnection system winding peer member
      (noteBuffering connection answer.buffered)
      fun closing => absurd (open_yet.symm.trans closing) Bool.false_ne_true
    have logged : Steady system (System.setConnection
        { system with log := system.log ++ [Occurrence.reading peer.serial] } peer.serial
          (noteBuffering connection answer.buffered)) :=
      put.trans (.of_peers put.winding rfl rfl rfl)
    have transferred : Steady system (moveTo (System.setConnection
        { system with log := system.log ++ [Occurrence.reading peer.serial] } peer.serial
          (noteBuffering connection answer.buffered)) peer.serial moved) := by
      cases moved with
      | none => exact logged
      | some service =>
          refine logged.trans (logged.winding.transfer (fun other other_member same => ?_) ?_)
          · rw [logged.closing]
            obtain ⟨old, old_member, rfl⟩ := List.mem_map.mp other_member
            split at same
            · rename_i here
              rw [if_pos here]
              obtain rfl := winding.only old_member member here
              exact open_yet
            · contradiction
          · rw [logged.closing]
            exact apart connection event service outcome
    refine transferred.trans ?_
    cases event with
    | none => exact .refl transferred.winding
    | some occurred => exact .of_peers transferred.winding rfl rfl rfl

/-- Sending keeps a closing connection closing, and only what is closing is destroyed. -/
theorem sendOutput_closing {before after : Connection} {report : Connection.SendReport}
    (sent : before.sendOutput true = .ok (after, report)) (closing : before.Closing) :
    after.Closing := by
  rw [Connection.sendOutput] at sent
  split at sent
  · simp only [Bool.not_true, Bool.false_eq_true, if_false] at sent
    split at sent
    · cases sent
      exact (by decide : SocketState.opened.rank < SocketState.closing.rank)
    · split at sent
      · cases sent
        exact closing
      · cases sent
        exact closing
  · obtain ⟨middle, flushed, sent⟩ := FallibleRun.bind_ok_iff.mp sent
    cases sent
    exact Nat.lt_of_lt_of_le closing
      ((Connection.flushOutput_sent flushed).onward.rank closing)

/-- What a turn does to closing services: they lose connections at most, and those that become empty
are the one that was left last. -/
structure Winds (before after : System) (last : Option Nat) : Prop where
  winding : Winding after
  closing : ∀ service, after.isClosing service = before.isClosing service
  members : ∀ service, before.isClosing service = true →
    after.members service ⊆ before.members service
  emptied : ∀ service, before.isClosing service = true →
    ((after.members service).length = 0 ↔
      (before.members service).length = 0 ∨ last = some service)
  last : ∀ service, last = some service →
    before.isClosing service = true ∧ (before.members service).length ≠ 0

theorem Steady.winds {before after : System} (steady : Steady before after) :
    Winds before after none := by
  refine ⟨steady.winding, steady.closing, fun service closing => ?_, fun service closing => ?_,
    fun service impossible => nomatch impossible⟩
  · rw [steady.members service closing]
    exact List.Subset.refl _
  · rw [steady.members service closing]
    simp

theorem members_nodup {system : System} (winding : Winding system) (service : Nat) :
    (system.members service).Nodup :=
  winding.serials.sublist (List.filter_sublist.map _)

/-- A connection moves to a service that is not closing or that it already belongs to, and is not
the last one that a closing service loses. -/
theorem Winding.moved {system : System} (winding : Winding system) {serial service : Nat}
    (stays : ∀ origin, serial ∈ system.members origin → system.isClosing service = true →
      origin = service)
    (others : ∀ origin, serial ∈ system.members origin → system.isClosing origin = true →
      origin = service ∨ 2 ≤ (system.members origin).length) :
    Winds system (system.transfer serial service) none := by
  have inside : ∀ peer ∈ system.peers, peer.serial = serial →
      serial ∈ system.members peer.service :=
    fun peer member same => mem_members.mpr (mem_roll.mpr ⟨peer, member, same, rfl⟩)
  refine ⟨winding.transferred fun peer member same closing => ?_, fun _ => rfl,
    fun target closing => ?_, fun target closing => ?_, nofun⟩
  · obtain rfl := stays peer.service (inside peer member same) closing
    exact winding.leaving peer member closing
  · intro other listed
    rcases mem_members_transfer.mp listed with ⟨-, before⟩ | ⟨rfl, rfl, origin, before⟩
    · exact before
    · obtain rfl := stays origin before closing
      exact before
  · simp only [List.length_eq_zero_iff, List.eq_nil_iff_forall_not_mem, reduceCtorEq, or_false]
    constructor
    · intro empty other listed
      by_cases same : other = serial
      · subst same
        rcases others target listed closing with rfl | more
        · exact empty other (mem_members_transfer.mpr (.inr ⟨rfl, rfl, target, listed⟩))
        · -- Another connection stays behind.
          have remaining := List.length_erase_of_mem listed
          have some_left : 0 < ((system.members target).erase other).length := by omega
          obtain ⟨left, left_listed⟩ := List.exists_mem_of_length_pos some_left
          have apart := (members_nodup winding target).mem_erase_iff.mp left_listed
          exact empty left (mem_members_transfer.mpr (.inl apart))
      · exact empty other (mem_members_transfer.mpr (.inl ⟨same, listed⟩))
    · intro empty other listed
      rcases mem_members_transfer.mp listed with ⟨-, before⟩ | ⟨rfl, rfl, origin, before⟩
      · exact empty other before
      · obtain rfl := stays origin before closing
        exact empty other before

/-- A closing connection that is destroyed may be the last of its service. -/
theorem Winding.leave {system : System} (winding : Winding system) {peer : Peer}
    (member : peer ∈ system.peers) (socket : Nat) :
    Winds system (system.destroyConnection peer.serial socket)
      (if (system.members peer.service).length = 1 ∧ system.isClosing peer.service then
        some peer.service else none) := by
  obtain ⟨after, members⟩ := winding.destroyConnection peer.serial socket
  have here : peer.serial ∈ system.members peer.service :=
    mem_members.mpr (mem_roll.mpr ⟨peer, member, rfl, rfl⟩)
  have elsewhere : ∀ service, service ≠ peer.service →
      (system.members service).filter (· ≠ peer.serial) = system.members service := by
    intro service different
    rw [List.filter_eq_self]
    intro serial listed
    rw [decide_eq_true_iff]
    rintro rfl
    obtain ⟨other, other_member, same, service_eq⟩ := mem_roll.mp (mem_members.mp listed)
    obtain rfl := winding.only other_member member same
    exact different service_eq.symm
  have one_less : ((system.members peer.service).filter (· ≠ peer.serial)).length =
      (system.members peer.service).length - 1 := by
    rw [← List.length_erase_of_mem here, (members_nodup winding peer.service).erase_eq_filter]
    congr 1
    apply List.filter_congr
    intro serial _
    by_cases same : serial = peer.serial <;> simp [same]
  have some_member := List.length_pos_of_mem here
  refine ⟨after, fun _ => rfl, fun service _ => ?_, fun service closing => ?_,
    fun service last => ?_⟩
  · rw [members]
    exact List.filter_subset_self _
  · rw [members]
    by_cases same : service = peer.service
    · subst same
      rw [one_less]
      by_cases single : (system.members peer.service).length = 1
      · simp [single, closing]
      · simp only [single, false_and, if_false]
        constructor
        · intro empty
          omega
        · rintro (empty | impossible)
          · omega
          · cases impossible
    · rw [elsewhere service same]
      constructor
      · exact .inl
      · rintro (empty | last)
        · exact empty
        · split at last
          · exact absurd (Option.some.inj last).symm same
          · cases last
  · split at last
    · rename_i both
      obtain rfl := Option.some.inj last
      exact ⟨both.2, by omega⟩
    · cases last

theorem Winding.processWrite {system after : System} {socket : Nat} (winding : Winding system)
    (processed : system.processWrite socket = .ok after) :
    Winds system after (system.lastOf socket) := by
  rw [System.processWrite] at processed
  split at processed
  · cases processed
  · rename_i peer found
    rw [lastOf, found]
    have member : peer ∈ system.peers := List.mem_of_find?_eq_some found
    simp only
    split at processed
    · cases processed
    · rename_i connection sent
      obtain rfl := Except.ok.inj processed
      rw [sent]
      exact (winding.setConnection member fun closing =>
        sendOutput_closing sent (winding.leaving peer member closing)).winds
    · rename_i connection sent
      obtain rfl := Except.ok.inj processed
      rw [sent]
      have put := winding.setConnection member fun closing =>
        sendOutput_closing sent (winding.leaving peer member closing)
      have reported : Steady system
          ((system.setConnection peer.serial connection).emit .close peer.serial none) :=
        put.trans (.of_peers put.winding rfl rfl rfl)
      exact reported.winds
    · rename_i connection sent
      obtain rfl := Except.ok.inj processed
      rw [sent]
      exact winding.leave member socket

/-! ## Turns of the poll loop -/

/-- A turn that reads joins no connection to a closing service: no listener of one accepts, and no
connection is sent to one. -/
def KeepsOut (system : System) (answer : PollAnswer) : Prop :=
  (∀ listener ∈ system.listeners, system.pendingReads.head? = some listener.socket →
    answer.accepted.isSome → system.isClosing listener.service = false) ∧
  ∀ peer ∈ system.peers, system.pendingReads.head? = some peer.connection.socket →
    ∀ connection event service,
      readInput system.services answer peer.service (system.optionsOf peer.service)
        peer.connection = .ok (.goesOn connection event (some service)) →
      system.isClosing service = false

theorem Winding.newConnect {system after : System} {answer : PollAnswer} {listener : Listener}
    (winding : Winding system)
    (open_yet : answer.accepted.isSome → system.isClosing listener.service = false)
    (connected : system.newConnect answer listener = .ok after) : Steady system after := by
  rw [System.newConnect] at connected
  split at connected
  · obtain rfl := Except.ok.inj connected
    exact .refl winding
  · rename_i accepted arrived
    rw [arrived] at open_yet
    simp only at connected
    obtain ⟨middle, added, rfl⟩ := FallibleRun.map_ok_iff.mp connected
    have joined := winding.addPeer (open_yet rfl) added
    have either : ∀ (condition : Prop) [Decidable condition], Steady system
        (if condition then middle.emit .connect system.nextSerial none else middle) := by
      intro condition _
      split
      · exact joined.trans (.of_peers joined.winding rfl rfl rfl)
      · exact joined
    exact either _

/-- A turn of the poll loop that keeps new connections out of closing services. -/
theorem Winding.poll {system after : System} {answer : PollAnswer} (winding : Winding system)
    (keeps_out : system.queuedEvent = none → system.KeepsOut answer)
    (polled : system.poll answer = .ok after) :
    Winds system after ((Daemon.writesTo system).bind system.lastOf) := by
  obtain ⟨services, listeners, peers, reads, writes, queued, nextSerial, log⟩ := system
  cases queued with
  | some event =>
      obtain rfl := Except.ok.inj polled
      have delivered :
          Steady ⟨services, listeners, peers, reads, writes, some event, nextSerial, log⟩
          ((⟨services, listeners, peers, reads, writes, none, nextSerial, log⟩ : System).emit .input
            event.1 (some event.2)) :=
        .of_peers winding rfl rfl rfl
      exact delivered.winds
  | none =>
      obtain ⟨listeners_out, peers_out⟩ := keeps_out rfl
      cases reads with
      | cons socket reads =>
          have taken : Steady
              ⟨services, listeners, peers, socket :: reads, writes, none, nextSerial, log⟩
              ⟨services, listeners, peers, reads, writes, none, nextSerial, log⟩ :=
            .of_peers winding rfl rfl rfl
          refine (taken.trans ?_).winds
          simp only [System.poll, System.processRead] at polled
          split at polled
          · rename_i listener found
            have listening : listener.socket = socket := by
              simpa using List.find?_some found
            refine taken.winding.newConnect (fun arrived => ?_) polled
            rw [← listening] at listeners_out
            exact listeners_out listener (List.mem_of_find?_eq_some found) rfl arrived
          · split at polled
            · rename_i peer found
              have connected : peer.connection.socket = socket := by
                simpa using List.find?_some found
              have member := List.mem_of_find?_eq_some found
              rw [← connected] at peers_out
              exact taken.winding.attendRead member (peers_out peer member rfl) polled
            · cases polled
      | nil =>
          cases writes with
          | cons socket writes =>
              have taken : Steady
                  ⟨services, listeners, peers, [], socket :: writes, none, nextSerial, log⟩
                  ⟨services, listeners, peers, [], writes, none, nextSerial, log⟩ :=
                .of_peers winding rfl rfl rfl
              have written := taken.winding.processWrite polled
              exact ⟨written.winding, written.closing, written.members, written.emptied,
                written.last⟩
          | nil =>
              obtain rfl := Except.ok.inj polled
              have selected : Steady ⟨services, listeners, peers, [], [], none, nextSerial, log⟩
                  (System.selectSockets ⟨services, listeners, peers, [], [], none, nextSerial, log⟩
                    answer) :=
                .of_peers winding rfl rfl rfl
              exact selected.winds

/-- A service without connections can be freed, and nothing else changes for connections. -/
theorem Winding.destroyService {system : System} (winding : Winding system) {service : Nat}
    (vacant : (system.members service).length = 0) :
    ∃ after, system.destroyService service = .ok after ∧ Steady system after := by
  have destroyed : ∀ after, system.destroyService service = .ok after → Steady system after := by
    intro after destroyed
    rw [System.destroyService, if_neg (not_not.mpr vacant)] at destroyed
    obtain rfl := Except.ok.inj destroyed
    have same : ∀ other, ((system.services.mapIdx (withoutRelative service))[other]?).any
        Service.closing = system.isClosing other := by
      intro other
      rw [isClosing, List.getElem?_mapIdx]
      cases system.services[other]? with
      | none => rfl
      | some found =>
          simp only [Option.map_some, Option.any_some, withoutRelative]
          split <;> rfl
    refine ⟨⟨winding.serials, winding.bounded, fun peer member closing => ?_⟩, same,
      fun _ _ => rfl⟩
    exact winding.leaving peer member ((same peer.service).symm.trans closing)
  exact ⟨_, if_neg (not_not.mpr vacant), destroyed _ (if_neg (not_not.mpr vacant))⟩

/-- All connections of a service that starts to close start to close. -/
theorem Winding.closeService {system after : System} {service : Nat} (winding : Winding system)
    (closed : system.step (.closeService service) = .ok after) :
    Winding after ∧ after.roll = system.roll ∧ after.services.length = system.services.length ∧
      (∀ other, after.isClosing other = true ↔ system.isClosing other = true ∨
        other = service ∧ service < system.services.length) ∧
      (service < system.services.length → system.isClosing service = false) := by
  rw [step] at closed
  split at closed
  · rename_i unknown
    have outside := List.getElem?_eq_none_iff.mp unknown
    obtain rfl := Except.ok.inj closed
    refine ⟨winding, rfl, rfl, fun other => ⟨.inl, ?_⟩, fun inside => ?_⟩
    · rintro (closing | ⟨-, inside⟩)
      · exact closing
      · exact absurd inside (Nat.not_lt.mpr outside)
    · exact absurd inside (Nat.not_lt.mpr outside)
  · rename_i found known
    obtain ⟨inside, -⟩ := List.getElem?_eq_some_iff.mp known
    split at closed
    · cases closed
    · rename_i not_closing
      obtain ⟨peers, rfl, same, changes⟩ := onPeers_ok closed
      have now_closing : ∀ other,
          ((system.services.set service { found with closing := true })[other]?).any
              Service.closing = true ↔
            system.isClosing other = true ∨ other = service ∧ service < system.services.length := by
        intro other
        by_cases here : service = other
        · subst here
          simp [inside]
        · rw [List.getElem?_set_ne here, isClosing]
          simp [Ne.symm here]
      refine ⟨⟨?_, ?_, fun peer member closing => ?_⟩, same, List.length_set, now_closing,
        fun _ => ?_⟩
      · rw [same]
        exact winding.serials
      · rw [same]
        exact winding.bounded
      · obtain ⟨old, old_member, stays, change⟩ := changes peer member
        split at change
        · rw [← Except.ok.inj change]
          exact Connection.closing_closeConnection old.connection
        · rename_i elsewhere
          rw [change]
          rcases (now_closing peer.service).mp closing with before | ⟨target, -⟩
          · exact winding.leaving old old_member (stays ▸ before)
          · exact absurd (beq_iff_eq.mpr (stays.symm.trans target)) elsewhere
      · rw [isClosing, known]
        exact Bool.eq_false_iff.mpr not_closing

end System

namespace Daemon

@[simp]
theorem scheduleReap_system (daemon : Daemon) (last : Option Nat) :
    (daemon.scheduleReap last).system = daemon.system := by
  cases last <;> rfl

/-- Services that are scheduled and whose end is still to be reported. -/
def waiting (daemon : Daemon) : List Nat :=
  (daemon.reapq.filter (!·.shutdownEventDone)).map Reap.service

/-- A service is scheduled exactly once when it is closing and has no connections, and not before;
every scheduled service waits or was reported. -/
structure Clean (daemon : Daemon) : Prop where
  scheduled : ∀ service, daemon.scheduled.count service =
    if daemon.system.isClosing service ∧ (daemon.system.members service).length = 0 then 1 else 0
  reported : ∀ service, daemon.stopped.count service + daemon.waiting.count service =
    daemon.scheduled.count service

/-- What holds of the daemon at all times. -/
structure Tidy (daemon : Daemon) : Prop where
  winding : System.Winding daemon.system
  clean : Clean daemon
  queued : ∀ reap ∈ daemon.reapq, reap.service ∈ daemon.scheduled

/-- A service that is to be reaped is closing and without connections. -/
theorem Clean.vacant {daemon : Daemon} (clean : Clean daemon) {service : Nat}
    (scheduled : service ∈ daemon.scheduled) :
    daemon.system.isClosing service = true ∧ (daemon.system.members service).length = 0 := by
  have some_count := List.count_pos_iff.mpr scheduled
  rw [clean.scheduled] at some_count
  split at some_count
  · assumption
  · exact absurd some_count (Nat.lt_irrefl 0)

/-- What winds down closing services and schedules the one that is left last keeps the daemon
tidy. -/
theorem Tidy.winds {daemon : Daemon} (tidy : Tidy daemon) {after : System} {last : Option Nat}
    (winds : System.Winds daemon.system after last) (searching : Bool) :
    Tidy ({ daemon with system := after, searching := searching }.scheduleReap last) := by
  have counts : ∀ service, (daemon.scheduled.count service + if last = some service then 1 else 0) =
      if after.isClosing service ∧ (after.members service).length = 0 then 1 else 0 := by
    intro service
    rw [tidy.clean.scheduled service, winds.closing service]
    by_cases closing : daemon.system.isClosing service = true
    · by_cases last_here : last = some service
      · have before := (winds.last service last_here).2
        have empty := (winds.emptied service closing).mpr (.inr last_here)
        simp [closing, last_here, before, empty]
      · have same : (after.members service).length = 0 ↔
            (daemon.system.members service).length = 0 := by
          rw [winds.emptied service closing]
          exact or_iff_left last_here
        simp only [closing, last_here, same, true_and, if_false, Nat.add_zero]
    · have not_last : last ≠ some service := fun last => closing (winds.last service last).1
      simp [closing, not_last]
  cases last with
  | none =>
      refine ⟨winds.winding, ⟨fun service => ?_, tidy.clean.reported⟩, tidy.queued⟩
      have count := counts service
      rw [if_neg nofun, Nat.add_zero] at count
      exact count
  | some left =>
      refine ⟨winds.winding, ⟨fun service => ?_, fun service => ?_⟩, fun reap member => ?_⟩
      · have count := counts service
        simp only [scheduleReap, List.count_append, List.count_singleton, beq_iff_eq]
        simp only [Option.some.injEq] at count
        exact count
      · have reported := tidy.clean.reported service
        simp only [waiting, scheduleReap, List.filter_cons, Bool.not_false, if_true, List.map_cons,
          List.count_cons, List.count_append, List.count_nil] at reported ⊢
        omega
      · simp only [scheduleReap] at member ⊢
        rcases List.mem_cons.mp member with rfl | old
        · exact List.mem_append_right _ (List.mem_singleton_self _)
        · exact List.mem_append_left _ (tidy.queued reap old)

/-- Nothing happened that matters for closing services. -/
theorem Tidy.steady {daemon : Daemon} (tidy : Tidy daemon) {after : System}
    (steady : System.Steady daemon.system after) : Tidy { daemon with system := after } :=
  tidy.winds steady.winds daemon.searching

/-! ## Reaping -/

/-- Services whose end was reported are freed, and those whose end was not stay. -/
theorem reapDone_ok {system : System} (winding : System.Winding system) {reapq : List Reap}
    (vacant : ∀ reap ∈ reapq, system.isClosing reap.service = true ∧
      (system.members reap.service).length = 0) :
    ∃ after rest, reapDone system reapq = .ok (after, rest) ∧ System.Steady system after ∧
      rest <:+ reapq ∧ rest.filter (!·.shutdownEventDone) = reapq.filter (!·.shutdownEventDone) ∧
      ∀ reap ∈ rest.head?, reap.shutdownEventDone = false := by
  induction reapq generalizing system with
  | nil => exact ⟨system, [], rfl, .refl winding, List.suffix_refl _, rfl, nofun⟩
  | cons reap reapq ih =>
      cases done : reap.shutdownEventDone with
      | false =>
          have stays : reapDone system (reap :: reapq) = .ok (system, reap :: reapq) := by
            rw [reapDone, if_neg (Bool.eq_false_iff.mp done)]
          refine ⟨system, reap :: reapq, stays, .refl winding, List.suffix_refl _, rfl, ?_⟩
          intro first head
          obtain rfl := Option.some.inj head
          exact done
      | true =>
          obtain ⟨freed, destroyed, steady⟩ :=
            winding.destroyService (vacant reap List.mem_cons_self).2
          have still : ∀ other ∈ reapq, freed.isClosing other.service = true ∧
              (freed.members other.service).length = 0 := by
            intro other member
            obtain ⟨closing, empty⟩ := vacant other (List.mem_cons_of_mem _ member)
            rw [steady.closing, steady.members other.service closing]
            exact ⟨closing, empty⟩
          obtain ⟨after, rest, rest_done, later, suffix, same, head⟩ := ih steady.winding still
          refine ⟨after, rest, ?_, steady.trans later, suffix.trans (List.suffix_cons _ _), ?_,
            head⟩
          · rw [reapDone, if_pos done, destroyed]
            exact rest_done
          · rw [same, List.filter_cons, done, Bool.not_true, if_neg Bool.false_ne_true]

/-- Reaping reports the end of the first service that waits. -/
theorem Tidy.reap {daemon : Daemon} (tidy : Tidy daemon) :
    ∃ after, daemon.reap = .ok after ∧ Tidy after ∧
      System.Steady daemon.system after.system ∧
      (daemon.waiting ≠ [] → ∃ service, daemon.waiting = service :: after.waiting ∧
        after.stopped = daemon.stopped ++ [service]) := by
  obtain ⟨freed, rest, reaped, steady, suffix, same, head⟩ := reapDone_ok tidy.winding
    fun reap member => tidy.clean.vacant (tidy.queued reap member)
  have kept := tidy.steady steady
  have left : ∀ reap ∈ rest, reap.service ∈ daemon.scheduled :=
    fun reap member => tidy.queued reap (suffix.subset member)
  have waits : daemon.waiting = (rest.filter (!·.shutdownEventDone)).map Reap.service := by
    rw [waiting, same]
  cases rest with
  | nil =>
      have nobody : daemon.waiting = [] := waits
      refine ⟨{ daemon with system := freed, reapq := [] }, ?_, ?_, steady,
        fun some_waiting => absurd nobody some_waiting⟩
      · rw [Daemon.reap, reaped]
      · refine ⟨steady.winding, ⟨kept.clean.scheduled, fun service => ?_⟩, nofun⟩
        have reported := tidy.clean.reported service
        rw [nobody] at reported
        exact reported
  | cons reap rest =>
      have fresh := head reap rfl
      have first : daemon.waiting =
          reap.service :: (rest.filter (!·.shutdownEventDone)).map Reap.service := by
        rw [waits, List.filter_cons, fresh, Bool.not_false, if_pos rfl, List.map_cons]
      refine ⟨{ daemon with
          system := freed
          reapq := ⟨reap.service, true⟩ :: rest
          stopped := daemon.stopped ++ [reap.service] }, ?_, ?_, steady, fun _ => ?_⟩
      · rw [Daemon.reap, reaped]
      · refine ⟨steady.winding, ⟨kept.clean.scheduled, fun service => ?_⟩, fun other member => ?_⟩
        · have reported := tidy.clean.reported service
          rw [first] at reported
          simp only [waiting, List.filter_cons, Bool.not_true, Bool.false_eq_true, if_false,
            List.count_append, List.count_cons, List.count_nil] at reported ⊢
          omega
        · rcases List.mem_cons.mp member with rfl | later
          · exact left reap List.mem_cons_self
          · exact left other (List.mem_cons_of_mem _ later)
      · exact ⟨reap.service, first, rfl⟩

/-! ## Steps -/

/-- Services go on closing, and connections only leave them. -/
structure Dwindles (before after : System) : Prop where
  closing : ∀ service, before.isClosing service = true → after.isClosing service = true
  members : ∀ service, before.isClosing service = true →
    after.members service ⊆ before.members service

theorem Dwindles.refl (system : System) : Dwindles system system :=
  ⟨fun _ closing => closing, fun _ _ => List.Subset.refl _⟩

theorem Dwindles.trans {before middle after : System} (first : Dwindles before middle)
    (second : Dwindles middle after) : Dwindles before after where
  closing := fun service closing => second.closing service (first.closing service closing)
  members := fun service closing =>
    List.Subset.trans (second.members service (first.closing service closing))
      (first.members service closing)

theorem dwindles_of_winds {before after : System} {last : Option Nat}
    (winds : System.Winds before after last) : Dwindles before after :=
  ⟨fun service closing => (winds.closing service).trans closing, winds.members⟩

/-- A service that starts to close is scheduled at once if it has no connections. -/
theorem Tidy.closeService {daemon after : Daemon} {service : Nat} (tidy : Tidy daemon)
    (closed : daemon.step (.system (.closeService service)) = .ok after) :
    Tidy after ∧ Dwindles daemon.system after.system := by
  rw [step] at closed
  obtain ⟨next, moved, rfl⟩ := FallibleRun.map_ok_iff.mp closed
  obtain ⟨winding, same, length_eq, now_closing, fresh⟩ := tidy.winding.closeService moved
  have members_eq : ∀ other, next.members other = daemon.system.members other := by
    intro other
    rw [System.members, System.members, same]
  have dwindles : Dwindles daemon.system next := by
    refine ⟨fun other closing => (now_closing other).mpr (.inl closing), fun other _ => ?_⟩
    rw [members_eq]
    exact List.Subset.refl _
  refine ⟨?_, (scheduleReap_system _ _).symm ▸ dwindles⟩
  simp only [length_eq]
  split
  · rename_i empty
    refine ⟨winding, ⟨fun other => ?_, fun other => ?_⟩, fun reap member => ?_⟩
    · have before := tidy.clean.scheduled other
      simp only [scheduleReap, List.count_append, List.count_singleton, beq_iff_eq, before,
        members_eq, now_closing]
      by_cases here : service = other
      · subst here
        simp [fresh empty.1, empty.1, (members_eq service) ▸ empty.2]
      · simp [here, Ne.symm here]
    · have reported := tidy.clean.reported other
      simp only [waiting, scheduleReap, List.filter_cons, Bool.not_false, if_true,
        List.map_cons, List.count_cons, List.count_append, List.count_nil] at reported ⊢
      omega
    · rcases List.mem_cons.mp member with rfl | old
      · exact List.mem_append_right _ (List.mem_singleton_self _)
      · exact List.mem_append_left _ (tidy.queued reap old)
  · rename_i not_empty
    refine ⟨winding, ⟨fun other => ?_, tidy.clean.reported⟩, tidy.queued⟩
    have before := tidy.clean.scheduled other
    simp only [scheduleReap, before, members_eq, now_closing]
    by_cases here : other = service
    · subst here
      rw [members_eq] at not_empty
      by_cases inside : other < daemon.system.services.length
      · have busy_yet : ¬(daemon.system.members other).length = 0 :=
          fun empty => not_empty ⟨inside, empty⟩
        simp [busy_yet]
      · simp [inside]
    · simp [here]

/-- No action lets a connection into a closing service or takes the last one out of it by a
transfer, and the poll routine is not called to report the end of a service when no descriptor is
registered. -/
def Secluded (daemon : Daemon) : DaemonAction → Prop
  | .system (.poll answer) =>
      (daemon.searching = false → daemon.waiting ≠ [] → daemon.system.anyRegistered = true) ∧
      (daemon.system.queuedEvent = none → daemon.searching = true ∨ daemon.reapq = [] →
        daemon.system.KeepsOut answer)
  | .system (.acceptFile service _ _) => daemon.system.isClosing service = false
  | .system _ => True
  | .transfer serial service => ∀ origin, serial ∈ daemon.system.members origin →
      (daemon.system.isClosing service = true → origin = service) ∧
      (daemon.system.isClosing origin = true →
        origin = service ∨ 2 ≤ (daemon.system.members origin).length)

/-- A turn of the poll loop that goes on searching. -/
theorem Tidy.advance {daemon after : Daemon} {answer : PollAnswer} (tidy : Tidy daemon)
    (keeps_out : daemon.system.queuedEvent = none → daemon.system.KeepsOut answer)
    (advanced : daemon.advance answer = .ok after) :
    Tidy after ∧ Dwindles daemon.system after.system := by
  rw [Daemon.advance] at advanced
  split at advanced
  · cases advanced
  · rename_i next polled
    obtain rfl := Except.ok.inj advanced
    have winds := tidy.winding.poll keeps_out polled
    rw [scheduleReap_system]
    exact ⟨tidy.winds winds _, dwindles_of_winds winds⟩

theorem Tidy.turn {daemon after : Daemon} {answer : PollAnswer} (tidy : Tidy daemon)
    (secluded : daemon.Secluded (.system (.poll answer)))
    (turned : daemon.turn answer = .ok after) :
    Tidy after ∧ Dwindles daemon.system after.system := by
  obtain ⟨-, keeps_out⟩ := secluded
  rw [Daemon.turn] at turned
  split at turned
  · rename_i searching
    exact tidy.advance (fun quiet => keeps_out quiet (.inl searching)) turned
  · split at turned
    · obtain rfl := Except.ok.inj turned
      exact ⟨tidy, .refl _⟩
    · split at turned
      · rename_i either
        refine tidy.advance (fun quiet => keeps_out quiet (.inr ?_)) turned
        rw [quiet, Option.isSome_none, Bool.false_or] at either
        exact List.isEmpty_iff.mp either
      · obtain ⟨reaped, reap_ok, tidy_after, steady, -⟩ := tidy.reap
        obtain rfl := Except.ok.inj (reap_ok.symm.trans turned)
        exact ⟨tidy_after, dwindles_of_winds steady.winds⟩

/-- A step that changes the system in a steady way. -/
theorem Tidy.steps {daemon after : Daemon} {result : Except Fault System} (tidy : Tidy daemon)
    (keeps : ∀ next, result = .ok next → System.Steady daemon.system next)
    (moved : (result.map fun next => { daemon with system := next }) = .ok after) :
    Tidy after ∧ Dwindles daemon.system after.system := by
  cases result with
  | error fault => cases moved
  | ok next =>
      obtain rfl := Except.ok.inj moved
      have steady := keeps next rfl
      exact ⟨tidy.steady steady, dwindles_of_winds steady.winds⟩

/-- Secluded steps keep the daemon tidy, and its closing services only lose connections. -/
theorem Tidy.step {daemon after : Daemon} {action : DaemonAction} (tidy : Tidy daemon)
    (secluded : daemon.Secluded action) (moved : daemon.step action = .ok after) :
    Tidy after ∧ Dwindles daemon.system after.system := by
  cases action with
  | transfer serial service =>
      obtain rfl := Except.ok.inj moved
      have winds := tidy.winding.moved (fun origin member => (secluded origin member).1)
        (fun origin member => (secluded origin member).2)
      exact ⟨tidy.winds winds daemon.searching, dwindles_of_winds winds⟩
  | system action =>
      cases action with
      | poll answer => exact tidy.turn secluded moved
      | closeService service => exact tidy.closeService moved
      | close serial =>
          refine tidy.steps (fun next closed => ?_) moved
          apply tidy.winding.onPeers _ closed
          intro before next closed _
          rw [← Except.ok.inj closed]
          exact Connection.closing_closeConnection before
      | queue serial message =>
          refine tidy.steps (fun next queued => ?_) moved
          apply tidy.winding.onPeers _ queued
          intro before next sent closing
          exact Nat.lt_of_lt_of_le closing
            ((Connection.queueSingle_sent sent).onward.rank closing)
      | broadcast service message =>
          refine tidy.steps (fun next queued => ?_) moved
          apply tidy.winding.onPeers _ queued
          intro before next sent closing
          exact Nat.lt_of_lt_of_le closing
            ((Connection.queueBroadcastTo_sent sent).onward.rank closing)
      | acceptFile service socket lines =>
          refine tidy.steps (fun next accepted => ?_) moved
          rw [System.step] at accepted
          obtain ⟨middle, added, rfl⟩ := FallibleRun.map_ok_iff.mp accepted
          have joined := tidy.winding.addPeer secluded added
          exact joined.trans (.of_peers joined.winding rfl rfl rfl)

/-- The daemon before its first connection, with no service closing. -/
structure Begun (daemon : Daemon) : Prop where
  peers : daemon.system.peers = []
  closing : ∀ service, daemon.system.isClosing service = false
  reapq : daemon.reapq = []
  scheduled : daemon.scheduled = []
  stopped : daemon.stopped = []

theorem Begun.tidy {daemon : Daemon} (begun : Begun daemon) : Tidy daemon := by
  have nobody : daemon.system.roll = [] := by
    rw [System.roll, begun.peers]
    rfl
  refine ⟨⟨?_, ?_, ?_⟩, ⟨fun service => ?_, fun service => ?_⟩, ?_⟩
  · rw [nobody]
    exact List.nodup_nil
  · intro entry listed
    rw [nobody] at listed
    cases listed
  · intro peer member
    rw [begun.peers] at member
    cases member
  · rw [begun.scheduled, begun.closing]
    rfl
  · rw [begun.stopped, begun.scheduled, waiting, begun.reapq]
    rfl
  · intro reap member
    rw [begun.reapq] at member
    cases member

/-- A turn of the poll loop. -/
def sampleTurn (reads writes : List Nat) (accepted : Option Accepted) : DaemonAction :=
  .system (System.sampleTurn reads writes accepted)

end Daemon

end Football
