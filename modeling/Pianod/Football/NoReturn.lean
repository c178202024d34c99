import Mathlib.Data.List.Forall2
import Mathlib.Data.List.Nodup
import Pianod.Football.Closing

/-!
# No connection comes back

In a settled system nothing is expected of a closing connection: its descriptor is not among those
still to be read in this round, and no queued event is its own.  Every orderly step keeps a system
settled, and in a settled system a connection that is closing stays closing, is not read from and
produces no event but the report of its closing.
-/

namespace Football

open Foundation

namespace System

open Connection

/-- Something is still expected of a connection: it is to be read in this round, or its line is
queued as an event. -/
def Expected (system : System) (peer : Peer) : Prop :=
  peer.connection.socket ∈ system.pendingReads ∨
    ∃ line, system.queuedEvent = some (peer.serial, line)

/-- Connections are told apart by serial number and descriptor, they are calm, and nothing is
expected of those that are closing. -/
structure Settled (system : System) : Prop where
  serials : (system.peers.map Peer.serial).Nodup
  sockets : (system.peers.map fun peer => peer.connection.socket).Nodup
  apart : ∀ peer ∈ system.peers, ∀ listener ∈ system.listeners,
    listener.socket ≠ peer.connection.socket
  bounded : ∀ peer ∈ system.peers, peer.serial < system.nextSerial
  reads : system.pendingReads.Nodup
  calm : ∀ peer ∈ system.peers, Calm peer.connection
  unexpected : ∀ peer ∈ system.peers, peer.connection.Closing → ¬system.Expected peer

/-- An event of a connection other than the report of its closing. -/
def Speaks (serial : Nat) (occurrence : Occurrence) : Prop :=
  ∃ type line, type ≠ .close ∧ occurrence = .event type serial line

/-- An occurrence that shows life in a connection: it speaks, or it is read from. -/
def Revives (serial : Nat) (occurrence : Occurrence) : Prop :=
  Speaks serial occurrence ∨ occurrence = .reading serial

/-- The connection with a serial number is gone or has at least a certain state, and no event of it
is queued. -/
structure Leaving (serial rank : Nat) (system : System) : Prop where
  past : serial < system.nextSerial
  state : ∀ peer ∈ system.peers, peer.serial = serial → rank ≤ peer.connection.state.rank
  unqueued : ∀ line, system.queuedEvent ≠ some (serial, line)

/-- Nothing in the log after a point is of a certain kind. -/
def Silent (kind : Occurrence → Prop) (before after : System) : Prop :=
  ∃ new, after.log = before.log ++ new ∧ ∀ occurrence ∈ new, ¬kind occurrence

theorem Silent.of_log_eq {kind : Occurrence → Prop} {before after : System}
    (same : after.log = before.log) : Silent kind before after :=
  ⟨[], same.trans (List.append_nil _).symm, fun _ new => nomatch new⟩

theorem Silent.refl (kind : Occurrence → Prop) (system : System) : Silent kind system system :=
  .of_log_eq rfl

theorem Silent.trans {kind : Occurrence → Prop} {before middle after : System}
    (first : Silent kind before middle) (second : Silent kind middle after) :
    Silent kind before after := by
  obtain ⟨front, front_eq, front_silent⟩ := first
  obtain ⟨back, back_eq, back_silent⟩ := second
  refine ⟨front ++ back, by rw [back_eq, front_eq, List.append_assoc], fun occurrence member => ?_⟩
  exact (List.mem_append.mp member).elim (front_silent occurrence) (back_silent occurrence)

theorem not_speaks {serial other : Nat} {type : EventType} {line : Option InputLine}
    (apart : type = .close ∨ other ≠ serial) : ¬Speaks serial (.event type other line) := by
  rintro ⟨kind, said, spoken, same⟩
  cases same
  exact apart.elim spoken fun different => different rfl

theorem not_revives {serial other : Nat} {type : EventType} {line : Option InputLine}
    (apart : type = .close ∨ other ≠ serial) : ¬Revives serial (.event type other line) := by
  rintro (speaks | same)
  · exact not_speaks apart speaks
  · cases same

theorem Silent.emit {kind : Occurrence → Prop} {before after : System}
    (silent : Silent kind before after) {type : EventType} {other : Nat} {line : Option InputLine}
    (harmless : ¬kind (.event type other line)) :
    Silent kind before (after.emit type other line) := by
  refine silent.trans ⟨[.event type other line], rfl, fun occurrence member => ?_⟩
  rw [List.mem_singleton.mp member]
  exact harmless

/-! ## Updating connections -/

/-- A connection that keeps its serial number and descriptor. -/
def Aligned (old new : Peer) : Prop :=
  new.serial = old.serial ∧ new.connection.socket = old.connection.socket

theorem exists_of_mem_right {R : Peer → Peer → Prop} {old new : List Peer}
    (related : List.Forall₂ R old new) {peer : Peer} (member : peer ∈ new) :
    ∃ before ∈ old, R before peer := by
  induction related with
  | nil => cases member
  | @cons before after olds news here later ih =>
      rcases List.mem_cons.mp member with rfl | rest
      · exact ⟨before, List.mem_cons_self, here⟩
      · obtain ⟨found, found_member, found_related⟩ := ih rest
        exact ⟨found, List.mem_cons_of_mem _ found_member, found_related⟩

theorem map_eq_of_aligned {α : Type*} {project : Peer → α} {old new : List Peer}
    (related : List.Forall₂ (fun before after => project after = project before) old new) :
    new.map project = old.map project := by
  induction related with
  | nil => rfl
  | cons here later ih => rw [List.map_cons, List.map_cons, here, ih]

/-- Connections may change as long as they stay calm and nothing is expected of those that close. -/
theorem Settled.update {system : System} (settled : Settled system) {peers : List Peer}
    (aligned : List.Forall₂ Aligned system.peers peers)
    (calm : ∀ peer ∈ peers, Calm peer.connection)
    (unexpected : ∀ peer ∈ peers, peer.connection.Closing → ¬system.Expected peer) :
    Settled { system with peers := peers } where
  serials := by
    have same := map_eq_of_aligned (aligned.imp fun _ _ pair => pair.1)
    rw [same]
    exact settled.serials
  sockets := by
    have same := @map_eq_of_aligned _ (fun peer => peer.connection.socket) _ _
      (aligned.imp fun _ _ pair => pair.2)
    rw [same]
    exact settled.sockets
  apart := by
    intro peer member listener listens
    obtain ⟨old, old_member, -, socket⟩ := exists_of_mem_right aligned member
    rw [socket]
    exact settled.apart old old_member listener listens
  bounded := by
    intro peer member
    obtain ⟨old, old_member, serial, -⟩ := exists_of_mem_right aligned member
    rw [serial]
    exact settled.bounded old old_member
  reads := settled.reads
  calm := calm
  unexpected := unexpected

/-- Replacing one connection. -/
theorem Settled.setConnection {system : System} (settled : Settled system) {target : Peer}
    (member : target ∈ system.peers) {connection : Connection}
    (socket : connection.socket = target.connection.socket) (calm : Calm connection)
    (unexpected : connection.Closing → ¬system.Expected target) :
    Settled (system.setConnection target.serial connection) := by
  have only : ∀ peer ∈ system.peers, peer.serial = target.serial → peer = target := by
    intro peer other same
    exact List.inj_on_of_nodup_map settled.serials other member same
  apply settled.update
  · rw [List.forall₂_map_right_iff, List.forall₂_same]
    intro peer other
    split
    · rename_i same
      obtain rfl := only peer other same
      exact ⟨rfl, socket⟩
    · exact ⟨rfl, rfl⟩
  · intro peer placed
    obtain ⟨old, old_member, rfl⟩ := List.mem_map.mp placed
    split
    · exact calm
    · exact settled.calm old old_member
  · intro peer placed
    obtain ⟨old, old_member, rfl⟩ := List.mem_map.mp placed
    split
    · rename_i same
      obtain rfl := only old old_member same
      intro closing expected
      refine unexpected closing ?_
      rwa [Expected, ← socket]
    · exact settled.unexpected old old_member

private theorem setConnection_here {system : System} {serial : Nat} {connection : Connection}
    {peer : Peer} (member : peer ∈ (system.setConnection serial connection).peers)
    (here : peer.serial = serial) : peer.connection = connection := by
  obtain ⟨old, -, rfl⟩ := List.mem_map.mp member
  split at here
  · rw [if_pos ‹_›]
  · contradiction

/-- Removing connections. -/
theorem Settled.destroyConnection {system : System} (settled : Settled system)
    (serial socket : Nat) : Settled (system.destroyConnection serial socket) where
  serials := settled.serials.sublist (List.filter_sublist.map _)
  sockets := settled.sockets.sublist (List.filter_sublist.map _)
  apart := fun peer member => settled.apart peer (List.mem_of_mem_filter member)
  bounded := fun peer member => settled.bounded peer (List.mem_of_mem_filter member)
  reads := settled.reads.filter _
  calm := fun peer member => settled.calm peer (List.mem_of_mem_filter member)
  unexpected := by
    intro peer member closing expected
    refine settled.unexpected peer (List.mem_of_mem_filter member) closing ?_
    exact expected.imp_left List.mem_of_mem_filter

/-- Moving a connection to another service reorders the connections. -/
theorem transfer_mem {system : System} {serial service : Nat} {peer : Peer}
    (member : peer ∈ (system.transfer serial service).peers) :
    ∃ old ∈ system.peers, peer.serial = old.serial ∧ peer.connection = old.connection := by
  rcases List.mem_append.mp member with kept | moved
  · exact ⟨peer, List.mem_of_mem_filter kept, rfl, rfl⟩
  · obtain ⟨old, old_member, rfl⟩ := List.mem_map.mp moved
    exact ⟨old, List.mem_of_mem_filter old_member, rfl, rfl⟩

theorem Settled.transfer {system : System} (settled : Settled system) (serial service : Nat) :
    Settled (system.transfer serial service) := by
  have perm : ∀ {α : Type} (project : Peer → α),
      (∀ peer : Peer, project { peer with service := service } = project peer) →
      ((system.transfer serial service).peers.map project).Perm (system.peers.map project) := by
    intro α project same
    rw [System.transfer]
    simp only [List.map_append, List.map_map, Function.comp_def, same]
    rw [← List.map_append]
    apply List.Perm.map
    refine List.perm_append_comm.trans ?_
    have halves := List.filter_append_perm (fun peer : Peer => decide (peer.serial = serial))
      system.peers
    simpa using halves
  constructor
  · exact (perm Peer.serial fun _ => rfl).nodup_iff.mpr settled.serials
  · exact (perm (fun peer => peer.connection.socket) fun _ => rfl).nodup_iff.mpr settled.sockets
  · intro peer member
    obtain ⟨old, old_member, -, same⟩ := transfer_mem member
    rw [same]
    exact settled.apart old old_member
  · intro peer member
    obtain ⟨old, old_member, same, -⟩ := transfer_mem member
    rw [same]
    exact settled.bounded old old_member
  · exact settled.reads
  · intro peer member
    obtain ⟨old, old_member, -, same⟩ := transfer_mem member
    rw [same]
    exact settled.calm old old_member
  · intro peer member closing expected
    obtain ⟨old, old_member, serial_eq, same⟩ := transfer_mem member
    refine settled.unexpected old old_member (same ▸ closing) ?_
    rw [Expected, same, serial_eq] at expected
    exact expected

/-- Events and the log do not matter to whether a system is settled. -/
theorem Settled.emit {system : System} (settled : Settled system) (type : EventType)
    (serial : Nat) (line : Option InputLine) : Settled (system.emit type serial line) :=
  ⟨settled.serials, settled.sockets, settled.apart, settled.bounded, settled.reads, settled.calm,
    settled.unexpected⟩

/-- Keeping a line of a connection that is not closing. -/
theorem Settled.queueEvent {system : System} (settled : Settled system) {serial : Nat}
    {line : InputLine}
    (open_yet : ∀ peer ∈ system.peers, peer.serial = serial → ¬peer.connection.Closing) :
    Settled (system.queueEvent serial line) := by
  refine ⟨settled.serials, settled.sockets, settled.apart, settled.bounded, settled.reads,
    settled.calm, ?_⟩
  rintro peer member closing (pending | ⟨other, queued⟩)
  · exact settled.unexpected peer member closing (.inl pending)
  · exact open_yet peer member (Prod.mk.inj (Option.some.inj queued)).1.symm closing

/-- A new connection. -/
theorem Settled.addPeer {system after : System} (settled : Settled system) {service : Nat}
    {connection : Connection} (calm : Calm connection) (fresh : ¬connection.Closing)
    (added : system.addPeer service connection = .ok after) : Settled after := by
  rw [System.addPeer] at added
  split at added
  · cases added
  · rename_i unregistered
    obtain rfl := Except.ok.inj added
    have no_listener : ∀ listener ∈ system.listeners, listener.socket ≠ connection.socket := by
      intro listener listens same
      apply unregistered
      rw [registered, Bool.or_eq_true, List.any_eq_true]
      exact .inl ⟨listener, listens, by simpa using same⟩
    have no_peer : ∀ peer ∈ system.peers, peer.connection.socket ≠ connection.socket := by
      intro peer member same
      apply unregistered
      rw [registered, Bool.or_eq_true, List.any_eq_true, List.any_eq_true]
      exact .inr ⟨peer, member, by simpa using same⟩
    constructor
    · rw [List.map_append, List.map_singleton, List.nodup_append]
      refine ⟨settled.serials, List.nodup_singleton _, ?_⟩
      intro serial member other single
      obtain ⟨peer, peer_member, rfl⟩ := List.mem_map.mp member
      rw [List.mem_singleton.mp single]
      exact Nat.ne_of_lt (settled.bounded peer peer_member)
    · rw [List.map_append, List.map_singleton, List.nodup_append]
      refine ⟨settled.sockets, List.nodup_singleton _, ?_⟩
      intro socket member other single
      obtain ⟨peer, peer_member, rfl⟩ := List.mem_map.mp member
      rw [List.mem_singleton.mp single]
      exact no_peer peer peer_member
    · intro peer member
      rcases List.mem_append.mp member with old | new
      · exact settled.apart peer old
      · rw [List.mem_singleton.mp new]
        exact no_listener
    · intro peer member
      rcases List.mem_append.mp member with old | new
      · exact Nat.lt_succ_of_lt (settled.bounded peer old)
      · rw [List.mem_singleton.mp new]
        exact Nat.lt_succ_self _
    · exact settled.reads
    · intro peer member
      rcases List.mem_append.mp member with old | new
      · exact settled.calm peer old
      · rw [List.mem_singleton.mp new]
        exact calm
    · intro peer member closing expected
      rcases List.mem_append.mp member with old | new
      · exact settled.unexpected peer old closing expected
      · rw [List.mem_singleton.mp new] at closing
        exact fresh closing

/-! ## Steps -/

/-- A step keeps the system settled, no connection that is closing after it speaks in it, and a
connection that is leaving goes on leaving in silence. -/
structure Proceeds (before after : System) : Prop where
  settled : Settled after
  unspoken : ∀ peer ∈ after.peers, peer.connection.Closing →
    Silent (Speaks peer.serial) before after
  leaving : ∀ serial rank, SocketState.opened.rank < rank → Leaving serial rank before →
    Leaving serial rank after ∧ Silent (Revives serial) before after

/-- Reporting the closing of a connection adds nothing that matters. -/
theorem Proceeds.report {before after : System} (proceeds : Proceeds before after) (serial : Nat) :
    Proceeds before (after.emit .close serial none) where
  settled := ⟨proceeds.settled.serials, proceeds.settled.sockets, proceeds.settled.apart,
    proceeds.settled.bounded, proceeds.settled.reads, proceeds.settled.calm,
    proceeds.settled.unexpected⟩
  unspoken := fun peer member closing =>
    (proceeds.unspoken peer member closing).emit (not_speaks (.inl rfl))
  leaving := by
    intro other rank late leaving
    obtain ⟨going, silent⟩ := proceeds.leaving other rank late leaving
    exact ⟨⟨going.past, going.state, going.unqueued⟩, silent.emit (not_revives (.inl rfl))⟩

/-- A connection that is not closing is not the one that is leaving. -/
theorem Leaving.ne {system : System} {serial rank : Nat} (leaving : Leaving serial rank system)
    (late : SocketState.opened.rank < rank) {peer : Peer} (member : peer ∈ system.peers)
    (open_yet : ¬peer.connection.Closing) : peer.serial ≠ serial := by
  intro same
  exact open_yet (Nat.lt_of_lt_of_le late (leaving.state peer member same))

theorem Leaving.setConnection {system : System} {serial rank other : Nat}
    (leaving : Leaving serial rank system) (connection : Connection)
    (kept : other = serial → rank ≤ connection.state.rank) :
    Leaving serial rank (system.setConnection other connection) := by
  refine ⟨leaving.past, fun peer placed => ?_, leaving.unqueued⟩
  obtain ⟨old, member, rfl⟩ := List.mem_map.mp placed
  split
  · rename_i same
    intro this_one
    exact kept (same.symm.trans this_one)
  · exact leaving.state old member

theorem Leaving.emit {system : System} {serial rank : Nat} (leaving : Leaving serial rank system)
    (type : EventType) (other : Nat) (line : Option InputLine) :
    Leaving serial rank (system.emit type other line) :=
  ⟨leaving.past, leaving.state, leaving.unqueued⟩

theorem Leaving.queueEvent {system : System} {serial rank other : Nat}
    (leaving : Leaving serial rank system) (apart : other ≠ serial) (line : InputLine) :
    Leaving serial rank (system.queueEvent other line) :=
  ⟨leaving.past, leaving.state, fun _ queued =>
    apart (Prod.mk.inj (Option.some.inj queued)).1⟩

theorem Leaving.destroyConnection {system : System} {serial rank : Nat}
    (leaving : Leaving serial rank system) (other socket : Nat) :
    Leaving serial rank (system.destroyConnection other socket) :=
  ⟨leaving.past, fun peer member => leaving.state peer (List.mem_of_mem_filter member),
    leaving.unqueued⟩

theorem Leaving.transfer {system : System} {serial rank : Nat}
    (leaving : Leaving serial rank system) (other service : Nat) :
    Leaving serial rank (system.transfer other service) := by
  refine ⟨leaving.past, fun peer member this_one => ?_, leaving.unqueued⟩
  obtain ⟨old, old_member, serial_eq, same⟩ := transfer_mem member
  rw [same]
  exact leaving.state old old_member (serial_eq.symm.trans this_one)

theorem Leaving.addPeer {system after : System} {serial rank service : Nat}
    {connection : Connection} (leaving : Leaving serial rank system)
    (added : system.addPeer service connection = .ok after) : Leaving serial rank after := by
  rw [System.addPeer] at added
  split at added
  · cases added
  · obtain rfl := Except.ok.inj added
    refine ⟨Nat.lt_succ_of_lt leaving.past, fun peer member this_one => ?_, leaving.unqueued⟩
    rcases List.mem_append.mp member with old | new
    · exact leaving.state peer old this_one
    · rw [List.mem_singleton.mp new] at this_one
      exact absurd this_one (Nat.ne_of_gt leaving.past)

private theorem addPeer_log {system after : System} {service : Nat} {connection : Connection}
    (added : system.addPeer service connection = .ok after) : after.log = system.log := by
  rw [System.addPeer] at added
  split at added
  · cases added
  · obtain rfl := Except.ok.inj added
    rfl

private theorem addPeer_fresh {system after : System} {service : Nat} {connection : Connection}
    {peer : Peer} (settled : Settled system) (added : system.addPeer service connection = .ok after)
    (member : peer ∈ after.peers) (fresh : peer.serial = system.nextSerial) :
    peer.connection = connection := by
  rw [System.addPeer] at added
  split at added
  · cases added
  · obtain rfl := Except.ok.inj added
    rcases List.mem_append.mp member with old | new
    · exact absurd fresh (Nat.ne_of_lt (settled.bounded peer old))
    · rw [List.mem_singleton.mp new]

/-- A connection is added, and its opening reported or not. -/
theorem addPeer_proceeds {system after : System} {service : Nat} {connection : Connection}
    (settled : Settled system) (calm : Calm connection) (open_yet : ¬connection.Closing)
    (added : system.addPeer service connection = .ok after) :
    Proceeds system after ∧ Proceeds system (after.emit .connect system.nextSerial none) := by
  have next : Settled after := settled.addPeer calm open_yet added
  have same := addPeer_log added
  constructor
  · exact ⟨next, fun _ _ _ => .of_log_eq same, fun serial rank _ leaving =>
      ⟨leaving.addPeer added, .of_log_eq same⟩⟩
  · refine ⟨next.emit _ _ _, fun peer member closing => ?_, fun serial rank _ leaving => ?_⟩
    · refine Silent.emit (.of_log_eq same) (not_speaks (.inr fun fresh => ?_))
      rw [addPeer_fresh settled added member fresh.symm] at closing
      exact open_yet closing
    · refine ⟨(leaving.addPeer added).emit _ _ _, Silent.emit (.of_log_eq same) ?_⟩
      exact not_revives (.inr (Nat.ne_of_gt leaving.past))

/-- A connection is accepted, or nothing happens. -/
theorem newConnect_proceeds {system after : System} {answer : PollAnswer} {listener : Listener}
    (settled : Settled system) (connected : system.newConnect answer listener = .ok after) :
    Proceeds system after := by
  rw [newConnect] at connected
  split at connected
  · obtain rfl := Except.ok.inj connected
    exact ⟨settled, fun _ _ _ => .refl _ _, fun serial rank _ leaving => ⟨leaving, .refl _ _⟩⟩
  · rename_i accepted _
    simp only at connected
    generalize state_eq : (if listener.encrypted = true then SocketState.tlsHandshake
      else if (listener.http || _ || _) = true then SocketState.greeting
      else SocketState.opened) = state at connected
    have early : state.rank ≤ SocketState.opened.rank := by
      rw [← state_eq]
      split
      · decide
      · split <;> decide
    obtain ⟨middle, added, rfl⟩ := FallibleRun.map_ok_iff.mp connected
    obtain ⟨unreported, reported⟩ := addPeer_proceeds settled
      (calm_of_not_wasClosing rfl early) (Nat.not_lt.mpr early) added
    split
    · exact reported
    · exact unreported

private theorem noteBuffering_socket (connection : Connection) (buffered : Bool) :
    (noteBuffering connection buffered).socket = connection.socket := by
  rw [noteBuffering]
  split <;> rfl

theorem noteBuffering_state (connection : Connection) (buffered : Bool) :
    (noteBuffering connection buffered).state = connection.state := by
  rw [noteBuffering]
  split <;> rfl

private theorem noteBuffering_calm {connection : Connection} (calm : Calm connection)
    (buffered : Bool) : Calm (noteBuffering connection buffered) := by
  rw [noteBuffering]
  split
  · refine ⟨fun closing => ⟨(calm.quiet closing).1, ?_⟩, calm.final⟩
    have past : ¬connection.state.rank ≤ SocketState.opened.rank := Nat.not_le.mpr closing
    simp [past]
  · exact calm

/-- Reading, including the handshake before it. -/
theorem readInput_orderly {services : List Service} {answer : PollAnswer} {service : Nat}
    {options : ServiceOptions} {connection : Connection} {outcome : ReadOutcome}
    (calm : Calm connection) (open_yet : ¬connection.Closing)
    (through : GreetsThrough services answer.site service options connection)
    (read : readInput services answer service options connection = .ok outcome) :
    outcome.Orderly connection := by
  rw [readInput] at read
  split at read
  · split at read
    · cases read
      exact ⟨rfl, calm, Bool.noConfusion⟩
    · cases read
      trivial
    · have never : connection.wasClosing = false := by
        cases was : connection.wasClosing with
        | false => rfl
        | true => exact absurd (calm.final was) open_yet
      have early : SocketState.greeting.rank ≤ SocketState.opened.rank := by decide
      have orderly := readSession_orderly
        (@calm_of_not_wasClosing { connection with state := .greeting } never early)
        (Nat.not_lt.mpr early) (fun gathering => by cases gathering) read
      cases outcome with
      | goesOn final event moved => exact orderly
      | fallsBack final line => exact orderly
      | destroyed => trivial
  · exact readSession_orderly calm open_yet through read

/-- The options under which a connection is read. -/
def optionsOf (system : System) (service : Nat) : ServiceOptions :=
  ((system.services[service]?).map Service.options).getD ⟨ascii "HELO", none, none, .off⟩

section

variable {system : System} {peer : Peer} {connection : Connection} {buffered : Bool}

/-- The attempt to read from a connection is in the log. -/
private def noteReading (system : System) (peer : Peer) : System :=
  { system with log := system.log ++ [Occurrence.reading peer.serial] }

/-- The connection is put back. -/
private def putBack (system : System) (peer : Peer) (connection : Connection) (buffered : Bool) :
    System :=
  (noteReading system peer).setConnection peer.serial (noteBuffering connection buffered)

private theorem noteReading_settled (settled : Settled system) (peer : Peer) :
    Settled (noteReading system peer) :=
  ⟨settled.serials, settled.sockets, settled.apart, settled.bounded, settled.reads, settled.calm,
    settled.unexpected⟩

private theorem noteReading_unspoken (system : System) (peer : Peer) (serial : Nat) :
    Silent (Speaks serial) system (noteReading system peer) := by
  refine ⟨[.reading peer.serial], rfl, fun occurrence new => ?_⟩
  rw [List.mem_singleton.mp new]
  rintro ⟨type, line, -, spoken⟩
  cases spoken

private theorem noteReading_leaving (member : peer ∈ system.peers)
    (open_yet : ¬peer.connection.Closing) {serial rank : Nat}
    (late : SocketState.opened.rank < rank) (leaving : Leaving serial rank system) :
    Leaving serial rank (noteReading system peer) ∧
      Silent (Revives serial) system (noteReading system peer) ∧ peer.serial ≠ serial := by
  have other := leaving.ne late member open_yet
  refine ⟨⟨leaving.past, leaving.state, leaving.unqueued⟩,
    ⟨[.reading peer.serial], rfl, fun occurrence new => ?_⟩, other⟩
  rw [List.mem_singleton.mp new]
  rintro (⟨type, line, -, spoken⟩ | same)
  · cases spoken
  · exact other (Occurrence.reading.inj same)

private theorem putBack_settled (settled : Settled system) (member : peer ∈ system.peers)
    (none_expected : ¬system.Expected peer) (socket : connection.socket = peer.connection.socket)
    (calm : Calm connection) (buffered : Bool) :
    Settled (putBack system peer connection buffered) :=
  (noteReading_settled settled peer).setConnection member ((noteBuffering_socket _ _).trans socket)
    (noteBuffering_calm calm _) fun _ => none_expected

private theorem putBack_open {other : Peer}
    (found : other ∈ (putBack system peer connection buffered).peers)
    (same : other.serial = peer.serial) (still : ¬connection.Closing) :
    ¬other.connection.Closing := by
  rw [setConnection_here found same, Closing, noteBuffering_state]
  exact still

private theorem putBack_leaving (member : peer ∈ system.peers)
    (open_yet : ¬peer.connection.Closing) (connection : Connection) (buffered : Bool)
    {serial rank : Nat} (late : SocketState.opened.rank < rank)
    (leaving : Leaving serial rank system) :
    Leaving serial rank (putBack system peer connection buffered) ∧
      Silent (Revives serial) system (putBack system peer connection buffered) ∧
        peer.serial ≠ serial := by
  obtain ⟨going, silent, other⟩ := noteReading_leaving member open_yet late leaving
  exact ⟨going.setConnection _ fun same => absurd same other, silent, other⟩

/-- A connection that does without a greeting has its first line queued. -/
private theorem fallsBack_proceeds (member : peer ∈ system.peers)
    (open_yet : ¬peer.connection.Closing)
    (placed : Settled (putBack system peer connection buffered)) (still : ¬connection.Closing)
    (line : InputLine) :
    Proceeds system (((putBack system peer connection buffered).queueEvent peer.serial line).emit
      .connect peer.serial none) where
  settled := (placed.queueEvent fun _ found same => putBack_open found same still).emit _ _ _
  unspoken := fun other found closing => (noteReading_unspoken system peer other.serial).emit
    (not_speaks (.inr fun same => putBack_open found same.symm still closing))
  leaving := by
    intro serial rank late leaving
    obtain ⟨going, silent, other⟩ :=
      putBack_leaving member open_yet connection buffered late leaving
    exact ⟨(going.queueEvent other line).emit _ _ _, silent.emit (not_revives (.inr other))⟩

/-- The connection that was put back may go to another service. -/
private theorem moveTo_putBack (member : peer ∈ system.peers)
    (open_yet : ¬peer.connection.Closing)
    (placed : Settled (putBack system peer connection buffered)) (moved : Option Nat) :
    Proceeds system ((putBack system peer connection buffered).moveTo peer.serial moved) := by
  have going {serial rank : Nat} := @putBack_leaving system peer member open_yet connection buffered
    serial rank
  cases moved with
  | none =>
      exact ⟨placed, fun other _ _ => noteReading_unspoken system peer other.serial,
        fun serial rank late leaving => ⟨(going late leaving).1, (going late leaving).2.1⟩⟩
  | some service =>
      exact ⟨placed.transfer _ _, fun other _ _ => noteReading_unspoken system peer other.serial,
        fun serial rank late leaving =>
          ⟨(going late leaving).1.transfer _ _, (going late leaving).2.1⟩⟩

private theorem moveTo_open {other : Peer} {moved : Option Nat}
    (found : other ∈ ((putBack system peer connection buffered).moveTo peer.serial moved).peers)
    (same : other.serial = peer.serial) (still : ¬connection.Closing) :
    ¬other.connection.Closing := by
  cases moved with
  | none => exact putBack_open found same still
  | some service =>
      obtain ⟨old, old_found, serial, kept⟩ := transfer_mem found
      rw [kept]
      exact putBack_open old_found (serial.symm.trans same) still

/-- A connection that goes on, possibly with an event, which it has while it is not closing. -/
private theorem goesOn_proceeds (member : peer ∈ system.peers)
    (open_yet : ¬peer.connection.Closing)
    (placed : Settled (putBack system peer connection buffered)) (moved : Option Nat)
    (event : Option (EventType × Option InputLine))
    (still : event.isSome = true → ¬connection.Closing) :
    Proceeds system
      (((putBack system peer connection buffered).moveTo peer.serial moved).emitAny peer.serial
        event) := by
  have arrived := moveTo_putBack member open_yet placed moved
  cases event with
  | none => exact arrived
  | some event =>
      refine ⟨arrived.settled.emit _ _ _, fun other found closing => ?_,
        fun serial rank late leaving => ?_⟩
      · exact (arrived.unspoken other found closing).emit
          (not_speaks (.inr fun same => moveTo_open found same.symm (still rfl) closing))
      · obtain ⟨going, silent⟩ := arrived.leaving serial rank late leaving
        exact ⟨going.emit _ _ _,
          silent.emit (not_revives (.inr (leaving.ne late member open_yet)))⟩

end

/-- Reading on a connection that is not closing and of which nothing more is expected. -/
theorem attendRead_proceeds {system after : System} {answer : PollAnswer} {peer : Peer}
    (settled : Settled system) (member : peer ∈ system.peers)
    (open_yet : ¬peer.connection.Closing) (taken : peer.connection.socket ∉ system.pendingReads)
    (quiet : system.queuedEvent = none)
    (through : GreetsThrough system.services answer.site peer.service
      (system.optionsOf peer.service) peer.connection)
    (attended : system.attendRead answer peer = .ok after) : Proceeds system after := by
  have none_expected : ¬system.Expected peer := by
    rintro (pending | ⟨line, queued⟩)
    · exact taken pending
    · rw [quiet] at queued
      cases queued
  have orderly {outcome : ReadOutcome} := @readInput_orderly _ _ _ _ _ outcome
    (settled.calm peer member) open_yet through
  rw [attendRead] at attended
  simp only at attended
  split at attended
  · cases attended
  · cases attended
    exact ⟨(noteReading_settled settled peer).destroyConnection _ _,
      fun other _ _ => noteReading_unspoken system peer other.serial,
      fun serial rank late leaving =>
        have started := noteReading_leaving member open_yet late leaving
        ⟨started.1.destroyConnection _ _, started.2.1⟩⟩
  · rename_i connection line read
    cases attended
    obtain ⟨socket, calm, still⟩ := orderly read
    exact fallsBack_proceeds member open_yet
      (putBack_settled settled member none_expected socket calm _) still line
  · rename_i connection event moved read
    cases attended
    obtain ⟨socket, calm, still⟩ := orderly read
    exact goesOn_proceeds member open_yet
      (putBack_settled settled member none_expected socket calm _) moved event still

/-- Attending to the output of a connection, when nothing is expected of any. -/
theorem processWrite_proceeds {system after : System} {socket : Nat} (settled : Settled system)
    (idle : system.pendingReads = []) (quiet : system.queuedEvent = none)
    (processed : system.processWrite socket = .ok after) : Proceeds system after := by
  have none_expected : ∀ peer, ¬system.Expected peer := by
    rintro peer (pending | ⟨line, queued⟩)
    · rw [idle] at pending
      cases pending
    · rw [quiet] at queued
      cases queued
  rw [processWrite] at processed
  split at processed
  · cases processed
  · rename_i peer found
    have member : peer ∈ system.peers := List.mem_of_find?_eq_some found
    have calm := settled.calm peer member
    -- Whatever becomes of the connection, it is put back calm and no earlier than it was.
    have put_back : ∀ connection : Connection, connection.socket = peer.connection.socket →
        Calm connection →
        (peer.connection.Closing → peer.connection.state.rank ≤ connection.state.rank) →
        Proceeds system (system.setConnection peer.serial connection) := by
      intro connection same_socket calm_after onward
      refine ⟨settled.setConnection member same_socket calm_after fun _ => none_expected peer,
        fun _ _ _ => .of_log_eq rfl, fun serial rank late leaving => ?_⟩
      refine ⟨leaving.setConnection connection fun same => ?_,
        .of_log_eq rfl⟩
      have at_least := leaving.state peer member same
      exact at_least.trans (onward (Nat.lt_of_lt_of_le late at_least))
    split at processed
    · cases processed
    · rename_i connection sent
      cases processed
      have onward : Onward peer.connection connection := by
        rw [sendOutput] at sent
        split at sent
        · simp only [Bool.not_true, Bool.false_eq_true, if_false] at sent
          split at sent
          · cases sent
          · split at sent
            · cases sent
            · cases sent
              exact .inl ⟨rfl, rfl, rfl, rfl, rfl⟩
        · obtain ⟨middle, flushed, sent⟩ := FallibleRun.bind_ok_iff.mp sent
          cases sent
          exact (flushOutput_sent flushed).onward
      exact put_back connection onward.socket (onward.calm calm) onward.rank
    · rename_i connection sent
      cases processed
      have flushing : peer.connection.state = .flushing ∧
          connection = { peer.connection with state := .closing } := by
        rw [sendOutput] at sent
        split at sent
        · simp only [Bool.not_true, Bool.false_eq_true, if_false] at sent
          split at sent
          · rename_i state
            cases sent
            exact ⟨state, rfl⟩
          · split at sent <;> cases sent
        · cases flushed : peer.connection.flushOutput <;> rw [flushed] at sent <;> cases sent
      obtain ⟨state, rfl⟩ := flushing
      have closing : peer.connection.Closing := by
        rw [Closing, state]
        decide
      have later : SocketState.flushing.rank ≤ SocketState.closing.rank := by decide
      have past : SocketState.opened.rank < SocketState.closing.rank := by decide
      have proceeds := put_back { peer.connection with state := .closing } rfl
        ⟨fun _ => calm.quiet closing, fun _ => past⟩ (fun _ => by rw [state]; exact later)
      exact proceeds.report peer.serial
    · cases processed
      exact ⟨settled.destroyConnection _ _, fun _ _ _ => .of_log_eq rfl,
        fun serial rank late leaving => ⟨leaving.destroyConnection _ _, .of_log_eq rfl⟩⟩

/-- A closing connection is not selected for reading. -/
theorem selectSockets_proceeds {system : System} (settled : Settled system) (answer : PollAnswer)
    (quiet : system.queuedEvent = none) : Proceeds system (system.selectSockets answer) := by
  refine ⟨⟨settled.serials, settled.sockets, settled.apart, settled.bounded,
    List.nodup_range.filter _, settled.calm, ?_⟩, fun _ _ _ => .of_log_eq rfl,
      fun serial rank late leaving =>
        ⟨⟨leaving.past, leaving.state, leaving.unqueued⟩, .of_log_eq rfl⟩⟩
  rintro peer member closing (pending | ⟨line, queued⟩)
  · have selected := (List.mem_filter.mp pending).2
    rw [Bool.and_eq_true, readSelected, Bool.or_eq_true, List.any_eq_true,
      List.any_eq_true] at selected
    obtain ⟨⟨listener, listens, same⟩ | ⟨other, other_member, same⟩, -⟩ := selected
    · simp only [Bool.and_eq_true, beq_iff_eq] at same
      exact settled.apart peer member listener listens same.1
    · simp only [Bool.and_eq_true, beq_iff_eq, Bool.or_eq_true] at same
      obtain rfl := List.inj_on_of_nodup_map settled.sockets other_member member same.1
      have deaf := (settled.calm _ member).quiet closing
      rw [deaf.1, deaf.2] at same
      exact same.2.elim Bool.false_ne_true Bool.false_ne_true
  · rw [show (system.selectSockets answer).queuedEvent = system.queuedEvent from rfl,
      quiet] at queued
    cases queued

/-- Connections that an operation is applied to, side by side with what becomes of them. -/
theorem forPeers_forall₂ {condition : Peer → Bool}
    {operation : Connection → Except Fault Connection} {peers after : List Peer}
    (applied : forPeers condition operation peers = .ok after) :
    List.Forall₂ (fun old new => new.serial = old.serial ∧
      (if condition old then operation old.connection = .ok new.connection
        else new.connection = old.connection)) peers after := by
  induction peers generalizing after with
  | nil =>
      obtain rfl := Except.ok.inj applied
      exact .nil
  | cons peer peers ih =>
      rw [forPeers] at applied
      split at applied
      · cases applied
      · rename_i connection first
        obtain ⟨rest, later, rfl⟩ := FallibleRun.map_ok_iff.mp applied
        refine .cons ⟨rfl, ?_⟩ (ih later)
        split at first
        · rw [if_pos ‹_›]
          exact first
        · rw [if_neg ‹_›]
          exact (Except.ok.inj first).symm

/-- Operations that only move connections on keep the system settled, if they close none of which
something is expected. -/
theorem onPeers_proceeds {system after : System} {condition : Peer → Bool}
    {operation : Connection → Except Fault Connection} (settled : Settled system)
    (moves : ∀ peer ∈ system.peers, condition peer = true → ∀ connection,
      operation peer.connection = .ok connection →
      Onward peer.connection connection ∧ (connection.Closing → ¬system.Expected peer))
    (applied : system.onPeers condition operation = .ok after) : Proceeds system after := by
  rw [onPeers] at applied
  obtain ⟨peers, done, rfl⟩ := FallibleRun.map_ok_iff.mp applied
  have pairs := forPeers_forall₂ done
  have related : List.Forall₂ (fun old new => new.serial = old.serial ∧
      Onward old.connection new.connection ∧
      (new.connection.Closing → ¬system.Expected old)) system.peers peers := by
    have listed := (List.forall₂_and_left _ _).mpr ⟨fun peer member => member, pairs⟩
    refine List.Forall₂.imp ?_ listed
    rintro old new ⟨member, serial, change⟩
    refine ⟨serial, ?_⟩
    split at change
    · exact moves old member ‹_› new.connection change
    · rw [change]
      exact ⟨.refl _, settled.unexpected old member⟩
  constructor
  · apply settled.update
    · exact List.Forall₂.imp (fun old new pair => ⟨pair.1, pair.2.1.socket⟩) related
    · intro peer member
      have listed := (List.forall₂_and_left _ _).mpr ⟨fun peer member => member, related⟩
      obtain ⟨old, -, old_member, -, onward, -⟩ := exists_of_mem_right listed member
      exact onward.calm (settled.calm old old_member)
    · intro peer member closing expected
      obtain ⟨old, -, serial, onward, unexpected⟩ := exists_of_mem_right related member
      refine unexpected closing ?_
      rwa [Expected, ← serial, ← onward.socket]
  · exact fun _ _ _ => .of_log_eq rfl
  · intro serial rank late leaving
    refine ⟨⟨leaving.past, fun peer member this_one => ?_, leaving.unqueued⟩, .of_log_eq rfl⟩
    obtain ⟨old, old_member, same, onward, -⟩ := exists_of_mem_right related member
    have at_least := leaving.state old old_member (same.symm.trans this_one)
    exact at_least.trans (onward.rank (Nat.lt_of_lt_of_le late at_least))

/-- Sending closes no connection of which something is expected, when no send to such a connection
fails. -/
theorem sent_moves {system : System} {peer : Peer}
    {operation : Connection → Except Fault Connection}
    (sends : ∀ after, operation peer.connection = .ok after → Sent peer.connection after)
    (settled : Settled system) (member : peer ∈ system.peers)
    (through : system.Expected peer → SendsThrough peer.connection operation) :
    ∀ connection, operation peer.connection = .ok connection →
      Onward peer.connection connection ∧ (connection.Closing → ¬system.Expected peer) := by
  intro connection applied
  have sent := sends connection applied
  refine ⟨sent.onward, fun closing expected => ?_⟩
  have same := sent.same (through expected connection applied)
  rw [Closing, same.state] at closing
  exact settled.unexpected peer member closing expected

/-! ## Runs -/

/-- What keeps closing final: a connection is closed only when nothing is expected of it, no send to
a connection fails while something is expected of it, and none fails while a WebSocket client is
greeted. -/
def Orderly (system : System) : SystemAction → Prop
  | .poll answer =>
      ∀ peer ∈ system.peers, system.pendingReads.head? = some peer.connection.socket →
        GreetsThrough system.services answer.site peer.service (system.optionsOf peer.service)
          peer.connection
  | .close serial => ∀ peer ∈ system.peers, peer.serial = serial → ¬system.Expected peer
  | .closeService service => ∀ peer ∈ system.peers, peer.service = service → ¬system.Expected peer
  | .queue serial message =>
      ∀ peer ∈ system.peers, peer.serial = serial → system.Expected peer →
        SendsThrough peer.connection fun connection => connection.queueSingle message
  | .broadcast service message =>
      ∀ peer ∈ system.peers, peer.service = service → system.Expected peer →
        SendsThrough peer.connection fun connection => connection.queueBroadcastTo message
  | .acceptFile _ _ _ => True

/-- A turn of the poll loop. -/
theorem poll_proceeds {system after : System} {answer : PollAnswer} (settled : Settled system)
    (orderly : system.Orderly (.poll answer)) (polled : system.poll answer = .ok after) :
    Proceeds system after := by
  rw [poll] at polled
  split at polled
  · rename_i serial line queued
    obtain rfl := Except.ok.inj polled
    constructor
    · have cleared : Settled { system with queuedEvent := none } := by
        refine ⟨settled.serials, settled.sockets, settled.apart, settled.bounded,
          settled.reads, settled.calm, ?_⟩
        rintro peer member closing (pending | ⟨line, again⟩)
        · exact settled.unexpected peer member closing (.inl pending)
        · cases again
      exact cleared.emit _ _ _
    · intro peer member closing
      refine Silent.emit (.of_log_eq rfl) (not_speaks (.inr ?_))
      rintro rfl
      exact settled.unexpected peer member closing (.inr ⟨line, queued⟩)
    · intro other rank late leaving
      have apart : serial ≠ other := by
        rintro rfl
        exact leaving.unqueued line queued
      have cleared : Leaving other rank { system with queuedEvent := none } :=
        ⟨leaving.past, leaving.state, fun line again => nomatch again⟩
      exact ⟨cleared.emit _ _ _, Silent.emit (.of_log_eq rfl) (not_revives (.inr apart))⟩
  · rename_i quiet
    split at polled
    · rename_i _ socket reads pending
      let taken : System := { system with pendingReads := reads }
      have once : (socket :: reads).Nodup := pending ▸ settled.reads
      have fewer : Settled taken := by
        refine ⟨settled.serials, settled.sockets, settled.apart, settled.bounded,
          (List.nodup_cons.mp once).2, settled.calm, ?_⟩
        rintro peer member closing (later | queued)
        · refine settled.unexpected peer member closing (.inl ?_)
          rw [pending]
          exact List.mem_cons_of_mem _ later
        · exact settled.unexpected peer member closing (.inr queued)
      have proceeds : Proceeds taken after := by
        rw [processRead] at polled
        split at polled
        · exact newConnect_proceeds fewer polled
        · split at polled
          · rename_i peer found
            have member : peer ∈ system.peers := List.mem_of_find?_eq_some found
            have here : peer.connection.socket = socket := by
              simpa using List.find?_some found
            have open_yet : ¬peer.connection.Closing := by
              intro closing
              refine settled.unexpected peer member closing (.inl ?_)
              rw [pending, here]
              exact List.mem_cons_self
            have next : system.pendingReads.head? = some peer.connection.socket := by
              rw [pending, here]
              rfl
            refine attendRead_proceeds fewer member open_yet ?_ quiet (orderly peer member next)
              polled
            rw [here]
            exact (List.nodup_cons.mp once).1
          · cases polled
      exact ⟨proceeds.settled, proceeds.unspoken, fun serial rank late leaving =>
        proceeds.leaving serial rank late ⟨leaving.past, leaving.state, leaving.unqueued⟩⟩
    · rename_i socket writes idle pending
      have same : Settled { system with pendingWrites := writes } :=
        ⟨settled.serials, settled.sockets, settled.apart, settled.bounded, settled.reads,
          settled.calm, settled.unexpected⟩
      have proceeds := processWrite_proceeds same idle quiet polled
      exact ⟨proceeds.settled, proceeds.unspoken, fun serial rank late leaving =>
        proceeds.leaving serial rank late ⟨leaving.past, leaving.state, leaving.unqueued⟩⟩
    · obtain rfl := Except.ok.inj polled
      exact selectSockets_proceeds settled answer quiet

theorem closePeers_proceeds {system after : System} {condition : Peer → Bool}
    (settled : Settled system)
    (free : ∀ peer ∈ system.peers, condition peer = true → ¬system.Expected peer)
    (closed : system.onPeers condition (fun connection => .ok connection.closeConnection) =
      .ok after) : Proceeds system after := by
  apply onPeers_proceeds settled _ closed
  intro peer member chosen connection applied
  obtain rfl := Except.ok.inj applied
  exact ⟨.inr (closed_closeConnection _), fun _ => free peer member chosen⟩

/-- Every orderly step proceeds. -/
theorem step_proceeds {system after : System} {action : SystemAction} (settled : Settled system)
    (orderly : system.Orderly action) (moved : system.step action = .ok after) :
    Proceeds system after := by
  cases action with
  | poll answer => exact poll_proceeds settled orderly moved
  | close serial =>
      apply closePeers_proceeds settled _ moved
      intro peer member chosen
      exact orderly peer member (by simpa using chosen)
  | closeService service =>
      rw [step] at moved
      split at moved
      · obtain rfl := Except.ok.inj moved
        exact ⟨settled, fun _ _ _ => .refl _ _, fun _ _ _ leaving => ⟨leaving, .refl _ _⟩⟩
      · rename_i found _
        split at moved
        · cases moved
        · -- The listeners are closed first; this changes no descriptor.
          let deaf (listener : Listener) : Listener :=
            if listener.service = service then { listener with readable := false } else listener
          have same_socket : ∀ listener, (deaf listener).socket = listener.socket := by
            intro listener
            simp only [deaf]
            split <;> rfl
          let closing : System := { system with
            services := system.services.set service { found with closing := true }
            listeners := system.listeners.map deaf }
          have closing_settled : Settled closing := by
            refine ⟨settled.serials, settled.sockets, ?_, settled.bounded, settled.reads,
              settled.calm, settled.unexpected⟩
            intro peer member listener listens
            obtain ⟨old, old_listens, rfl⟩ := List.mem_map.mp listens
            rw [same_socket]
            exact settled.apart peer member old old_listens
          have proceeds : Proceeds closing after := by
            apply closePeers_proceeds closing_settled _ moved
            intro peer member chosen
            exact orderly peer member (by simpa using chosen)
          exact ⟨proceeds.settled, proceeds.unspoken, fun serial rank late leaving =>
            proceeds.leaving serial rank late ⟨leaving.past, leaving.state, leaving.unqueued⟩⟩
  | queue serial message =>
      apply onPeers_proceeds settled _ moved
      intro peer member chosen
      exact sent_moves (fun _ => queueSingle_sent) settled member
        (orderly peer member (by simpa using chosen))
  | broadcast service message =>
      apply onPeers_proceeds settled _ moved
      intro peer member chosen
      exact sent_moves (fun _ => queueBroadcastTo_sent) settled member
        (orderly peer member (by simpa using chosen))
  | acceptFile service socket lines =>
      rw [step] at moved
      obtain ⟨middle, added, rfl⟩ := FallibleRun.map_ok_iff.mp moved
      exact (addPeer_proceeds settled (calm_of_not_wasClosing rfl (Nat.le_refl _))
        (Nat.lt_irrefl _) added).2

/-- The system before its first connection. -/
structure Started (system : System) : Prop where
  peers : system.peers = []
  pendingReads : system.pendingReads = []

theorem Started.settled {system : System} (started : Started system) : Settled system := by
  have nobody : ∀ peer, peer ∉ system.peers := by
    intro peer
    rw [started.peers]
    exact List.not_mem_nil
  constructor
  · rw [started.peers]
    exact List.nodup_nil
  · rw [started.peers]
    exact List.nodup_nil
  · exact fun peer member => absurd member (nobody peer)
  · exact fun peer member => absurd member (nobody peer)
  · rw [started.pendingReads]
    exact List.nodup_nil
  · exact fun peer member => absurd member (nobody peer)
  · exact fun peer member => absurd member (nobody peer)

private theorem settled_of_run {start final : System} {actions : List SystemAction}
    (settled : Settled start) (guarded : FallibleRun.Guarded step Orderly start actions)
    (reached : FallibleRun.run step start actions = .ok final) : Settled final :=
  guarded.invariant Settled
    (fun _ _ _ settled orderly moved => (step_proceeds settled orderly moved).settled)
    settled reached

/-- A connection that is leaving goes on leaving in silence through orderly runs. -/
theorem leaving_of_run {serial rank : Nat} {start final : System} {actions : List SystemAction}
    (late : SocketState.opened.rank < rank) (settled : Settled start)
    (leaving : Leaving serial rank start) (guarded : FallibleRun.Guarded step Orderly start actions)
    (reached : FallibleRun.run step start actions = .ok final) :
    Leaving serial rank final ∧ Silent (Revives serial) start final := by
  have kept : Settled final ∧ Leaving serial rank final ∧ Silent (Revives serial) start final := by
    apply guarded.invariant (fun system =>
      Settled system ∧ Leaving serial rank system ∧ Silent (Revives serial) start system)
    · exact ⟨settled, leaving, .refl _ _⟩
    · exact reached
    · rintro system action next ⟨settled, leaving, silent⟩ orderly moved
      have proceeds := step_proceeds settled orderly moved
      obtain ⟨going, quietly⟩ := proceeds.leaving serial rank late leaving
      exact ⟨proceeds.settled, going, silent.trans quietly⟩
  exact kept.2

/-- A closing connection of a settled system is leaving. -/
theorem Settled.leaving {system : System} (settled : Settled system) {peer : Peer}
    (member : peer ∈ system.peers) (closing : peer.connection.Closing) :
    Leaving peer.serial peer.connection.state.rank system := by
  refine ⟨settled.bounded peer member, fun other other_member same => ?_, fun line queued => ?_⟩
  · rw [List.inj_on_of_nodup_map settled.serials other_member member same]
  · exact settled.unexpected peer member closing (.inr ⟨line, queued⟩)

/-- The next turn of the poll loop reads from a connection. -/
def Dispatches (system : System) (peer : Peer) : Prop :=
  system.queuedEvent = none ∧ system.pendingReads.head? = some peer.connection.socket

/-- A closing connection is not about to be read from, and spoke last before it was closing;
whatever happens after, it stays at least as far closed and shows no life. -/
structure StaysClosed (before middle final : System) (peer : Peer) : Prop where
  unread : ¬middle.Dispatches peer
  unspoken : Silent (Speaks peer.serial) before middle
  state : ∀ later ∈ final.peers, later.serial = peer.serial →
    peer.connection.state.rank ≤ later.connection.state.rank
  silent : Silent (Revives peer.serial) middle final

/-- In orderly runs no connection comes back from closing. -/
theorem staysClosed_of_run {start before middle final : System} {front back : List SystemAction}
    {action : SystemAction} (started : Started start)
    (guarded : FallibleRun.Guarded step Orderly start (front ++ action :: back))
    (reached : FallibleRun.run step start front = .ok before)
    (moved : before.step action = .ok middle)
    (continued : FallibleRun.run step middle back = .ok final) :
    (∀ peer ∈ middle.peers, peer.connection.wasClosing = true → peer.connection.Closing) ∧
      ∀ peer ∈ middle.peers, peer.connection.Closing → StaysClosed before middle final peer := by
  have settled := settled_of_run started.settled guarded.of_append reached
  obtain ⟨orderly, later⟩ := guarded.after_append reached
  have proceeds := step_proceeds settled orderly moved
  have settled_next := proceeds.settled
  refine ⟨fun peer member => (settled_next.calm peer member).final, fun peer member closing => ?_⟩
  obtain ⟨leaving, silent⟩ := leaving_of_run closing settled_next
    (settled_next.leaving member closing) (later middle moved) continued
  refine ⟨fun dispatched => ?_, proceeds.unspoken peer member closing, leaving.state, silent⟩
  exact settled_next.unexpected peer member closing (.inl (List.mem_of_mem_head? dispatched.2))

/-- When no connection is collecting a request, a turn of the poll loop greets nobody. -/
theorem orderly_poll {system : System} (answer : PollAnswer)
    (collecting : ∀ peer ∈ system.peers, peer.connection.state ≠ .gatheringHeader) :
    system.Orderly (.poll answer) :=
  fun peer member _ gathering => absurd gathering (collecting peer member)

/-- A site without files. -/
def sampleSite : Site where
  version := []
  now := []
  expiration := []
  openFile := fun _ => .missing
  acceptCode := id

/-- A service without options and the listener on its line or HTTP port. -/
def sampleSystem (http : Bool) : System where
  services := [⟨⟨ascii "HELO", none, none, .off⟩, none, false⟩]
  listeners := [⟨3, 0, http, false, true⟩]
  peers := []
  pendingReads := []
  pendingWrites := []
  queuedEvent := none
  nextSerial := 0
  log := []

/-- A turn of the poll loop. -/
def sampleTurn (reads writes : List Nat) (accepted : Option Accepted) : SystemAction :=
  .poll ⟨reads, writes, accepted, .done, false, sampleSite⟩

/-- A client that was accepted and then closed by the application reports its closing. -/
theorem sampleClose_stays : ∃ before middle final,
    FallibleRun.run step (sampleSystem false)
        [sampleTurn [3] [] none, sampleTurn [] [] (some ⟨4, [], []⟩)] = .ok before ∧
      before.step (.close 0) = .ok middle ∧
      FallibleRun.run step middle [sampleTurn [4] [4] none, sampleTurn [] [] none] = .ok final ∧
      (∃ peer ∈ middle.peers, peer.connection.Closing) ∧
      (∀ peer ∈ middle.peers, peer.connection.wasClosing = true → peer.connection.Closing) ∧
      ∀ peer ∈ middle.peers, peer.connection.Closing →
        StaysClosed before middle final peer := by
  refine ⟨_, _, _, rfl, rfl, rfl, ⟨_, List.mem_singleton_self _, Nat.lt_succ_self 3⟩, ?_⟩
  have none_peers : ∀ answer, Orderly (sampleSystem false) (.poll answer) :=
    fun answer => orderly_poll answer fun _ member => nomatch member
  apply @staysClosed_of_run (sampleSystem false) _ _ _
    [sampleTurn [3] [] none, sampleTurn [] [] (some ⟨4, [], []⟩)]
    [sampleTurn [4] [4] none, sampleTurn [] [] none] (.close 0) ⟨rfl, rfl⟩ _ rfl rfl rfl
  refine .cons (none_peers _) rfl (.cons (orderly_poll _ (by decide)) rfl
    (.cons ?_ rfl (.cons (orderly_poll _ (by decide)) rfl
      (.cons (orderly_poll _ (by decide)) rfl trivial))))
  rintro peer member - (pending | ⟨line, queued⟩)
  · cases pending
  · cases queued

/-- Two clients are accepted and both are ready in one round; the first one's line is delivered. -/
def sampleRound : List SystemAction :=
  [sampleTurn [3] [] none, sampleTurn [] [] (some ⟨4, [.bytes (ascii "kick\n")], []⟩),
    sampleTurn [3] [] none, sampleTurn [] [] (some ⟨5, [.bytes (ascii "play\n")], []⟩),
    sampleTurn [4, 5] [] none, sampleTurn [] [] none]

/-- A WebSocket client whose first send fails. -/
def sampleUpgrade : List SystemAction :=
  let request := ascii "GET /x HTTP/1.1\nHost: h\nUpgrade: websocket\n" ++
    ascii "Sec-WebSocket-Version: 13\nSec-WebSocket-Key: k\n\n"
  let read := [sampleTurn [4] [] none, sampleTurn [] [] none]
  [sampleTurn [3] [] none, sampleTurn [] [] (some ⟨4, [.bytes request], [.failed]⟩)] ++
    read ++ read ++ read ++ read ++ read ++ read

set_option maxRecDepth 2000 in
/-- When the application answers by closing the second client, that client is read from next, at an
assertion; and a client whose greeting fails is closed and opened again in one turn. -/
theorem sampleRuns_return :
    (∃ system, FallibleRun.run step (sampleSystem false) (sampleRound ++ [.close 1]) = .ok system ∧
      (∃ peer ∈ system.peers, peer.connection.Closing ∧ system.Dispatches peer) ∧
      ∀ answer, system.step (.poll answer) = .error (.assertion "0")) ∧
    ∃ system, FallibleRun.run step (sampleSystem true) sampleUpgrade = .ok system ∧
      (∃ peer ∈ system.peers, peer.connection.wasClosing = true ∧
        peer.connection.state = .opened) ∧
      system.log.getLast? = some (.event .connect 0 none) := by
  constructor
  · refine ⟨_, rfl, ⟨_, List.mem_cons_of_mem _ List.mem_cons_self, ?_, rfl, rfl⟩, fun answer => rfl⟩
    exact Nat.lt_succ_self 3
  · exact ⟨_, rfl, ⟨_, List.mem_cons_self, rfl, rfl⟩, rfl⟩

end System

end Football
