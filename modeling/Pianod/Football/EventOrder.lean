import Pianod.Football.NoReturn

/-!
# The order of events

The events of a connection report that its session begins, what is received on it, and that it
closes.  They come in this order as long as no connection starts to close before its session has
begun: such a connection would report its closing without having reported anything before.
-/

namespace Football

open Foundation

/-- What the application knows of a connection. -/
inductive Stage where
  | silent
  | talking
  | gone
deriving DecidableEq, Repr

namespace Stage

/-- The stage after an event, if the event is in order. -/
def next : Stage → EventType → Option Stage
  | silent, .connect => some talking
  | talking, .input => some talking
  | talking, .close => some gone
  | _, _ => none

/-- The stage after some events, if they are all in order. -/
def after : Stage → List EventType → Option Stage
  | stage, [] => some stage
  | stage, event :: events => (stage.next event).bind fun later => later.after events

theorem after_concat (stage : Stage) (events : List EventType) (event : EventType) :
    stage.after (events ++ [event]) = (stage.after events).bind fun later => later.next event := by
  induction events generalizing stage with
  | nil => simp [after]
  | cons first events ih =>
      rw [List.cons_append, after, after]
      cases stage.next first with
      | none => rfl
      | some later => exact ih later

private theorem eq_talking {stage later : Stage} (begun : stage.next .connect = some later) :
    later = .talking := by
  cases stage <;> cases begun
  rfl

private theorem gone_after {events : List EventType} {stage : Stage}
    (ordered : gone.after events = some stage) : events = [] := by
  cases events with
  | nil => rfl
  | cons event events => cases event <;> cases ordered

/-- What is in order after the beginning of a session is input and at last the closing. -/
theorem talking_after {events : List EventType} {stage : Stage}
    (ordered : talking.after events = some stage) :
    ∃ count, events <+: List.replicate count .input ++ [.close] := by
  induction events with
  | nil => exact ⟨0, List.nil_prefix⟩
  | cons event events ih =>
      cases event with
      | connect => cases ordered
      | input =>
          obtain ⟨count, rest⟩ := ih ordered
          refine ⟨count + 1, ?_⟩
          rw [List.replicate_succ, List.cons_append]
          exact (List.prefix_cons_inj _).mpr rest
      | close =>
          rw [gone_after ordered]
          exact ⟨0, List.prefix_refl _⟩

private theorem silent_after {events : List EventType} {stage : Stage}
    (ordered : silent.after events = some stage) :
    ∃ count, events <+: .connect :: (List.replicate count .input ++ [.close]) := by
  cases events with
  | nil => exact ⟨0, List.nil_prefix⟩
  | cons event events =>
      cases event with
      | connect =>
          obtain ⟨count, rest⟩ := talking_after ordered
          exact ⟨count, (List.prefix_cons_inj _).mpr rest⟩
      | input => cases ordered
      | close => cases ordered

end Stage

/-- The stage that goes with a state. -/
def SocketState.stage : SocketState → Stage
  | .tlsHandshake | .greeting | .gatheringHeader => .silent
  | .opened | .flushing => .talking
  | .closing => .gone

/-- Whether a stream ends or fails before the next line is complete. -/
def ended : List Arrival → Bool
  | [] | .nothing :: _ => false
  | .endOfStream :: _ | .failed :: _ | .bytes [] :: _ => true
  | .bytes piece :: arrivals => if newline ∈ piece then false else ended arrivals

namespace Connection

/-- Whether the input ends or fails before the next line is complete. -/
def inputEnded (connection : Connection) : Bool :=
  if connection.isFile then
    match connection.arrivals with
    | .bytes _ :: _ => false
    | _ => true
  else ended connection.arrivals

/-- A connection changes its stage when it starts to close before its session has begun, and else
not. -/
theorem Onward.stage {before after : Connection} (onward : Onward before after)
    (lasting : before.state.stage = .silent → Same before after) :
    after.state.stage = before.state.stage := by
  rcases onward with same | closed
  · rw [same.state]
  · by_cases early : before.state.stage = .silent
    · rw [(lasting early).state]
    · rw [closed.state, closeConnection]
      cases state : before.state <;> simp_all [SocketState.stage, SocketState.rank]

/-- A byte is received, or nothing yet, as long as the stream goes on. -/
theorem recvInput_of_alive {before after : Connection} {complete : Bool}
    (alive : ended before.arrivals = false)
    (received : before.recvInput 1 = .ok (complete, after)) :
    Same before after ∧ (complete = true → after.input.message.getLast? ≠ some newline →
      ended after.arrivals = false) := by
  rw [recvInput, if_neg Nat.one_ne_zero] at received
  split at received
  · cases received
  · split at received
    · cases received
      exact ⟨.refl _, Bool.noConfusion⟩
    · cases received
      exact ⟨⟨rfl, rfl, rfl, rfl, rfl⟩, Bool.noConfusion⟩
    · rename_i stop
      rw [stop, ended] at alive
      cases alive
    · rename_i stop
      rw [stop, ended] at alive
      cases alive
    · rename_i stop
      rw [stop, ended] at alive
      cases alive
    · rename_i piece arrivals some_bytes found
      obtain ⟨byte, rest, rfl⟩ := List.exists_cons_of_ne_nil some_bytes
      rw [found] at alive
      simp only [ended] at alive
      split at received
      · rename_i single
        cases received
        refine ⟨⟨rfl, rfl, rfl, rfl, rfl⟩, fun _ unfinished => ?_⟩
        obtain rfl : rest = [] := List.length_eq_zero_iff.mp (by simpa using single)
        have not_newline : byte ≠ newline := by
          intro same
          rw [takeBytes, List.getLast?_concat, same] at unfinished
          exact unfinished rfl
        rw [if_neg (by simpa using Ne.symm not_newline)] at alive
        exact alive
      · rename_i several
        cases received
        refine ⟨⟨rfl, rfl, rfl, rfl, rfl⟩, fun _ unfinished => ?_⟩
        have not_newline : byte ≠ newline := by
          intro same
          rw [takeBytes, List.take_succ_cons, List.take_zero, List.getLast?_concat,
            same] at unfinished
          exact unfinished rfl
        cases rest with
        | nil => exact absurd (Nat.le_refl 1) several
        | cons second rest =>
            change ended (.bytes (second :: rest) :: arrivals) = false
            simp only [ended]
            simpa [Ne.symm not_newline] using alive

private theorem getLineBytes_of_alive {fuel : Nat} {before after : Connection} {line : Option Text}
    (alive : ended before.arrivals = false) (read : getLineBytes fuel before = .ok (line, after)) :
    Same before after := by
  induction fuel generalizing before with
  | zero =>
      cases read
      exact .refl _
  | succ fuel ih =>
      rw [getLineBytes] at read
      simp only at read
      split at read
      · cases read
      · rename_i roomy grown
        have room : Same before roomy ∧ roomy.arrivals = before.arrivals := by
          split at grown
          · refine ⟨setInputBufferSize_same grown, ?_⟩
            rw [setInputBufferSize] at grown
            split at grown
            · cases grown
            · obtain rfl := Except.ok.inj grown
              rfl
          · obtain rfl := Except.ok.inj grown
            exact ⟨.refl _, rfl⟩
        rw [← room.2] at alive
        split at read
        · cases read
        · rename_i short asked
          cases read
          exact room.1.trans (recvInput_of_alive alive asked).1
        · rename_i longer asked
          obtain ⟨same, still⟩ := recvInput_of_alive alive asked
          split at read
          · cases read
            exact room.1.trans (same.trans ⟨rfl, rfl, rfl, rfl, rfl⟩)
          · rename_i unfinished
            exact room.1.trans (same.trans (ih (still rfl unfinished) read))

/-- A connection whose input goes on is not closed by reading a line. -/
theorem readLineInput_of_alive {before after : Connection} {line : Option InputLine}
    (alive : before.inputEnded = false) (read : before.readLineInput = .ok (line, after)) :
    Same before after := by
  cases line with
  | some line => exact (readLineInput_received read).same rfl
  | none =>
      rw [readLineInput] at read
      rw [inputEnded] at alive
      split at read
      · cases read
      · rename_i short received
        cases read
        split at received
        · rename_i file
          rw [if_pos file] at alive
          rw [getFileLine] at received
          split at received
          · cases received
          · rename_i no_line
            split at alive
            · rename_i line arrivals found
              exact absurd found (no_line line arrivals)
            · cases alive
        · rename_i no_file
          rw [if_neg no_file] at alive
          exact getLineBytes_of_alive alive received
      · obtain ⟨found, -, created⟩ := FallibleRun.map_ok_iff.mp read
        cases created

end Connection

namespace System

open Connection

/-! ## Reading -/

/-- What reading leads to is in order. -/
def ReadOutcome.Ordered (stage : Stage) : ReadOutcome → Prop
  | .goesOn connection none _ => connection.state.stage = stage
  | .goesOn connection (some (type, _)) _ => stage.next type = some connection.state.stage
  | .fallsBack connection _ => stage.next .connect = some connection.state.stage
  | .destroyed => True

/-- Reading does not close a connection whose session has not begun: its input goes on, and a
request that is complete is answered by an upgrade, or in such a way that the client may try again
and without a send that fails. -/
def KeepsAlive (services : List Service) (site : Site) (service : Nat) (options : ServiceOptions)
    (connection : Connection) : Prop :=
  connection.inputEnded = false ∧
    (connection.state = .gatheringHeader →
      ∀ line after, connection.readLineInput = .ok (some line, after) → line.argv = [] →
        ∀ moved executing, executingService services site service options after =
            .ok (moved, executing) →
          match httpAnswer site executing after.encrypted after.request with
          | .respond messages tryAgain => tryAgain = true ∧
              SendsThrough after fun connection => connection.writeMessages messages
          | .elsewhere _ => False
          | .upgrade _ => True)

private theorem readGreeting_ordered {services : List Service} {service : Nat}
    {options : ServiceOptions} {connection : Connection} {line : InputLine} {outcome : ReadOutcome}
    (early : connection.state.stage = .silent)
    (read : readGreeting services service options connection line = .ok outcome) :
    outcome.Ordered .silent := by
  rw [readGreeting] at read
  split at read
  · cases read
    exact early
  · split at read
    · simp only at read
      split at read
      · cases read
        rfl
      · split at read
        · cases read
        · cases read
          trivial
        · cases read
          rfl
    · split at read
      · cases read
        rfl
      · split at read
        · cases read
          rfl
        · cases read
          trivial

private theorem respond_ordered {before after : Connection} {messages : List Text} {tryAgain : Bool}
    (gathering : before.state = .gatheringHeader) (again : tryAgain = true)
    (through : SendsThrough before fun connection => connection.writeMessages messages)
    (responded : before.respond messages tryAgain = .ok after) : after.state = .greeting := by
  subst again
  rw [respond] at responded
  split at responded
  · cases responded
  · rename_i sent written
    have same := (writeMessages_sent written).same (through sent written)
    have early : sent.state.rank < SocketState.opened.rank := by
      rw [same.state, gathering]
      decide
    simp only [if_true, if_pos early] at responded
    obtain rfl := Except.ok.inj responded
    rfl

private theorem executeHttpRequest_ordered {services : List Service} {site : Site} {service : Nat}
    {options : ServiceOptions} {connection : Connection} {outcome : ReadOutcome}
    (gathering : connection.state = .gatheringHeader)
    (keeps : ∀ moved executing, executingService services site service options connection =
        .ok (moved, executing) →
      match httpAnswer site executing connection.encrypted connection.request with
      | .respond messages tryAgain => tryAgain = true ∧
          SendsThrough connection fun connection => connection.writeMessages messages
      | .elsewhere _ => False
      | .upgrade _ => True)
    (executed : executeHttpRequest services site service options connection = .ok outcome) :
    outcome.Ordered .silent := by
  rw [executeHttpRequest] at executed
  split at executed
  · cases executed
  · rename_i moved executing found
    have kept := keeps moved executing found
    cases answer : httpAnswer site executing connection.encrypted connection.request with
    | respond messages tryAgain =>
        rw [answer] at kept executed
        rw [executeAnswer] at executed
        obtain ⟨after, responded, rfl⟩ := FallibleRun.map_ok_iff.mp executed
        have state := respond_ordered gathering kept.1 kept.2 responded
        rw [ReadOutcome.Ordered, state]
        rfl
    | elsewhere name =>
        rw [answer] at kept
        exact kept.elim
    | upgrade key =>
        rw [answer, executeAnswer] at executed
        rw [upgradeWebsocket] at executed
        cases written : connection.writeMessages (websocketGreeting site key) with
        | error fault =>
            rw [written] at executed
            cases executed
        | ok sent =>
            rw [written] at executed
            cases executed
            rfl

theorem readSession_ordered {services : List Service} {site : Site} {service : Nat}
    {options : ServiceOptions} {connection : Connection} {outcome : ReadOutcome}
    (keeps : connection.state.stage = .silent →
      KeepsAlive services site service options connection)
    (read : readSession services site service options connection = .ok outcome) :
    outcome.Ordered connection.state.stage := by
  rw [readSession] at read
  split at read
  · cases read
  · rename_i greeting
    rw [greeting] at keeps ⊢
    obtain ⟨alive, -⟩ := keeps rfl
    split at read
    · cases read
    · rename_i after line_read
      cases read
      have same := readLineInput_of_alive alive line_read
      rw [ReadOutcome.Ordered, same.state, greeting]
    · rename_i line after line_read
      have same := readLineInput_of_alive alive line_read
      exact readGreeting_ordered (by rw [same.state, greeting]; rfl) read
  · rename_i gathering
    rw [gathering] at keeps ⊢
    obtain ⟨alive, answered⟩ := keeps rfl
    split at read
    · cases read
    · rename_i after line_read
      cases read
      have same := readLineInput_of_alive alive line_read
      rw [ReadOutcome.Ordered, same.state, gathering]
    · rename_i line after line_read
      have same := readLineInput_of_alive alive line_read
      split at read
      · rename_i blank
        exact executeHttpRequest_ordered (same.state.trans gathering)
          (answered gathering line after line_read (List.isEmpty_iff.mp blank)) read
      · cases read
        rw [ReadOutcome.Ordered, same.state, gathering]
  · rename_i opened
    simp only at read
    split at read
    · cases read
    · rename_i line after received
      have onward : Onward connection after := by
        split at received
        · exact (readWebsocketInput_received received).onward
        · exact (readLineInput_received received).onward
      have stage : after.state.stage = .talking := by
        rw [onward.stage, opened]
        · rfl
        · rw [opened]
          rintro ⟨⟩
      rw [opened]
      split at read
      · cases read
        cases line with
        | none =>
            split <;> exact stage
        | some line =>
            split
            · exact stage
            · exact congrArg some stage.symm
      · cases read
        cases line with
        | none => exact stage
        | some line => exact congrArg some stage.symm
  · cases read
  · cases read

theorem readInput_ordered {services : List Service} {answer : PollAnswer} {service : Nat}
    {options : ServiceOptions} {connection : Connection} {outcome : ReadOutcome}
    (keeps : connection.state.stage = .silent →
      (connection.state = .tlsHandshake → answer.handshake = .done) →
      KeepsAlive services answer.site service options connection)
    (read : readInput services answer service options connection = .ok outcome) :
    outcome.Ordered connection.state.stage := by
  rw [readInput] at read
  split at read
  · rename_i securing
    rw [securing] at keeps ⊢
    split at read
    · cases read
      rw [ReadOutcome.Ordered, securing]
    · cases read
      trivial
    · rename_i done
      obtain ⟨alive, -⟩ := keeps rfl fun _ => done
      let secured : Connection := { connection with state := .greeting }
      have greeted : KeepsAlive services answer.site service options secured :=
        ⟨alive, fun gathering => by cases gathering⟩
      exact @readSession_ordered _ _ _ _ secured _ (fun _ => greeted) read
  · rename_i plain
    exact readSession_ordered (fun silent => keeps silent fun securing => absurd securing plain)
      read

/-! ## Events of one connection -/

/-- The events of a connection so far. -/
def history (system : System) (serial : Nat) : List EventType :=
  system.log.filterMap fun occurrence =>
    match occurrence with
    | .event type other _ => if other = serial then some type else none
    | .reading _ => none

theorem history_emit (system : System) (type : EventType) (other serial : Nat)
    (line : Option InputLine) :
    (system.emit type other line).history serial =
      system.history serial ++ if other = serial then [type] else [] := by
  rw [history, emit, List.filterMap_append, history]
  by_cases same : other = serial <;> simp [same]

/-- The events of every connection are in order, and those of a live connection up to the stage it
is in; a line that is queued as an event belongs to a session that has begun. -/
structure Ordered (system : System) : Prop where
  serials : (system.peers.map Peer.serial).Nodup
  bounded : ∀ peer ∈ system.peers, peer.serial < system.nextSerial
  staged : ∀ peer ∈ system.peers,
    Stage.silent.after (system.history peer.serial) = some peer.connection.state.stage
  fresh : ∀ serial, system.nextSerial ≤ serial → system.history serial = []
  queued : ∀ serial line, system.queuedEvent = some (serial, line) →
    Stage.silent.after (system.history serial) = some .talking
  traced : ∀ serial, (Stage.silent.after (system.history serial)).isSome

/-- Connections may go away or move on within their stage. -/
theorem Ordered.update {before after : System} (ordered : Ordered before)
    (same : ∀ serial, after.history serial = before.history serial)
    (nextSerial : after.nextSerial = before.nextSerial)
    (queuedEvent : after.queuedEvent = before.queuedEvent ∨ after.queuedEvent = none)
    (serials : (after.peers.map Peer.serial).Nodup)
    (staged : ∀ peer ∈ after.peers, ∃ old ∈ before.peers, peer.serial = old.serial ∧
      peer.connection.state.stage = old.connection.state.stage) : Ordered after where
  serials := serials
  bounded := by
    intro peer member
    obtain ⟨old, old_member, serial, -⟩ := staged peer member
    rw [serial, nextSerial]
    exact ordered.bounded old old_member
  staged := by
    intro peer member
    obtain ⟨old, old_member, serial, stage⟩ := staged peer member
    rw [same, serial, stage]
    exact ordered.staged old old_member
  fresh := by
    intro serial later
    rw [same]
    exact ordered.fresh serial (nextSerial ▸ later)
  queued := by
    intro serial line queued
    rw [same]
    rcases queuedEvent with kept | gone
    · exact ordered.queued serial line (kept ▸ queued)
    · rw [gone] at queued
      cases queued
  traced := by
    intro serial
    rw [same]
    exact ordered.traced serial

/-- The masks and what is read do not matter. -/
theorem Ordered.of_peers {before after : System} (ordered : Ordered before)
    (same : ∀ serial, after.history serial = before.history serial)
    (nextSerial : after.nextSerial = before.nextSerial)
    (queuedEvent : after.queuedEvent = before.queuedEvent ∨ after.queuedEvent = none)
    (peers : after.peers = before.peers) : Ordered after := by
  apply ordered.update same nextSerial queuedEvent
  · rw [peers]
    exact ordered.serials
  · intro peer member
    rw [peers] at member
    exact ⟨peer, member, rfl, rfl⟩

theorem Ordered.setConnection {system : System} (ordered : Ordered system) {peer : Peer}
    (member : peer ∈ system.peers) {connection : Connection}
    (stage : connection.state.stage = peer.connection.state.stage) :
    Ordered (system.setConnection peer.serial connection) := by
  apply @Ordered.update system (system.setConnection peer.serial connection) ordered
    (fun _ => rfl) rfl (.inl rfl)
  · have same : (system.setConnection peer.serial connection).peers.map Peer.serial =
        system.peers.map Peer.serial := by
      rw [System.setConnection, List.map_map]
      apply List.map_congr_left
      intro other _
      simp only [Function.comp]
      split <;> rfl
    rw [same]
    exact ordered.serials
  · intro after after_member
    obtain ⟨old, old_member, rfl⟩ := List.mem_map.mp after_member
    refine ⟨old, old_member, ?_⟩
    split
    · rename_i same
      obtain rfl := List.inj_on_of_nodup_map ordered.serials old_member member same
      exact ⟨rfl, stage⟩
    · exact ⟨rfl, rfl⟩

theorem Ordered.destroyConnection {system : System} (ordered : Ordered system)
    (serial socket : Nat) : Ordered (system.destroyConnection serial socket) := by
  apply @Ordered.update system (system.destroyConnection serial socket) ordered
    (fun _ => rfl) rfl (.inl rfl)
  · exact ordered.serials.sublist (List.filter_sublist.map _)
  · exact fun peer member => ⟨peer, List.mem_of_mem_filter member, rfl, rfl⟩

theorem Ordered.moveTo {system : System} (ordered : Ordered system) (serial : Nat)
    (service : Option Nat) : Ordered (system.moveTo serial service) := by
  cases service with
  | none => exact ordered
  | some service =>
      apply @Ordered.update system (system.transfer serial service) ordered
        (fun _ => rfl) rfl (.inl rfl)
      · have halves : ((system.transfer serial service).peers.map Peer.serial).Perm
            (system.peers.map Peer.serial) := by
          rw [System.transfer, List.map_append, List.map_map]
          change (List.map Peer.serial _ ++ List.map Peer.serial _).Perm _
          rw [← List.map_append]
          apply List.Perm.map
          have parts := List.filter_append_perm (fun peer : Peer => decide (peer.serial ≠ serial))
            system.peers
          simpa using parts
        exact halves.nodup_iff.mpr ordered.serials
      · intro peer member
        rcases List.mem_append.mp member with kept | moved
        · exact ⟨peer, List.mem_of_mem_filter kept, rfl, rfl⟩
        · obtain ⟨old, old_listed, rfl⟩ := List.mem_map.mp moved
          exact ⟨old, List.mem_of_mem_filter old_listed, rfl, rfl⟩

/-- An event that is in order is returned for a connection. -/
theorem Ordered.report {system : System} (ordered : Ordered system)
    (quiet : system.queuedEvent = none) {peer : Peer} (member : peer ∈ system.peers)
    {connection : Connection} {type : EventType}
    (stage : peer.connection.state.stage.next type = some connection.state.stage)
    (line : Option InputLine) :
    Ordered ((system.setConnection peer.serial connection).emit type peer.serial line) ∧
      Stage.silent.after (((system.setConnection peer.serial connection).emit type peer.serial
        line).history peer.serial) = some connection.state.stage := by
  have serial_below := ordered.bounded peer member
  have here : Stage.silent.after (((system.setConnection peer.serial connection).emit type
      peer.serial line).history peer.serial) = some connection.state.stage := by
    rw [history_emit, if_pos rfl, Stage.after_concat]
    rw [show (system.setConnection peer.serial connection).history peer.serial =
      system.history peer.serial from rfl, ordered.staged peer member]
    exact stage
  have elsewhere : ∀ serial, serial ≠ peer.serial →
      ((system.setConnection peer.serial connection).emit type peer.serial line).history serial =
        system.history serial := by
    intro serial different
    rw [history_emit, if_neg (Ne.symm different), List.append_nil]
    rfl
  refine ⟨⟨?_, ?_, ?_, ?_, ?_, ?_⟩, here⟩
  · have same : ((system.setConnection peer.serial connection).emit type peer.serial
        line).peers.map Peer.serial = system.peers.map Peer.serial := by
      rw [emit, System.setConnection, List.map_map]
      apply List.map_congr_left
      intro other _
      simp only [Function.comp]
      split <;> rfl
    rw [same]
    exact ordered.serials
  · intro after after_member
    obtain ⟨old, old_member, rfl⟩ := List.mem_map.mp after_member
    have below := ordered.bounded old old_member
    split <;> exact below
  · intro after after_member
    obtain ⟨old, old_member, rfl⟩ := List.mem_map.mp after_member
    split
    · rename_i same
      change Stage.silent.after (history _ old.serial) = some connection.state.stage
      rw [same]
      exact here
    · rename_i different
      rw [elsewhere old.serial different]
      exact ordered.staged old old_member
  · intro serial later
    have different : serial ≠ peer.serial := by
      rintro rfl
      exact absurd serial_below (Nat.not_lt.mpr later)
    rw [elsewhere serial different]
    exact ordered.fresh serial later
  · intro serial queued_line queued
    change system.queuedEvent = some (serial, queued_line) at queued
    rw [quiet] at queued
    cases queued
  · intro serial
    by_cases same : serial = peer.serial
    · rw [same, here]
      rfl
    · rw [elsewhere serial same]
      exact ordered.traced serial

/-- A queued line is delivered to a session that goes on. -/
theorem Ordered.deliver {system : System} (ordered : Ordered system) {serial : Nat}
    {line : InputLine} (queued : system.queuedEvent = some (serial, line)) :
    Ordered ({ system with queuedEvent := none }.emit .input serial (some line)) := by
  have talking := ordered.queued serial line queued
  have after : ∀ other, Stage.silent.after (({ system with queuedEvent := none }.emit .input serial
      (some line)).history other) = Stage.silent.after (system.history other) := by
    intro other
    rw [history_emit]
    by_cases same : serial = other
    · subst same
      rw [if_pos rfl, Stage.after_concat]
      change (Stage.silent.after (system.history serial)).bind _ = _
      rw [talking]
      rfl
    · rw [if_neg same, List.append_nil]
      rfl
  refine ⟨ordered.serials, ordered.bounded, fun peer member => ?_, fun other later => ?_, nofun,
    fun other => ?_⟩
  · rw [after]
    exact ordered.staged peer member
  · have nothing := ordered.fresh other later
    have apart : serial ≠ other := by
      rintro rfl
      rw [nothing] at talking
      cases talking
    rw [history_emit, if_neg apart, List.append_nil]
    exact nothing
  · rw [after]
    exact ordered.traced other

/-- A connection joins in silence, or its session begins at once. -/
theorem Ordered.addPeer {system after : System} (ordered : Ordered system) {service : Nat}
    {connection : Connection} (added : system.addPeer service connection = .ok after) :
    (connection.state.stage = .silent → Ordered after) ∧
      (connection.state.stage = .talking →
        Ordered (after.emit .connect system.nextSerial none)) := by
  rw [System.addPeer] at added
  split at added
  · cases added
  · obtain rfl := Except.ok.inj added
    let joined : Peer := ⟨system.nextSerial, service, connection⟩
    have serials : ((system.peers ++ [joined]).map Peer.serial).Nodup := by
      rw [List.map_append, List.nodup_append]
      refine ⟨ordered.serials, List.nodup_singleton _, fun serial listed other new same => ?_⟩
      obtain ⟨peer, member, rfl⟩ := List.mem_map.mp listed
      have below := ordered.bounded peer member
      rw [same, List.mem_singleton.mp new] at below
      exact Nat.lt_irrefl _ below
    have bounded : ∀ peer ∈ system.peers ++ [joined], peer.serial < system.nextSerial + 1 := by
      intro peer member
      rcases List.mem_append.mp member with old | new
      · exact Nat.lt_succ_of_lt (ordered.bounded peer old)
      · rw [List.mem_singleton.mp new]
        exact Nat.lt_succ_self _
    have nothing := ordered.fresh system.nextSerial (Nat.le_refl _)
    constructor
    · intro silent
      refine ⟨serials, bounded, fun peer member => ?_, fun serial later => ?_,
        fun serial line queued => ordered.queued serial line queued, ordered.traced⟩
      · rcases List.mem_append.mp member with old | new
        · exact ordered.staged peer old
        · rw [List.mem_singleton.mp new, silent]
          change Stage.silent.after (system.history system.nextSerial) = _
          rw [nothing]
          rfl
      · exact ordered.fresh serial (Nat.le_of_succ_le later)
    · intro talking
      have elsewhere : ∀ serial, serial ≠ system.nextSerial →
          history (System.emit { system with
            peers := system.peers ++ [joined]
            nextSerial := system.nextSerial + 1 } .connect system.nextSerial none) serial =
          system.history serial := by
        intro serial different
        rw [history_emit, if_neg (Ne.symm different), List.append_nil]
        rfl
      have here : history (System.emit { system with
            peers := system.peers ++ [joined]
            nextSerial := system.nextSerial + 1 } .connect system.nextSerial none)
          system.nextSerial = [.connect] := by
        rw [history_emit, if_pos rfl]
        change system.history system.nextSerial ++ _ = _
        rw [nothing]
        rfl
      refine ⟨serials, bounded, fun peer member => ?_, fun serial later => ?_,
        fun serial line queued => ?_, fun serial => ?_⟩
      · rcases List.mem_append.mp member with old | new
        · rw [elsewhere peer.serial (Nat.ne_of_lt (ordered.bounded peer old))]
          exact ordered.staged peer old
        · rw [List.mem_singleton.mp new, here, talking]
          rfl
      · rw [elsewhere serial (Nat.ne_of_gt later)]
        exact ordered.fresh serial (Nat.le_of_succ_le later)
      · -- A session that has begun is not the one that begins now.
        have begun := ordered.queued serial line queued
        have different : serial ≠ system.nextSerial := by
          rintro rfl
          rw [nothing] at begun
          cases begun
        rw [elsewhere serial different]
        exact begun
      · by_cases same : serial = system.nextSerial
        · rw [same, here]
          rfl
        · rw [elsewhere serial same]
          exact ordered.traced serial

/-! ## Steps -/

theorem Ordered.newConnect {system after : System} {answer : PollAnswer} {listener : Listener}
    (ordered : Ordered system) (connected : system.newConnect answer listener = .ok after) :
    Ordered after := by
  rw [System.newConnect] at connected
  split at connected
  · obtain rfl := Except.ok.inj connected
    exact ordered
  · rename_i accepted _
    simp only at connected
    split at connected
    · rename_i secured
      obtain ⟨middle, added, rfl⟩ := FallibleRun.map_ok_iff.mp connected
      exact (ordered.addPeer added).1 rfl
    · split at connected
      · obtain ⟨middle, added, rfl⟩ := FallibleRun.map_ok_iff.mp connected
        exact (ordered.addPeer added).1 rfl
      · obtain ⟨middle, added, rfl⟩ := FallibleRun.map_ok_iff.mp connected
        exact (ordered.addPeer added).2 rfl

private theorem moveTo_emit (system : System) (serial : Nat) (service : Option Nat)
    (type : EventType) (line : Option InputLine) :
    (system.moveTo serial service).emit type serial line =
      (system.emit type serial line).moveTo serial service := by
  cases service <;> rfl

theorem Ordered.attendRead {system after : System} {answer : PollAnswer} {peer : Peer}
    (ordered : Ordered system) (quiet : system.queuedEvent = none) (member : peer ∈ system.peers)
    (keeps : peer.connection.state.stage = .silent →
      (peer.connection.state = .tlsHandshake → answer.handshake = .done) →
      KeepsAlive system.services answer.site peer.service (system.optionsOf peer.service)
        peer.connection)
    (attended : system.attendRead answer peer = .ok after) : Ordered after := by
  rw [System.attendRead] at attended
  simp only at attended
  have logged : Ordered { system with log := system.log ++ [Occurrence.reading peer.serial] } := by
    apply @Ordered.of_peers system { system with
      log := system.log ++ [Occurrence.reading peer.serial] } ordered _ rfl (.inl rfl) rfl
    intro serial
    rw [history, List.filterMap_append]
    exact List.append_nil _
  split at attended
  · cases attended
  · obtain rfl := Except.ok.inj attended
    exact logged.destroyConnection _ _
  · rename_i connection line outcome
    obtain rfl := Except.ok.inj attended
    have stage := readInput_ordered keeps outcome
    rw [ReadOutcome.Ordered, ← noteBuffering_state connection answer.buffered] at stage
    obtain ⟨reported, talking⟩ := logged.report quiet member stage none
    refine ⟨reported.serials, reported.bounded, reported.staged, reported.fresh,
      fun serial queued_line queued => ?_, reported.traced⟩
    cases queued
    rw [Stage.eq_talking stage] at talking
    exact talking
  · rename_i connection event moved outcome
    obtain rfl := Except.ok.inj attended
    have stage := readInput_ordered keeps outcome
    cases event with
    | none =>
        rw [ReadOutcome.Ordered, ← noteBuffering_state connection answer.buffered] at stage
        exact (logged.setConnection member stage).moveTo _ _
    | some occurred =>
        obtain ⟨type, line⟩ := occurred
        rw [ReadOutcome.Ordered, ← noteBuffering_state connection answer.buffered] at stage
        obtain ⟨reported, -⟩ := logged.report quiet member stage line
        rw [emitAny, moveTo_emit]
        exact reported.moveTo _ _

/-- Sending takes a connection to the next stage only to report its closing. -/
theorem sendOutput_stage {before after : Connection} {report : Connection.SendReport}
    (through : before.state.stage = .silent →
      SendsThrough before fun connection => (connection.sendOutput true).map Prod.fst)
    (sent : before.sendOutput true = .ok (after, report)) :
    match report with
    | .nothing => after.state.stage = before.state.stage
    | .closeEvent => before.state.stage.next .close = some after.state.stage
    | .destroyed => True := by
  have whole := sent
  rw [sendOutput] at sent
  split at sent
  · simp only [Bool.not_true, Bool.false_eq_true, if_false] at sent
    split at sent
    · rename_i flushing
      cases sent
      rw [flushing]
      rfl
    · split at sent
      · cases sent
        trivial
      · cases sent
        rfl
  · obtain ⟨middle, flushed, sent⟩ := FallibleRun.bind_ok_iff.mp sent
    cases sent
    have sends := flushOutput_sent flushed
    refine sends.onward.stage fun silent => sends.same ?_
    have applied : (before.sendOutput true).map Prod.fst = .ok after := by
      rw [whole]
      rfl
    exact through silent after applied

theorem Ordered.processWrite {system after : System} {socket : Nat} (ordered : Ordered system)
    (quiet : system.queuedEvent = none)
    (through : ∀ peer ∈ system.peers, peer.connection.socket = socket →
      peer.connection.state.stage = .silent →
      SendsThrough peer.connection fun connection => (connection.sendOutput true).map Prod.fst)
    (processed : system.processWrite socket = .ok after) : Ordered after := by
  rw [System.processWrite] at processed
  split at processed
  · cases processed
  · rename_i peer found
    have member : peer ∈ system.peers := List.mem_of_find?_eq_some found
    have here : peer.connection.socket = socket := by simpa using List.find?_some found
    have sends := through peer member here
    split at processed
    · cases processed
    · rename_i connection sent
      obtain rfl := Except.ok.inj processed
      exact ordered.setConnection member (sendOutput_stage sends sent)
    · rename_i connection sent
      obtain rfl := Except.ok.inj processed
      exact (ordered.report quiet member (sendOutput_stage sends sent) none).1
    · obtain rfl := Except.ok.inj processed
      exact ordered.destroyConnection _ _

/-- Operations that leave every connection in its stage. -/
theorem Ordered.onPeers {system after : System} {condition : Peer → Bool}
    {operation : Connection → Except Fault Connection} (ordered : Ordered system)
    (moves : ∀ peer ∈ system.peers, condition peer = true → ∀ connection,
      operation peer.connection = .ok connection →
      connection.state.stage = peer.connection.state.stage)
    (applied : system.onPeers condition operation = .ok after) : Ordered after := by
  rw [System.onPeers] at applied
  obtain ⟨peers, done, rfl⟩ := FallibleRun.map_ok_iff.mp applied
  have pairs := forPeers_forall₂ done
  apply @Ordered.update system { system with peers := peers } ordered (fun _ => rfl) rfl
    (.inl rfl)
  · rw [show peers.map Peer.serial = system.peers.map Peer.serial from
      map_eq_of_aligned (pairs.imp fun _ _ pair => pair.1)]
    exact ordered.serials
  · intro peer member
    have listed := (List.forall₂_and_left _ _).mpr ⟨fun peer member => member, pairs⟩
    obtain ⟨old, -, old_member, serial, change⟩ := exists_of_mem_right listed member
    refine ⟨old, old_member, serial, ?_⟩
    split at change
    · exact moves old old_member ‹_› peer.connection change
    · rw [change]

/-- What keeps every connection from closing before its session has begun: the application closes
none, and none is closed by the end or failure of its input, by an answer to its request or by a
send that fails. -/
def Lasting (system : System) : SystemAction → Prop
  | .poll answer => system.queuedEvent = none → ∀ peer ∈ system.peers,
      peer.connection.state.stage = .silent →
        (system.pendingReads.head? = some peer.connection.socket →
          (peer.connection.state = .tlsHandshake → answer.handshake = .done) →
          KeepsAlive system.services answer.site peer.service (system.optionsOf peer.service)
            peer.connection) ∧
        (system.pendingReads = [] → system.pendingWrites.head? = some peer.connection.socket →
          SendsThrough peer.connection fun connection => (connection.sendOutput true).map Prod.fst)
  | .close serial =>
      ∀ peer ∈ system.peers, peer.serial = serial → peer.connection.state.stage ≠ .silent
  | .closeService service =>
      ∀ peer ∈ system.peers, peer.service = service → peer.connection.state.stage ≠ .silent
  | .queue serial message =>
      ∀ peer ∈ system.peers, peer.serial = serial → peer.connection.state.stage = .silent →
        SendsThrough peer.connection fun connection => connection.queueSingle message
  | .broadcast service message =>
      ∀ peer ∈ system.peers, peer.service = service → peer.connection.state.stage = .silent →
        SendsThrough peer.connection fun connection => connection.queueBroadcastTo message
  | .acceptFile _ _ _ => True

theorem Ordered.poll {system after : System} {answer : PollAnswer} (ordered : Ordered system)
    (lasting : system.Lasting (.poll answer)) (polled : system.poll answer = .ok after) :
    Ordered after := by
  rw [System.poll] at polled
  split at polled
  · rename_i serial line queued
    obtain rfl := Except.ok.inj polled
    exact ordered.deliver queued
  · rename_i quiet
    have stays := lasting quiet
    split at polled
    · rename_i _ socket reads pending
      have taken : Ordered { system with pendingReads := reads } := by
        exact ordered.of_peers (fun _ => rfl) rfl (.inl rfl) rfl
      rw [processRead] at polled
      split at polled
      · exact taken.newConnect polled
      · split at polled
        · rename_i peer found
          have member : peer ∈ system.peers := List.mem_of_find?_eq_some found
          have here : peer.connection.socket = socket := by simpa using List.find?_some found
          refine taken.attendRead quiet member (fun silent => ?_) polled
          refine (stays peer member silent).1 ?_
          rw [pending, here]
          rfl
        · cases polled
    · rename_i socket writes idle pending
      have taken : Ordered { system with pendingWrites := writes } := by
        exact ordered.of_peers (fun _ => rfl) rfl (.inl rfl) rfl
      refine taken.processWrite quiet (fun peer member here silent => ?_) polled
      refine (stays peer member silent).2 idle ?_
      rw [pending, here]
      rfl
    · obtain rfl := Except.ok.inj polled
      exact ordered.of_peers (fun _ => rfl) rfl (.inl rfl) rfl

/-- Closing connections whose session has begun. -/
theorem Ordered.closePeers {system after : System} {condition : Peer → Bool}
    (ordered : Ordered system)
    (begun : ∀ peer ∈ system.peers, condition peer = true →
      peer.connection.state.stage ≠ .silent)
    (closed : system.onPeers condition (fun connection => .ok connection.closeConnection) =
      .ok after) : Ordered after := by
  apply ordered.onPeers _ closed
  intro peer member chosen connection applied
  obtain rfl := Except.ok.inj applied
  exact Onward.stage (.inr (closed_closeConnection _))
    fun silent => absurd silent (begun peer member chosen)

/-- Sending to connections, none of which fails before its session has begun. -/
theorem Ordered.sendPeers {system after : System} {condition : Peer → Bool}
    {operation : Connection → Except Fault Connection} (ordered : Ordered system)
    (sends : ∀ before connection, operation before = .ok connection → Sent before connection)
    (through : ∀ peer ∈ system.peers, condition peer = true →
      peer.connection.state.stage = .silent → SendsThrough peer.connection operation)
    (sent : system.onPeers condition operation = .ok after) : Ordered after := by
  apply ordered.onPeers _ sent
  intro peer member chosen connection applied
  have done := sends peer.connection connection applied
  exact done.onward.stage fun silent =>
    done.same (through peer member chosen silent connection applied)

/-- Lasting steps keep events in order. -/
theorem Ordered.step {system after : System} {action : SystemAction} (ordered : Ordered system)
    (lasting : system.Lasting action) (moved : system.step action = .ok after) :
    Ordered after := by
  cases action with
  | poll answer => exact ordered.poll lasting moved
  | close serial =>
      apply ordered.closePeers _ moved
      exact fun peer member chosen => lasting peer member (by simpa using chosen)
  | closeService service =>
      rw [System.step] at moved
      split at moved
      · obtain rfl := Except.ok.inj moved
        exact ordered
      · rename_i found _
        split at moved
        · cases moved
        · let deaf (listener : Listener) : Listener :=
            if listener.service = service then { listener with readable := false } else listener
          let closing : System := { system with
            services := system.services.set service { found with closing := true }
            listeners := system.listeners.map deaf }
          have closing_ordered : Ordered closing :=
            ordered.of_peers (fun _ => rfl) rfl (.inl rfl) rfl
          apply closing_ordered.closePeers _ moved
          exact fun peer member chosen => lasting peer member (by simpa using chosen)
  | queue serial message =>
      apply ordered.sendPeers (fun _ _ => queueSingle_sent) _ moved
      exact fun peer member chosen => lasting peer member (by simpa using chosen)
  | broadcast service message =>
      apply ordered.sendPeers (fun _ _ => queueBroadcastTo_sent) _ moved
      exact fun peer member chosen => lasting peer member (by simpa using chosen)
  | acceptFile service socket lines =>
      rw [System.step] at moved
      obtain ⟨middle, added, rfl⟩ := FallibleRun.map_ok_iff.mp moved
      exact (ordered.addPeer added).2 rfl

/-- Nothing has happened yet. -/
structure Quiet (system : System) : Prop where
  peers : system.peers = []
  queuedEvent : system.queuedEvent = none
  log : system.log = []

theorem Quiet.ordered {system : System} (quiet : Quiet system) : Ordered system := by
  have nothing : ∀ serial, system.history serial = [] := by
    intro serial
    rw [history, quiet.log]
    rfl
  refine ⟨?_, fun peer member => ?_, fun peer member => ?_, fun serial _ => nothing serial,
    fun serial line queued => ?_, fun serial => ?_⟩
  · rw [quiet.peers]
    exact List.nodup_nil
  · rw [quiet.peers] at member
    cases member
  · rw [quiet.peers] at member
    cases member
  · rw [quiet.queuedEvent] at queued
    cases queued
  · rw [nothing]
    rfl

/-- In lasting runs the events of every connection are a prefix of one CONNECT, any number of INPUTs
and one CLOSE. -/
theorem ordered_of_run {start final : System} {actions : List SystemAction} (quiet : Quiet start)
    (guarded : FallibleRun.Guarded step Lasting start actions)
    (reached : FallibleRun.run step start actions = .ok final) (serial : Nat) :
    ∃ count, final.history serial <+: .connect :: (List.replicate count .input ++ [.close]) := by
  have ordered := guarded.invariant Ordered
    (fun _ _ _ ordered lasting moved => ordered.step lasting moved) quiet.ordered reached
  obtain ⟨stage, traced⟩ := Option.isSome_iff_exists.mp (ordered.traced serial)
  exact Stage.silent_after traced

/-- When every session has begun, none can be closed too early. -/
theorem lasting_of_begun {system : System} (action : SystemAction)
    (begun : ∀ peer ∈ system.peers, peer.connection.state.stage ≠ .silent) :
    system.Lasting action := by
  cases action with
  | poll answer => exact fun _ peer member silent => absurd silent (begun peer member)
  | close serial => exact fun peer member _ => begun peer member
  | closeService service => exact fun peer member _ => begun peer member
  | queue serial message => exact fun peer member _ silent => absurd silent (begun peer member)
  | broadcast service message =>
      exact fun peer member _ silent => absurd silent (begun peer member)
  | acceptFile service socket lines => trivial

/-- A client is accepted, says something and is closed. -/
def sampleTalk : List SystemAction :=
  [sampleTurn [3] [] none, sampleTurn [] [] (some ⟨4, [.bytes (ascii "play
")], []⟩),
    sampleTurn [4] [] none, sampleTurn [] [] none, .close 0, sampleTurn [] [4] none,
    sampleTurn [] [] none]

theorem sampleTalk_ordered : ∃ final,
    FallibleRun.run step (sampleSystem false) sampleTalk = .ok final ∧
      final.history 0 = [.connect, .input, .close] ∧
      ∃ count, final.history 0 <+: .connect :: (List.replicate count .input ++ [.close]) := by
  refine ⟨_, rfl, rfl, ?_⟩
  apply @ordered_of_run (sampleSystem false) _ sampleTalk ⟨rfl, rfl, rfl⟩ _ rfl
  exact .cons (lasting_of_begun _ (by decide)) rfl (.cons (lasting_of_begun _ (by decide)) rfl
    (.cons (lasting_of_begun _ (by decide)) rfl (.cons (lasting_of_begun _ (by decide)) rfl
    (.cons (lasting_of_begun _ (by decide)) rfl (.cons (lasting_of_begun _ (by decide)) rfl
    (.cons (lasting_of_begun _ (by decide)) rfl trivial))))))

/-- A web client sends a request without a version. -/
def sampleRequest : List SystemAction :=
  [sampleTurn [3] [] none,
    sampleTurn [] [] (some ⟨4, [.bytes (ascii "GET /x\n\n")], [.sent 4096]⟩),
    sampleTurn [4] [] none, sampleTurn [] [] none, sampleTurn [4] [] none,
    sampleTurn [] [] none, sampleTurn [] [4] none, sampleTurn [] [] none]

set_option maxRecDepth 4000 in
/-- The client is answered and let go; its closing is reported, although it never was. -/
theorem sampleRequest_stray : ∃ final,
    FallibleRun.run step (sampleSystem true) sampleRequest = .ok final ∧
      final.history 0 = [.close] ∧
      ¬∃ count, final.history 0 <+: .connect :: (List.replicate count .input ++ [.close]) := by
  refine ⟨_, rfl, rfl, ?_⟩
  rintro ⟨count, ordered⟩
  cases (List.cons_prefix_cons.mp ordered).1

end System

end Football
