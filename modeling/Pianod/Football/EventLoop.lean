import Pianod.Football.HttpRequest

/-!
# The event loop

One turn of the poll loop delivers a queued event, refreshes the readiness masks, or attends to the
next ready descriptor: reads before writes, each in the order of descriptors.  The masks are a
snapshot; what happens while a round is worked off does not change them, except that an
unregistered descriptor is taken out.  Between turns the application may queue messages and close
connections.
-/

namespace Football

open Foundation

inductive EventType where
  | connect
  | input
  | close
deriving DecidableEq, Repr

/-- A service and the parent whose names it shares. -/
structure Service where
  options : ServiceOptions
  parent : Option Nat
  /-- Whether it is being closed. -/
  closing : Bool
deriving DecidableEq, Repr

/-- A socket on which a service listens. -/
structure Listener where
  socket : Nat
  /-- The service that accepts its connections. -/
  service : Nat
  http : Bool
  encrypted : Bool
  /-- Whether the socket is watched for connections. -/
  readable : Bool
deriving DecidableEq, Repr

/-- A connection of a service; serial numbers are never reused. -/
structure Peer where
  /-- The number by which the log knows the connection. -/
  serial : Nat
  /-- The service that it belongs to. -/
  service : Nat
  connection : Connection
deriving DecidableEq, Repr

/-- What happened: an event was returned, or input was attended to. -/
inductive Occurrence where
  | event (type : EventType) (serial : Nat) (line : Option InputLine)
  | reading (serial : Nat)
deriving DecidableEq, Repr

structure System where
  services : List Service
  listeners : List Listener
  /-- All connections; those of one service stand in the order of its own list. -/
  peers : List Peer
  /-- Descriptors of this round that are still to be attended to. -/
  pendingReads : List Nat
  /-- The same for output. -/
  pendingWrites : List Nat
  /-- The event that is delivered at the next turn. -/
  queuedEvent : Option (Nat × InputLine)
  /-- The number of the next connection. -/
  nextSerial : Nat
  /-- What happened, in this order. -/
  log : List Occurrence
deriving DecidableEq, Repr

/-- The result of a TLS handshake. -/
inductive Handshake where
  | done
  | again
  | fatal
deriving DecidableEq, Repr

/-- The connection an `accept` call returns. -/
structure Accepted where
  socket : Nat
  /-- What the peer is going to send. -/
  arrivals : List Arrival
  /-- What the system is going to answer to each send. -/
  sends : List SendResult

/-- What the outside world answers during one turn. -/
structure PollAnswer where
  /-- The sockets that are readable. -/
  reads : List Nat
  /-- The sockets that are writable. -/
  writes : List Nat
  /-- The connection that `accept` returns. -/
  accepted : Option Accepted
  /-- The result of a handshake. -/
  handshake : Handshake
  /-- Whether TLS has buffered data after a read. -/
  buffered : Bool
  /-- The files and the configuration. -/
  site : Site

namespace System

/-- A connection that was just accepted or opened. -/
def newConnection (socket : Nat) (state : SocketState) (http encrypted isFile : Bool)
    (arrivals : List Arrival) (sends : List SendResult) : Connection where
  socket := socket
  state := state
  greeted := false
  http := http
  encrypted := encrypted
  isFile := isFile
  request := .none
  assembly := .empty
  out := .empty
  input := ⟨[], 0⟩
  readable := true
  writable := false
  buffering := false
  arrivals := arrivals
  sends := sends
  journal := []
  wasClosing := false

/-- Whether a descriptor is in the registry. -/
def registered (system : System) (socket : Nat) : Bool :=
  system.listeners.any (·.socket == socket) || system.peers.any (·.connection.socket == socket)

/-- Register a new connection of a service. -/
def addPeer (system : System) (service : Nat) (connection : Connection) : Except Fault System :=
  if system.registered connection.socket then .error (.assertion "sockets [socket_fd] == NULL")
  else .ok { system with
    peers := system.peers ++ [⟨system.nextSerial, service, connection⟩]
    nextSerial := system.nextSerial + 1 }

/-- Return an event. -/
def emit (system : System) (type : EventType) (serial : Nat) (line : Option InputLine) : System :=
  { system with log := system.log ++ [.event type serial line] }

/-- Keep a line to be delivered as an event at the next turn. -/
def queueEvent (system : System) (serial : Nat) (line : InputLine) : System :=
  { system with queuedEvent := some (serial, line) }

/-- Put a connection back. -/
def setConnection (system : System) (serial : Nat) (connection : Connection) : System :=
  { system with peers := system.peers.map fun peer =>
      if peer.serial = serial then { peer with connection := connection } else peer }

/-- Close and destroy a connection; its descriptor leaves the registry and the masks. -/
def destroyConnection (system : System) (serial socket : Nat) : System :=
  { system with
    peers := system.peers.filter (·.serial ≠ serial)
    pendingReads := system.pendingReads.filter (· ≠ socket)
    pendingWrites := system.pendingWrites.filter (· ≠ socket) }

/-- Give a connection to another service, at the end of its list. -/
def transfer (system : System) (serial service : Nat) : System :=
  { system with
    peers := system.peers.filter (·.serial ≠ serial) ++
      (system.peers.filter (·.serial = serial)).map fun peer => { peer with service := service } }

/-- Give a connection to another service, if there is one to go to. -/
def moveTo (system : System) (serial : Nat) : Option Nat → System
  | none => system
  | some service => system.transfer serial service

/-- Return an event, if there is one. -/
def emitAny (system : System) (serial : Nat) : Option (EventType × Option InputLine) → System
  | none => system
  | some (type, line) => system.emit type serial line

/-- The services that share a parent: the parent, then its children from the newest on. -/
def family (services : List Service) (service : Nat) : List Nat :=
  let root := ((services[service]?).bind Service.parent).getD service
  let children := (List.range services.length).filter fun index =>
    (services[index]?).bind Service.parent == some root
  root :: children.reverse

/-- The first of some services with a name; a nameless service stops the search. -/
def findNamed (services : List Service) (name : Text) : List Nat → Except Fault (Option Nat)
  | [] => .ok none
  | index :: rest =>
      match (services[index]?).bind fun service => service.options.name with
      | none => .error .nullDereference
      | some known =>
          if known.strcasecmp name == .eq then .ok (some index) else findNamed services name rest

/-- What reading on a connection leads to. -/
inductive ReadOutcome where
  /-- The connection goes on, possibly with an event and possibly in another service. -/
  | goesOn (connection : Connection) (event : Option (EventType × Option InputLine))
      (service : Option Nat)
  /-- An event now, and its line as another event later. -/
  | fallsBack (connection : Connection) (line : InputLine)
  | destroyed

/-- Interpret a line received before a session was established. -/
def readGreeting (services : List Service) (service : Nat) (options : ServiceOptions)
    (connection : Connection) (line : InputLine) : Except Fault ReadOutcome :=
  match line.argv.map Term.word with
  | [] => .ok (.goesOn connection none none)
  | command :: arguments =>
      if options.greetingMode ≠ .off ∧ command.strcasecmp options.greeting = .eq then
        let line_mode := { connection with state := .opened, http := false }
        match arguments with
        | [] => .ok (.goesOn line_mode (some (.connect, some line)) none)
        | name :: _ =>
            match findNamed services name (family services service) with
            | .error fault => .error fault
            | .ok none => .ok .destroyed
            | .ok (some other) =>
                .ok (.goesOn line_mode (some (.connect, some line)) (some other))
      else if httpCommand command then
        .ok (.goesOn { connection with
          request :=
            collectHttpRequest options.name.isSome (command :: arguments) connection.request
          state := .gatheringHeader
          http := true } none none)
      else if options.greetingMode = .fallback then
        .ok (.fallsBack { connection with state := .opened, http := false } line)
      else .ok .destroyed

/-- Execute a request on behalf of a service. -/
def executeAnswer (site : Site) (connection : Connection) (service : Option Nat) :
    HttpAnswer → Except Fault ReadOutcome
  | .respond messages tryAgain =>
      (connection.respond messages tryAgain).map fun after => .goesOn after none service
  | .elsewhere _ =>
      (connection.respond [httpResponse site "404 Not Found"] false).map fun after =>
        .goesOn after none service
  | .upgrade key =>
      (connection.upgradeWebsocket (websocketGreeting site key)).map fun after =>
        .goesOn after (some (.connect, none)) service

/-- The service in which a request is executed, when it has to be looked for. -/
def executingService (services : List Service) (site : Site) (service : Nat)
    (options : ServiceOptions)
    (connection : Connection) : Except Fault (Option Nat × ServiceOptions) :=
  match httpAnswer site options connection.encrypted connection.request with
  | .elsewhere name =>
      match findNamed services name (family services service) with
      | .error fault => .error fault
      | .ok none => .ok (none, options)
      | .ok (some other) =>
          .ok (some other, ((services[other]?).map Service.options).getD options)
  | _ => .ok (none, options)

/-- Interpret the collected request, possibly after a transfer to the service it names. -/
def executeHttpRequest (services : List Service) (site : Site) (service : Nat)
    (options : ServiceOptions)
    (connection : Connection) : Except Fault ReadOutcome :=
  match executingService services site service options connection with
  | .error fault => .error fault
  | .ok (moved, options) =>
      executeAnswer site connection moved
        (httpAnswer site options connection.encrypted connection.request)

/-- Read input based on protocol and state, once a TLS handshake is done. -/
def readSession (services : List Service) (site : Site) (service : Nat) (options : ServiceOptions)
    (connection : Connection) : Except Fault ReadOutcome :=
  match connection.state with
  | .tlsHandshake => .error (.assertion "0")
  | .greeting =>
      match connection.readLineInput with
      | .error fault => .error fault
      | .ok (none, after) => .ok (.goesOn after none none)
      | .ok (some line, after) => readGreeting services service options after line
  | .gatheringHeader =>
      match connection.readLineInput with
      | .error fault => .error fault
      | .ok (none, after) => .ok (.goesOn after none none)
      | .ok (some line, after) =>
          if line.argv.isEmpty then executeHttpRequest services site service options after
          else .ok (.goesOn
            { after with request := collectHttpParameter line.command after.request } none none)
  | .opened =>
      let received :=
        if connection.http then connection.readWebsocketInput else connection.readLineInput
      match received with
      | .error fault => .error fault
      | .ok (line, after) =>
          let event := line.map fun line => (EventType.input, some line)
          if !connection.http && options.greetingMode == .allow && !connection.greeted then
            let after := { after with greeted := line.isSome }
            let isGreeting := line.any fun line =>
              line.argv.head?.any fun term => term.word.strcasecmp options.greeting == .eq
            .ok (.goesOn after (if isGreeting then none else event) none)
          else .ok (.goesOn after event none)
  | .flushing => .error (.assertion "0")
  | .closing => .error (.assertion "0")

/-- Read input from a connection. -/
def readInput (services : List Service) (answer : PollAnswer) (service : Nat)
    (options : ServiceOptions)
    (connection : Connection) : Except Fault ReadOutcome :=
  if connection.state = .tlsHandshake then
    match answer.handshake with
    | .again => .ok (.goesOn connection none none)
    | .fatal => .ok .destroyed
    | .done =>
        readSession services answer.site service options { connection with state := .greeting }
  else readSession services answer.site service options connection

/-- Note whether TLS has more to read. -/
def noteBuffering (connection : Connection) (buffered : Bool) : Connection :=
  if connection.encrypted then
    { connection with
      buffering := decide (connection.state.rank ≤ SocketState.opened.rank) &&
        connection.readable && buffered }
  else connection

/-- Attend to a connection that is ready for reading. -/
def attendRead (system : System) (answer : PollAnswer) (peer : Peer) : Except Fault System :=
  let options := ((system.services[peer.service]?).map Service.options).getD
    ⟨ascii "HELO", none, none, .off⟩
  let reading : System := { system with log := system.log ++ [Occurrence.reading peer.serial] }
  match readInput system.services answer peer.service options peer.connection with
  | .error fault => .error fault
  | .ok .destroyed => .ok (reading.destroyConnection peer.serial peer.connection.socket)
  | .ok (.fallsBack connection line) =>
      let updated := reading.setConnection peer.serial (noteBuffering connection answer.buffered)
      .ok ((updated.queueEvent peer.serial line).emit .connect peer.serial none)
  | .ok (.goesOn connection event moved) =>
      let updated := reading.setConnection peer.serial (noteBuffering connection answer.buffered)
      .ok ((updated.moveTo peer.serial moved).emitAny peer.serial event)

/-- Accept a connection on a listening socket. -/
def newConnect (system : System) (answer : PollAnswer) (listener : Listener) :
    Except Fault System :=
  match answer.accepted with
  | none => .ok system
  | some accepted =>
      let mode := ((system.services[listener.service]?).map fun service =>
        service.options.greetingMode).getD .off
      let state : SocketState :=
        if listener.encrypted then .tlsHandshake
        else if listener.http || mode == .require || mode == .fallback then .greeting
        else .opened
      let connection := newConnection accepted.socket state listener.http listener.encrypted false
        accepted.arrivals accepted.sends
      (system.addPeer listener.service connection).map fun added =>
        if state = .opened then added.emit .connect system.nextSerial none else added

/-- Attend to a descriptor that is ready for reading. -/
def processRead (system : System) (answer : PollAnswer) (socket : Nat) : Except Fault System :=
  match system.listeners.find? (·.socket == socket) with
  | some listener => system.newConnect answer listener
  | none =>
      match system.peers.find? (·.connection.socket == socket) with
      | some peer => system.attendRead answer peer
      | none => .error (.assertion "sockets [socket_fd]")

/-- Attend to a descriptor that is ready for writing. -/
def processWrite (system : System) (socket : Nat) : Except Fault System :=
  match system.peers.find? (·.connection.socket == socket) with
  | none => .error (.assertion "sockets [socket_fd]")
  | some peer =>
      match peer.connection.sendOutput true with
      | .error fault => .error fault
      | .ok (connection, .nothing) => .ok (system.setConnection peer.serial connection)
      | .ok (connection, .closeEvent) =>
          .ok ((system.setConnection peer.serial connection).emit .close peer.serial none)
      | .ok (_, .destroyed) => .ok (system.destroyConnection peer.serial socket)

/-- The number of descriptors to look at. -/
def activeSockets (system : System) : Nat :=
  ((system.listeners.map Listener.socket ++
    system.peers.map fun peer => peer.connection.socket).foldl
    max 0) + 1

/-- Whether a descriptor is looked at for reading. -/
def readSelected (system : System) (socket : Nat) : Bool :=
  system.listeners.any (fun listener => listener.socket == socket && listener.readable) ||
    system.peers.any fun peer => peer.connection.socket == socket &&
      (peer.connection.readable || peer.connection.buffering)

/-- Whether a descriptor is looked at for writing. -/
def writeSelected (system : System) (socket : Nat) : Bool :=
  system.peers.any fun peer => peer.connection.socket == socket && peer.connection.writable

/-- Refresh the readiness masks. -/
def selectSockets (system : System) (answer : PollAnswer) : System :=
  { system with
    pendingReads := (List.range system.activeSockets).filter fun socket =>
      system.readSelected socket && socket ∈ answer.reads
    pendingWrites := (List.range system.activeSockets).filter fun socket =>
      system.writeSelected socket && socket ∈ answer.writes }

/-- One turn of the poll loop. -/
def poll (system : System) (answer : PollAnswer) : Except Fault System :=
  match system.queuedEvent with
  | some (serial, line) =>
      .ok ({ system with queuedEvent := none }.emit .input serial (some line))
  | none =>
      match system.pendingReads, system.pendingWrites with
      | socket :: reads, _ => { system with pendingReads := reads }.processRead answer socket
      | [], socket :: writes => { system with pendingWrites := writes }.processWrite socket
      | [], [] => .ok (system.selectSockets answer)

/-- What moves the system. -/
inductive SystemAction where
  | poll (answer : PollAnswer)
  | close (serial : Nat)
  | closeService (service : Nat)
  | queue (serial : Nat) (message : Text)
  | broadcast (service : Nat) (message : Text)
  | acceptFile (service socket : Nat) (lines : List Arrival)

/-- Apply a fallible operation to the connections that meet a condition. -/
def forPeers (condition : Peer → Bool) (operation : Connection → Except Fault Connection) :
    List Peer → Except Fault (List Peer)
  | [] => .ok []
  | peer :: peers =>
      let first := if condition peer then operation peer.connection else .ok peer.connection
      match first with
      | .error fault => .error fault
      | .ok connection =>
          (forPeers condition operation peers).map fun rest =>
            { peer with connection := connection } :: rest

/-- Apply an operation to some of the connections of a system. -/
def onPeers (system : System) (condition : Peer → Bool)
    (operation : Connection → Except Fault Connection) : Except Fault System :=
  (forPeers condition operation system.peers).map fun peers => { system with peers := peers }

/-- What an action does. -/
def step (system : System) : SystemAction → Except Fault System
  | .poll answer => system.poll answer
  | .close serial =>
      system.onPeers (·.serial == serial) fun connection => .ok connection.closeConnection
  | .closeService service =>
      match system.services[service]? with
      | none => .ok system
      | some found =>
          if found.closing then .error (.assertion "service->state == FB_SOCKET_STATE_OPEN")
          else
            let deaf (listener : Listener) : Listener :=
              if listener.service = service then { listener with readable := false } else listener
            let closing : System := { system with
              services := system.services.set service { found with closing := true }
              listeners := system.listeners.map deaf }
            closing.onPeers (·.service == service) fun connection =>
              .ok connection.closeConnection
  | .queue serial message =>
      system.onPeers (·.serial == serial) fun connection => connection.queueSingle message
  | .broadcast service message =>
      system.onPeers (·.service == service) fun connection => connection.queueBroadcastTo message
  | .acceptFile service socket lines =>
      (system.addPeer service (newConnection socket .opened false false true lines [])).map
        fun added => added.emit .connect system.nextSerial none

end System

end Football
