import Pianod.Football.Connection
import Pianod.Football.HttpRequest
import Pianod.Football.ServiceMembers
import Pianod.Football.SocketRegistry

/-!
# Accepting connections

A connection is built in steps, and each step may fail: memory is short, the client has gone, the
file is not there, the descriptor does not fit the registry.  What was built until then has to be
taken down again.  A ledger keeps what a call acquires and releases.
-/

namespace Football

open Foundation

/-- The listening sockets of a service. -/
inductive SocketId where
  | lineIp4
  | lineIp6
  | httpIp4
  | httpIp6
  | httpsIp4
  | httpsIp6
deriving DecidableEq, Repr

namespace SocketId

def all : List SocketId := [.lineIp4, .lineIp6, .httpIp4, .httpIp6, .httpsIp4, .httpsIp6]

def http : SocketId → Bool
  | .lineIp4 | .lineIp6 => false
  | _ => true

def ip6 : SocketId → Bool
  | .lineIp6 | .httpIp6 | .httpsIp6 => true
  | _ => false

def encrypted : SocketId → Bool
  | .httpsIp4 | .httpsIp6 => true
  | _ => false

end SocketId

/-- What a connection is made of; a file brings its descriptor along. -/
inductive Part where
  | record
  | context
  | session
  | socket
  | filename
  | file
deriving DecidableEq, Repr

/-- The steps that may fail when they are reached. -/
inductive SetupStep where
  | expandConnections
  | callocConnection
  | callocContext
  | tlsCredentials
  | gnutlsInit
  | gnutlsPrioritySet
  | gnutlsCredentialsSet
  | accept
  | strdup
  | fopen
  | reallocSockets
  | mallocSocket
deriving DecidableEq, Repr

/-- What the outside world answers: which steps fail, where a record is allocated and which
descriptor is opened. -/
structure SetupAnswer where
  fails : SetupStep → Bool
  address : Nat
  descriptor : Nat

/-- What a call acquired and released so far; the source keeps no such record. -/
structure Ledger where
  acquired : List Part
  released : List Part
deriving DecidableEq, Repr

namespace Ledger

def empty : Ledger := ⟨[], []⟩

def acquire (ledger : Ledger) (part : Part) : Ledger :=
  { ledger with acquired := ledger.acquired ++ [part] }

def release (ledger : Ledger) (part : Part) : Ledger :=
  { ledger with released := ledger.released ++ [part] }

/-- Release a part that may be missing; freeing a null pointer does nothing. -/
def releaseIf (ledger : Ledger) (present : Bool) (part : Part) : Ledger :=
  if present then ledger.release part else ledger

/-- Whatever was acquired was released once. -/
def Settled (ledger : Ledger) : Prop :=
  ledger.acquired.Nodup ∧ ledger.released.Perm ledger.acquired

instance (ledger : Ledger) : Decidable ledger.Settled := inferInstanceAs (Decidable (_ ∧ _))

end Ledger

/-- A connection while it is set up. -/
structure NewConnection where
  /-- Where the record is. -/
  address : Nat
  ip6 : Bool
  http : Bool
  encrypted : Bool
  state : SocketState
  socket : Nat
  /-- Whether it has a context of the application. -/
  context : Bool
  filename : Option Text
  /-- Whether a file is open for it. -/
  file : Bool
deriving DecidableEq, Repr

/-- A connection of which nothing is filled in; the first state of the enumeration is zero. -/
def NewConnection.zeroed (address : Nat) : NewConnection where
  address := address
  ip6 := false
  http := false
  encrypted := false
  state := .tlsHandshake
  socket := 0
  context := false
  filename := none
  file := false

/-- The event that tells of a new connection. -/
structure ConnectEvent where
  socket : Nat
  /-- Whether the event carries a context. -/
  context : Bool
  connection : NewConnection
deriving DecidableEq, Repr

/-- A service, the registry and what a call has built so far. -/
structure Acceptor where
  sockets : SocketId → Nat
  contextSize : Nat
  greetingMode : GreetingMode
  /-- The addresses of the connections of the service. -/
  connections : List Nat
  /-- How many slots the array of connections has. -/
  connectionsSize : Nat
  tlsInitialized : Bool
  registry : Registry
  /-- What the calls have acquired and released. -/
  ledger : Ledger

namespace Acceptor

def acquire (server : Acceptor) (part : Part) : Acceptor :=
  { server with ledger := server.ledger.acquire part }

def release (server : Acceptor) (part : Part) : Acceptor :=
  { server with ledger := server.ledger.release part }

def releaseIf (server : Acceptor) (present : Bool) (part : Part) : Acceptor :=
  { server with ledger := server.ledger.releaseIf present part }

/-- Free a connection's context and the connection. -/
def free (server : Acceptor) (connection : NewConnection) : Acceptor :=
  (server.releaseIf connection.context .context).release .record

/-- Prepare a new connection: room in the array, the record, and a context if there is one. -/
def newConnection (server : Acceptor) (answer : SetupAnswer) :
    Except Fault (Option NewConnection × Acceptor) :=
  if server.connectionsSize < server.connections.length then
    .error (.assertion "service->connection_count <= service->connections_size")
  else match ServiceHeap.expandcalloc server.connectionsSize (server.connections.length + 1)
      (!answer.fails .expandConnections) with
    | none => .ok (none, server)
    | some size =>
        let expanded := { server with connectionsSize := size }
        if answer.fails .callocConnection then .ok (none, expanded)
        else
          let allocated := expanded.acquire .record
          let connection := NewConnection.zeroed answer.address
          if server.contextSize = 0 then .ok (some connection, allocated)
          else if answer.fails .callocContext then .ok (none, allocated.release .record)
          else .ok (some { connection with context := true }, allocated.acquire .context)

/-- Initialize the TLS session of a new connection. -/
def setupConnectionTls (server : Acceptor) (answer : SetupAnswer) :
    Except Fault (Bool × Acceptor) :=
  if !server.tlsInitialized then .error (.assertion "fb_tls_initialized")
  else if answer.fails .tlsCredentials then .ok (false, server)
  else if answer.fails .gnutlsInit then .ok (false, server)
  else
    let begun := server.acquire .session
    .ok (!answer.fails .gnutlsPrioritySet && !answer.fails .gnutlsCredentialsSet, begun)

/-- Initialize the TLS session of a connection that arrives on an encrypted socket. -/
def secureConnection (server : Acceptor) (id : SocketId) (answer : SetupAnswer) :
    Except Fault (Bool × Acceptor) :=
  if id.encrypted then server.setupConnectionTls answer else .ok (true, server)

/-- Add a connection at the end of the array. -/
def addToService (server : Acceptor) (connection : NewConnection) : Except Fault Acceptor :=
  if server.connections.length < server.connectionsSize then
    .ok { server with connections := server.connections ++ [connection.address] }
  else .error .outOfBounds

/-- The state in which a connection begins. -/
def firstState (server : Acceptor) (id : SocketId) : SocketState :=
  if id.encrypted then .tlsHandshake
  else if id.http || server.greetingMode == .require || server.greetingMode == .fallback then
    .greeting
  else .opened

/-- Accept a connection on a listening socket. -/
def acceptConnection (server : Acceptor) (id : SocketId) (answer : SetupAnswer) :
    Except Fault (Option NewConnection × Acceptor) := do
  match ← server.newConnection answer with
  | (none, prepared) => return (none, prepared)
  | (some zeroed, prepared) =>
      let connection := { zeroed with
        ip6 := id.ip6, http := id.http, encrypted := id.encrypted, state := server.firstState id }
      let (secure, secured) ← prepared.secureConnection id answer
      if secure && !answer.fails .accept then
        let accepted := { connection with socket := answer.descriptor }
        return (some accepted, ← (secured.acquire .socket).addToService accepted)
      else return (none, secured.free connection)

/-- Remove a connection from the array. -/
def removeConnectionFromService (server : Acceptor) (connection : NewConnection) :
    Except Fault Acceptor :=
  if connection.address ∈ server.connections then
    .ok { server with connections := server.connections.erase connection.address }
  else .error (.assertion "i < service->connection_count")

/-- Close and destroy a connection; the queues and the request of a new one are empty. -/
def destroyConnection (server : Acceptor) (connection : NewConnection) :
    Except Fault Acceptor := do
  let removed ← server.removeConnectionFromService connection
  let parted := removed.releaseIf connection.encrypted .session
  let registry ← parted.registry.unregister connection.socket
  let closed := { parted with registry := registry }.release
    (if connection.file then .file else .socket)
  return (closed.releaseIf connection.filename.isSome .filename).free connection

/-- Handle a connection that arrives on a listening socket. -/
def newConnect (server : Acceptor) (socket : Nat) (answer : SetupAnswer) :
    Except Fault (Option ConnectEvent × Acceptor) := do
  match SocketId.all.find? fun id => server.sockets id = socket with
  | none => throw (.assertion "id != FB_SOCKET_COUNT")
  | some id =>
      match ← server.acceptConnection id answer with
      | (none, refused) => return (none, refused)
      | (some connection, accepted) =>
          let (entered, registry) ← accepted.registry.register connection.socket .connection
            connection.address (!answer.fails .reallocSockets) (!answer.fails .mallocSocket)
          let registered := { accepted with registry := registry }
          if entered then
            return (if connection.state = .opened then
              some ⟨connection.socket, connection.context, connection⟩ else none, registered)
          else return (none, ← registered.destroyConnection connection)

/-- Make a connection that reads from a file; its state is written before it is known to exist. -/
def acceptFile (server : Acceptor) (filename : Text) (answer : SetupAnswer) :
    Except Fault (Option ConnectEvent × Acceptor) := do
  if filename = [] then throw (.assertion "filename && *filename")
  match ← server.newConnection answer with
  | (none, _) => throw .nullDereference
  | (some zeroed, prepared) =>
      let connection := { zeroed with state := .opened }
      if answer.fails .strdup then return (none, prepared.free connection)
      let named := prepared.acquire .filename
      if answer.fails .fopen then return (none, (named.release .filename).free connection)
      let opened := named.acquire .file
      let connection := { connection with
        filename := some filename, file := true, socket := answer.descriptor }
      let (entered, registry) ← opened.registry.register connection.socket .connection
        connection.address (!answer.fails .reallocSockets) (!answer.fails .mallocSocket)
      let registered := { opened with registry := registry }
      if entered then
        return (some ⟨connection.socket, connection.context, connection⟩,
          ← registered.addToService connection)
      else return (none, ((registered.release .file).release .filename).free connection)

/-! ## Failing calls -/

/-- The calls that make connections. -/
inductive Call where
  | newConnect (socket : Nat)
  | acceptFile (filename : Text)
deriving DecidableEq, Repr

/-- What a call does. -/
def perform (server : Acceptor) (answer : SetupAnswer) :
    Call → Except Fault (Option ConnectEvent × Acceptor)
  | .newConnect socket => server.newConnect socket answer
  | .acceptFile filename => server.acceptFile filename answer

/-- Some listening socket with a descriptor is encrypted; the first one with it counts. -/
def Encrypts (server : Acceptor) (socket : Nat) : Prop :=
  ∃ id, SocketId.all.find? (fun id => server.sockets id = socket) = some id ∧ id.encrypted = true

/-- A step that prepares a new connection fails. -/
def PreparationFails (server : Acceptor) (answer : SetupAnswer) : Prop :=
  server.connectionsSize ≤ server.connections.length ∧ answer.fails .expandConnections = true ∨
    answer.fails .callocConnection = true ∨
    server.contextSize ≠ 0 ∧ answer.fails .callocContext = true

/-- The session cannot be begun. -/
def SessionMissing (answer : SetupAnswer) : Prop :=
  answer.fails .tlsCredentials = true ∨ answer.fails .gnutlsInit = true

/-- The session that was begun cannot be set up. -/
def SessionFails (answer : SetupAnswer) : Prop :=
  answer.fails .gnutlsPrioritySet = true ∨ answer.fails .gnutlsCredentialsSet = true

/-- The registry refuses a descriptor: it is too large or memory is short. -/
def Refuses (registry : Registry) (answer : SetupAnswer) : Prop :=
  fdSetSize ≤ answer.descriptor ∨
    registry.maxsockets ≤ answer.descriptor ∧ answer.fails .reallocSockets = true ∨
    answer.fails .mallocSocket = true

/-- Some step of a call fails. -/
def Fails (server : Acceptor) (answer : SetupAnswer) : Call → Prop
  | .newConnect socket =>
      server.PreparationFails answer ∨
        server.Encrypts socket ∧ (SessionMissing answer ∨ SessionFails answer) ∨
        answer.fails .accept = true ∨ Refuses server.registry answer
  | .acceptFile _ =>
      server.PreparationFails answer ∨ answer.fails .strdup = true ∨ answer.fails .fopen = true ∨
        Refuses server.registry answer

/-- The first failing step is one that the code undoes. -/
def Undoable (server : Acceptor) (answer : SetupAnswer) : Call → Prop
  | .newConnect socket =>
      server.PreparationFails answer ∨ server.Encrypts socket ∧ SessionMissing answer ∨
        ¬server.Encrypts socket ∧ answer.fails .accept = true
  | .acceptFile _ => ¬server.PreparationFails answer

/-- A registry is as before, up to empty slots at the end of its array. -/
def SameEntries (before after : Registry) : Prop :=
  ∃ spare, after = { before with
    sockets := before.sockets ++ List.replicate spare none
    maxsockets := before.maxsockets + spare }

/-- The connections and the registry are as before, and what was built is released once. -/
structure Undone (server after : Acceptor) : Prop where
  connections : after.connections = server.connections
  registry : SameEntries server.registry after.registry
  settled : after.ledger.Settled

/-- A call ends without a fault and leaves no trace. -/
def LeavesNoTrace (server : Acceptor) (call : Call) (answer : SetupAnswer) : Prop :=
  ∃ after, server.perform answer call = .ok (none, after) ∧ server.Undone after

/-- The state between calls: the array is within its capacity, the registry is sound, encrypted
sockets are only listened on after TLS is initialized, and nothing is half built. -/
structure Sound (server : Acceptor) : Prop where
  room : server.connections.length ≤ server.connectionsSize
  registry : server.registry.Sound
  secured : ∀ id, id.encrypted = true → server.sockets id ≠ 0 → server.tlsInitialized = true
  idle : server.ledger = .empty

/-- Calls are for listening sockets and named files, and the system opens descriptors that are not
in use. -/
def Admissible (server : Acceptor) (answer : SetupAnswer) (call : Call) : Prop :=
  ¬server.registry.Registered answer.descriptor ∧
    match call with
    | .newConnect socket => socket ≠ 0 ∧ ∃ id, server.sockets id = socket
    | .acceptFile filename => filename ≠ []

variable {server : Acceptor} {answer : SetupAnswer}

theorem SameEntries.refl (registry : Registry) : SameEntries registry registry :=
  ⟨0, by simp⟩

/-! ## Refused descriptors -/

theorem slot_of_fresh {registry : Registry} {socketFd : Nat}
    (fresh : ¬registry.Registered socketFd) (sound : registry.Sound)
    (inside : socketFd < registry.maxsockets) : registry.slot socketFd = .ok none :=
  Registry.slot_of_not_registered fresh (by rw [sound.size]; exact inside)

/-- What is not registered cannot be unregistered. -/
theorem unregister_fresh {registry : Registry} {socketFd : Nat}
    (fresh : ¬registry.Registered socketFd) :
    ∃ fault, registry.unregister socketFd = .error fault := by
  unfold Registry.unregister
  split
  · exact ⟨_, rfl⟩
  · split
    · exact ⟨_, rfl⟩
    · exact ⟨_, rfl⟩
    · rename_i data found
      refine absurd ⟨data, ?_⟩ fresh
      unfold Registry.slot at found
      split at found
      · cases found
      · rename_i slot
        cases found
        exact slot

private theorem reset_eq {registry : Registry} (sound : registry.Sound)
    (unused : registry.maxsockets = 0) :
    registry.selectState.map (fun _ => ([] : List Nat)) = registry.selectState := by
  have vacant : registry.sockets = [] := by
    rw [← List.length_eq_zero_iff, sound.size, unused]
  have emptied : ∀ known ∈ registry.selectState, ([] : List Nat) = known := fun known member => by
    refine (List.eq_nil_iff_forall_not_mem.mpr fun socketFd inside => ?_).symm
    obtain ⟨data, found⟩ := sound.watched socketFd ⟨known, member, inside⟩
    simp [vacant] at found
  rw [List.map_congr_left emptied, List.map_id']

/-- The registry that a registration starts from is the registry itself. -/
theorem register_eq {registry : Registry} (sound : registry.Sound) (socketFd : Nat)
    (type : SocketType) (thing : Nat) (reallocated allocated : Bool) :
    registry.register socketFd type thing reallocated allocated =
      if fdSetSize ≤ socketFd then .ok (false, registry)
      else if registry.maxsockets ≤ socketFd then
        if reallocated then (registry.grow socketFd).enter socketFd type thing allocated
        else .ok (false, registry)
      else registry.enter socketFd type thing allocated := by
  have same : (if registry.maxsockets = 0 then
      { registry with selectState := registry.selectState.map fun _ => [] } else registry) =
      registry := by
    split
    · rename_i unused
      rw [reset_eq sound unused]
    · rfl
  simp only [Registry.register, same]

private theorem sameEntries_grow {registry : Registry} (sound : registry.Sound) {socketFd : Nat}
    (full : registry.maxsockets ≤ socketFd) : SameEntries registry (registry.grow socketFd) := by
  have grown := Registry.le_grownSize sound.capped full
  exact ⟨Registry.grownSize registry.maxsockets socketFd - registry.maxsockets, by
    simp [Registry.grow, Nat.add_sub_cancel' grown]⟩

theorem enter_refused {registry : Registry} {socketFd : Nat} (type : SocketType) (thing : Nat)
    (vacant : registry.slot socketFd = .ok none) :
    registry.enter socketFd type thing false = .ok (false, registry) := by
  simp [Registry.enter, vacant]

/-- A refused descriptor leaves the registry as it was, and is not in it. -/
theorem register_refused {registry : Registry} (sound : registry.Sound)
    (fresh : ¬registry.Registered answer.descriptor) (refuses : Refuses registry answer)
    (type : SocketType) (thing : Nat) :
    ∃ after, registry.register answer.descriptor type thing (!answer.fails .reallocSockets)
        (!answer.fails .mallocSocket) = .ok (false, after) ∧
      SameEntries registry after ∧ ¬after.Registered answer.descriptor := by
  rw [register_eq sound]
  by_cases large : fdSetSize ≤ answer.descriptor
  · exact ⟨registry, if_pos large, .refl registry, fresh⟩
  rw [if_neg large]
  by_cases full : registry.maxsockets ≤ answer.descriptor
  · rw [if_pos full]
    cases growth : answer.fails .reallocSockets with
    | true => exact ⟨registry, rfl, .refl registry, fresh⟩
    | false =>
        have short : answer.fails .mallocSocket = true := by
          simpa [Refuses, large, growth] using refuses
        have fresh : ¬(registry.grow answer.descriptor).Registered answer.descriptor :=
          fun registered => fresh (Registry.registered_grow_iff.mp registered)
        have vacant := slot_of_fresh fresh (sound.grow full)
          (Registry.lt_grownSize (Nat.lt_of_not_le large))
        refine ⟨_, ?_, sameEntries_grow sound full, fresh⟩
        simp [short, enter_refused type thing vacant]
  · have short : answer.fails .mallocSocket = true := by
      simpa [Refuses, large, full] using refuses
    have vacant := slot_of_fresh fresh sound (Nat.lt_of_not_le full)
    refine ⟨registry, ?_, .refl registry, fresh⟩
    simp [full, short, enter_refused type thing vacant]

/-! ## Preparation -/

/-- A service with a prepared connection, of which some parts were acquired. -/
def prepared (server : Acceptor) (size : Nat) (parts : List Part) : Acceptor :=
  { server with
    connectionsSize := size
    ledger := ⟨parts, []⟩ }

/-- The parts of a prepared connection. -/
def preparedParts (context : Bool) : List Part := .record :: if context then [.context] else []

theorem newConnection_fails (sound : server.Sound) (fails : server.PreparationFails answer) :
    ∃ after, server.newConnection answer = .ok (none, after) ∧ server.Undone after := by
  unfold newConnection
  rw [if_neg (Nat.not_lt.mpr sound.room)]
  have kept (size : Nat) (ledger : Ledger) (settled : ledger.Settled) :
      server.Undone { server with connectionsSize := size, ledger := ledger } :=
    ⟨rfl, .refl _, settled⟩
  have idle := sound.idle
  cases expanded : ServiceHeap.expandcalloc server.connectionsSize (server.connections.length + 1)
      (!answer.fails .expandConnections) with
  | none => exact ⟨server, rfl, rfl, .refl _, by rw [idle]; decide⟩
  | some size =>
      have grows : ¬(server.connectionsSize ≤ server.connections.length ∧
          answer.fails .expandConnections = true) := by
        rintro ⟨full, short⟩
        simp only [ServiceHeap.expandcalloc, short] at expanded
        rw [if_neg (by omega)] at expanded
        simp at expanded
      by_cases record : answer.fails .callocConnection = true
      · exact ⟨_, if_pos record, kept size _ (by rw [idle]; decide)⟩
      · obtain ⟨contextual, context⟩ :
            server.contextSize ≠ 0 ∧ answer.fails .callocContext = true := by
          simpa [PreparationFails, grows, record] using fails
        refine ⟨_, ?_, kept size ⟨[.record], [.record]⟩ (by decide)⟩
        simp [record, contextual, context, acquire, release, idle, Ledger.acquire, Ledger.release,
          Ledger.empty]

theorem newConnection_succeeds (sound : server.Sound) (works : ¬server.PreparationFails answer) :
    ∃ size, server.connections.length < size ∧
      server.newConnection answer =
        .ok (some { NewConnection.zeroed answer.address with
            context := decide (server.contextSize ≠ 0) },
          server.prepared size (preparedParts (decide (server.contextSize ≠ 0)))) := by
  simp only [PreparationFails, not_or, not_and] at works
  obtain ⟨grows, record, context⟩ := works
  have expanded : ∃ size, ServiceHeap.expandcalloc server.connectionsSize
      (server.connections.length + 1) (!answer.fails .expandConnections) = some size ∧
      server.connections.length < size := by
    unfold ServiceHeap.expandcalloc
    by_cases room : server.connections.length + 1 ≤ server.connectionsSize
    · exact ⟨_, if_pos room, room⟩
    · rw [if_neg room, if_pos (by simpa using grows (by omega))]
      exact ⟨_, rfl, by omega⟩
  obtain ⟨size, expanded, room⟩ := expanded
  refine ⟨size, room, ?_⟩
  unfold newConnection
  rw [if_neg (Nat.not_lt.mpr sound.room), expanded]
  by_cases plain : server.contextSize = 0
  · simp [record, plain, acquire, prepared, preparedParts, sound.idle, Ledger.acquire, Ledger.empty,
      NewConnection.zeroed]
  · simp [record, plain, context plain, acquire, prepared, preparedParts, sound.idle,
      Ledger.acquire, Ledger.empty, NewConnection.zeroed]

/-- A connection whose parts were all acquired in preparation is freed without a trace. -/
theorem undone_free (server : Acceptor) (size : Nat) (connection : NewConnection) :
    server.Undone
      ((server.prepared size (preparedParts connection.context)).free connection) := by
  have settled (context : Bool) :
      ((Ledger.releaseIf ⟨preparedParts context, []⟩ context .context).release
        .record).Settled := by
    cases context <;> decide
  exact ⟨rfl, .refl _, settled connection.context⟩

/-! ## Connections that arrive -/

private theorem destroyConnection_fresh {connection : NewConnection}
    (fresh : ¬server.registry.Registered connection.socket) :
    ∃ fault, server.destroyConnection connection = .error fault := by
  unfold destroyConnection removeConnectionFromService
  split
  · obtain ⟨fault, stop⟩ := unregister_fresh fresh
    refine ⟨fault, ?_⟩
    cases encrypted : connection.encrypted <;>
      simp [Bind.bind, Except.bind, releaseIf, stop]
  · exact ⟨_, rfl⟩

/-- The connection that a listening socket prepares. -/
def arriving (server : Acceptor) (id : SocketId) (answer : SetupAnswer) : NewConnection :=
  { NewConnection.zeroed answer.address with
    ip6 := id.ip6, http := id.http, encrypted := id.encrypted, state := server.firstState id
    context := decide (server.contextSize ≠ 0) }

/-- What accepting comes to once the connection is prepared. -/
theorem acceptConnection_eq {size : Nat} {id : SocketId} (room : server.connections.length < size)
    (prepares : server.newConnection answer =
      .ok (some { NewConnection.zeroed answer.address with
          context := decide (server.contextSize ≠ 0) },
        server.prepared size (preparedParts (decide (server.contextSize ≠ 0)))))
    {secure : Bool} {parts : List Part}
    (secures : (server.prepared size
        (preparedParts (decide (server.contextSize ≠ 0)))).secureConnection id answer =
      .ok (secure, server.prepared size parts)) :
    server.acceptConnection id answer =
      if secure && !answer.fails .accept then
        .ok (some { server.arriving id answer with socket := answer.descriptor },
          { server.prepared size (parts ++ [.socket]) with
            connections := server.connections ++ [answer.address] })
      else .ok (none, (server.prepared size parts).free (server.arriving id answer)) := by
  unfold acceptConnection
  simp only [prepares, Bind.bind, Except.bind, Pure.pure, Except.pure, secures]
  split
  · rename_i accepted
    simp [addToService, acquire, prepared, Ledger.acquire, room, arriving, NewConnection.zeroed]
  · rfl

private theorem secureConnection_plain {id : SocketId} (plain : ¬id.encrypted = true) :
    server.secureConnection id answer = .ok (true, server) := by
  simp [secureConnection, plain]

private theorem secureConnection_missing {id : SocketId} (encrypted : id.encrypted = true)
    (initialized : server.tlsInitialized = true) (missing : SessionMissing answer) :
    server.secureConnection id answer = .ok (false, server) := by
  rcases missing with credentials | init
  · simp [secureConnection, setupConnectionTls, encrypted, initialized, credentials]
  · simp [secureConnection, setupConnectionTls, encrypted, initialized, init]

private theorem secureConnection_begun {id : SocketId} (encrypted : id.encrypted = true)
    (initialized : server.tlsInitialized = true) (begun : ¬SessionMissing answer) :
    server.secureConnection id answer =
      .ok (!answer.fails .gnutlsPrioritySet && !answer.fails .gnutlsCredentialsSet,
        server.acquire .session) := by
  simp only [SessionMissing, not_or] at begun
  simp [secureConnection, setupConnectionTls, encrypted, initialized, begun]

private theorem not_settled_free (server : Acceptor) (size : Nat) (connection : NewConnection) :
    ¬((server.prepared size (preparedParts connection.context ++ [.session])).free
      connection).ledger.Settled := by
  have settled (context : Bool) :
      ¬((Ledger.releaseIf ⟨preparedParts context ++ [.session], []⟩ context .context).release
        .record).Settled := by
    cases context <;> decide
  exact settled connection.context

theorem not_leavesNoTrace_of_error {call : Call}
    (stops : ∃ fault, server.perform answer call = .error fault) :
    ¬server.LeavesNoTrace call answer := by
  rintro ⟨after, ends, -⟩
  obtain ⟨fault, stop⟩ := stops
  rw [stop] at ends
  cases ends

private theorem encrypts_iff {socket : Nat} {id : SocketId}
    (found : SocketId.all.find? (fun id => server.sockets id = socket) = some id) :
    server.Encrypts socket ↔ id.encrypted = true := by
  simp [Encrypts, found]

theorem newConnect_of_none {socket : Nat} {id : SocketId} {after : Acceptor}
    (found : SocketId.all.find? (fun id => server.sockets id = socket) = some id)
    (accepts : server.acceptConnection id answer = .ok (none, after)) :
    server.newConnect socket answer = .ok (none, after) := by
  unfold newConnect
  rw [found]
  simp only [accepts, Bind.bind, Except.bind, Pure.pure, Except.pure]

/-- A connection whose descriptor is refused is destroyed as if it were registered. -/
theorem newConnect_refused {socket : Nat} {id : SocketId} {connection : NewConnection}
    {accepted : Acceptor} (sound : server.registry.Sound)
    (fresh : ¬server.registry.Registered answer.descriptor)
    (refuses : Refuses server.registry answer)
    (found : SocketId.all.find? (fun id => server.sockets id = socket) = some id)
    (accepts : server.acceptConnection id answer = .ok (some connection, accepted))
    (kept : accepted.registry = server.registry)
    (opened : connection.socket = answer.descriptor) :
    ∃ fault, server.newConnect socket answer = .error fault := by
  obtain ⟨registry, refused, -, missing⟩ :=
    register_refused sound fresh refuses .connection connection.address
  obtain ⟨fault, stop⟩ :=
    @destroyConnection_fresh { accepted with registry := registry } connection
      (by rw [opened]; exact missing)
  refine ⟨fault, ?_⟩
  unfold newConnect
  rw [found]
  simp [accepts, kept, opened, refused, stop, Bind.bind, Except.bind]

/-- An arriving connection whose set-up fails is taken down without a trace exactly if the failure
comes before there is a session, and before there is a descriptor. -/
theorem newConnect_leavesNoTrace_iff {socket : Nat} (sound : server.Sound)
    (admissible : server.Admissible answer (.newConnect socket))
    (fails : server.Fails answer (.newConnect socket)) :
    server.LeavesNoTrace (.newConnect socket) answer ↔
      server.Undoable answer (.newConnect socket) := by
  obtain ⟨fresh, listening, some_id⟩ := admissible
  obtain ⟨id, found⟩ :
      ∃ id, SocketId.all.find? (fun id => server.sockets id = socket) = some id := by
    obtain ⟨id, same⟩ := some_id
    rw [← Option.isSome_iff_exists, List.find?_isSome]
    exact ⟨id, by cases id <;> decide, by simpa using same⟩
  simp only [Undoable, Fails, encrypts_iff found] at fails ⊢
  by_cases preparation : server.PreparationFails answer
  · obtain ⟨after, prepares, undone⟩ := newConnection_fails sound preparation
    refine iff_of_true ⟨after, newConnect_of_none found ?_, undone⟩ (.inl preparation)
    simp only [acceptConnection, prepares, Bind.bind, Except.bind, Pure.pure, Except.pure]
  obtain ⟨size, room, prepares⟩ := newConnection_succeeds sound preparation
  by_cases encrypted : id.encrypted = true
  · have initialized : server.tlsInitialized = true := by
      refine sound.secured id encrypted ?_
      have same := List.find?_some found
      simp only [decide_eq_true_eq] at same
      rw [same]
      exact listening
    have undoable : server.PreparationFails answer ∨ id.encrypted = true ∧ SessionMissing answer ∨
        ¬id.encrypted = true ∧ answer.fails .accept = true ↔ SessionMissing answer := by
      simp [preparation, encrypted]
    rw [undoable]
    by_cases missing : SessionMissing answer
    · have accepts := acceptConnection_eq room prepares
        (secureConnection_missing encrypted initialized missing)
      exact iff_of_true ⟨_, newConnect_of_none found accepts, undone_free server size _⟩ missing
    · have accepts := acceptConnection_eq room prepares
        (secureConnection_begun encrypted initialized missing)
      refine iff_of_false ?_ missing
      split at accepts
      · rename_i accepted
        simp only [Bool.and_eq_true, Bool.not_eq_true'] at accepted
        obtain ⟨⟨priority, credentials⟩, client⟩ := accepted
        have refuses : Refuses server.registry answer := by
          simpa [preparation, missing, encrypted, SessionFails, priority, credentials, client]
            using fails
        exact not_leavesNoTrace_of_error
          (newConnect_refused sound.registry fresh refuses found accepts rfl rfl)
      · rintro ⟨after, ends, undone⟩
        rw [perform, newConnect_of_none found accepts] at ends
        cases ends
        exact not_settled_free server size _ undone.settled
  · have accepts := acceptConnection_eq room prepares (secureConnection_plain encrypted)
    have undoable : server.PreparationFails answer ∨ id.encrypted = true ∧ SessionMissing answer ∨
        ¬id.encrypted = true ∧ answer.fails .accept = true ↔ answer.fails .accept = true := by
      simp [preparation, encrypted]
    rw [undoable]
    split at accepts
    · rename_i accepted
      have works : ¬answer.fails .accept = true := by simpa using accepted
      have refuses : Refuses server.registry answer := by
        simpa [preparation, encrypted, works] using fails
      refine iff_of_false ?_ works
      exact not_leavesNoTrace_of_error
        (newConnect_refused sound.registry fresh refuses found accepts rfl rfl)
    · rename_i gone
      refine iff_of_true ⟨_, newConnect_of_none found accepts, undone_free server size _⟩ ?_
      simpa using gone

/-! ## Files -/

/-- A connection to a file is freed without a trace after its name and the file are released. -/
theorem undone_free_file (server : Acceptor) (size : Nat) (connection : NewConnection)
    {registry : Registry} (same : SameEntries server.registry registry) {named : List Part}
    (known : named = [.filename] ∨ named = [.filename, .file]) :
    server.Undone ({ server.prepared size [] with
      registry := registry
      ledger := ⟨preparedParts connection.context ++ named, named.reverse⟩ }.free connection) := by
  have settled (context : Bool) :
      ((Ledger.releaseIf ⟨preparedParts context ++ named, named.reverse⟩ context .context).release
        .record).Settled := by
    rcases known with rfl | rfl <;> cases context <;> decide
  exact ⟨rfl, same, settled connection.context⟩

/-- A connection to a file whose set-up fails is taken down without a trace exactly if there is a
connection. -/
theorem acceptFile_leavesNoTrace_iff {filename : Text} (sound : server.Sound)
    (admissible : server.Admissible answer (.acceptFile filename))
    (fails : server.Fails answer (.acceptFile filename)) :
    server.LeavesNoTrace (.acceptFile filename) answer ↔
      server.Undoable answer (.acceptFile filename) := by
  obtain ⟨fresh, named⟩ := admissible
  simp only [Undoable, Fails] at fails ⊢
  by_cases preparation : server.PreparationFails answer
  · obtain ⟨after, prepares, -⟩ := newConnection_fails sound preparation
    refine iff_of_false (not_leavesNoTrace_of_error ⟨.nullDereference, ?_⟩)
      (not_not.mpr preparation)
    simp [perform, acceptFile, named, prepares, Bind.bind, Except.bind, throw, throwThe,
      MonadExceptOf.throw]
  obtain ⟨size, room, prepares⟩ := newConnection_succeeds sound preparation
  refine iff_of_true ?_ preparation
  let context := decide (server.contextSize ≠ 0)
  let connection : NewConnection :=
    { NewConnection.zeroed answer.address with state := .opened, context := context }
  by_cases duplicate : answer.fails .strdup = true
  · refine ⟨_, ?_, undone_free server size connection⟩
    simp [perform, acceptFile, named, prepares, duplicate, connection, context, Bind.bind,
      Except.bind, Pure.pure, Except.pure]
  by_cases missing : answer.fails .fopen = true
  · refine ⟨_, ?_, undone_free_file server size connection (.refl _) (.inl rfl)⟩
    simp [perform, acceptFile, named, prepares, duplicate, missing, connection, context, acquire,
      release, prepared, Ledger.acquire, Ledger.release, Bind.bind, Except.bind, Pure.pure,
      Except.pure]
  · have refuses : Refuses server.registry answer := by
      simpa [preparation, duplicate, missing] using fails
    obtain ⟨registry, refused, same, -⟩ :=
      register_refused sound.registry fresh refuses .connection answer.address
    let reader := { connection with
      filename := some filename, file := true, socket := answer.descriptor }
    refine ⟨_, ?_, undone_free_file server size reader same (.inr rfl)⟩
    simp [perform, acceptFile, named, prepares, duplicate, missing, connection, reader, context,
      acquire, release, prepared, Ledger.acquire, Ledger.release, NewConnection.zeroed, refused,
      Bind.bind, Except.bind, Pure.pure, Except.pure]

/-! ## Any failing call -/

/-- A failing call raises no fault, leaves connections and registry as they were and releases what
it built once, exactly if its first failing step is one that the code undoes. -/
theorem leavesNoTrace_iff (server : Acceptor) (call : Call) (answer : SetupAnswer)
    (sound : server.Sound) (admissible : server.Admissible answer call)
    (fails : server.Fails answer call) :
    server.LeavesNoTrace call answer ↔ server.Undoable answer call := by
  cases call with
  | newConnect socket => exact newConnect_leavesNoTrace_iff sound admissible fails
  | acceptFile filename => exact acceptFile_leavesNoTrace_iff sound admissible fails

/-- A server that listens for lines and, encrypted, for web clients. -/
def listening : Acceptor where
  sockets := fun id => match id with
    | .lineIp4 => 5
    | .httpsIp4 => 6
    | _ => 0
  contextSize := 8
  greetingMode := .allow
  connections := []
  connectionsSize := 0
  tlsInitialized := true
  registry := .empty
  ledger := .empty

/-- One step fails. -/
def failing (step : SetupStep) (descriptor : Nat) : SetupAnswer :=
  ⟨fun other => decide (other = step), 0, descriptor⟩

private theorem sound_listening : listening.Sound where
  room := Nat.le_refl _
  registry := Registry.sound_empty
  secured := fun _ _ _ => rfl
  idle := rfl

theorem leavesNoTrace_iff_accept :
    listening.LeavesNoTrace (.newConnect 5) (failing .accept 7) ↔
      listening.Undoable (failing .accept 7) (.newConnect 5) :=
  leavesNoTrace_iff listening (.newConnect 5) (failing .accept 7) sound_listening
    ⟨fun ⟨_, found⟩ => (nomatch found), by decide, .lineIp4, rfl⟩ (.inr (.inr (.inl rfl)))

/-- Short of memory for the registry, for the record of a file's connection, or left by an encrypted
client, the calls fail and do leave a trace. -/
theorem leavesNoTrace_failing :
    (∃ fault, listening.perform (failing .mallocSocket 7) (.newConnect 5) = .error fault) ∧
      listening.perform (failing .callocConnection 7) (.acceptFile (ascii "startscript")) =
        .error .nullDereference ∧
      ¬listening.LeavesNoTrace (.newConnect 6) (failing .accept 7) := by
  refine ⟨⟨_, rfl⟩, rfl, ?_⟩
  rintro ⟨after, ends, undone⟩
  cases ends
  exact absurd undone.settled (by decide)

end Acceptor

end Football
