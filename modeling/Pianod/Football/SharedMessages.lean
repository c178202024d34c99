import Pianod.Football.MessageBlocks
import Pianod.Football.WebSocketEncode

/-!
# Messages shared by connections

A broadcast puts one block into the queues of all connections of a service.  Before each attempt a
use is counted for it, and each way the attempt may end has to give the use a queue entry or take
it back.
-/

namespace Football

open Foundation

/-- A connection, as far as its output goes. -/
structure QueuedConnection where
  /-- The service that it belongs to. -/
  service : Nat
  state : SocketState
  http : Bool
  /-- Whether input is read from a file. -/
  isFile : Bool
  /-- Output to a WebSocket, awaiting assembly to a packet. -/
  assembly : BlockQueue
  /-- Output ready for the socket. -/
  out : BlockQueue
  /-- What the next calls of `send` answer; later ones would block. -/
  sends : List SendResult
deriving DecidableEq, Repr

namespace BlockQueue

/-- The number of bytes of the front block offered to `send`; past its end the length wraps. -/
def outlen (heap : MessageHeap) (queue : BlockQueue) : Nat :=
  let length := (queue.first.head?.map heap.message).getD []
  (((length.length : Int) - queue.consumed) % 2 ^ 64).toNat

/-- The output queue after an attempt to send, the answers left and whether the last one was an
error. -/
structure Sending where
  heap : MessageHeap
  out : BlockQueue
  sends : List SendResult
  failed : Bool

/-- Send queued blocks until the network takes no more. -/
def sendLoop (heap : MessageHeap) (out : BlockQueue) : List SendResult → Except Fault Sending
  | [] => (out.queueConsume heap 0).map fun (heap, out) => ⟨heap, out, [], false⟩
  | .wouldBlock :: sends =>
      (out.queueConsume heap 0).map fun (heap, out) => ⟨heap, out, sends, false⟩
  | .failed :: sends => (out.queueDestroy heap).map fun (heap, out) => ⟨heap, out, sends, true⟩
  | .sent count :: sends =>
      let written := min count (out.outlen heap)
      out.queueConsume heap written >>= fun (heap, out) =>
        if 0 < written ∧ out.queueEmpty = false then sendLoop heap out sends
        else .ok ⟨heap, out, sends, false⟩

/-- Take bytes off the front of a queue, block by block; there are at most `blocks` of them. -/
def gather : Nat → Nat → MessageHeap → BlockQueue → Except Fault (Text × MessageHeap × BlockQueue)
  | _, 0, heap, queue => .ok ([], heap, queue)
  | 0, _ + 1, _, _ => .error (.assertion "ass->first")
  | blocks + 1, messageLeft, heap, queue =>
      match queue.first with
      | [] => .error (.assertion "ass->first")
      | front :: _ =>
          let message := heap.message front
          let chunkSize := min (message.length - queue.consumed) messageLeft
          queue.queueConsume heap chunkSize >>= fun (heap, after) =>
            (gather blocks (messageLeft - chunkSize) heap after).map fun (rest, heap, final) =>
              ((message.drop queue.consumed).take chunkSize ++ rest, heap, final)

/-- Take the first line off a queue whose last block holds a newline at an offset. -/
def takeLine (heap : MessageHeap) (queue : BlockQueue) (newlineAt : Nat) :
    Except Fault (Text × MessageHeap × BlockQueue) :=
  let before := (queue.first.dropLast.map fun block => (heap.message block).length).sum
  gather queue.first.length (newlineAt + before - queue.consumed) heap queue >>=
    fun (message, heap, queue) =>
      -- Skip the newline.
      (queue.queueConsume heap 1).map fun (heap, queue) => (message, heap, queue)

/-- The number of bytes in the blocks of a queue. -/
def size (heap : MessageHeap) (queue : BlockQueue) : Nat :=
  (queue.first.map fun block => (heap.message block).length).sum

end BlockQueue

namespace QueuedConnection

/-- Initiate closure; a connection on its way out keeps its state. -/
def closeConnection (connection : QueuedConnection) : QueuedConnection :=
  { connection with
    state := if connection.state.rank ≤ SocketState.opened.rank then .flushing
      else connection.state }

/-- Close and destroy a connection. -/
def destroyConnection (heap : MessageHeap) (connection : QueuedConnection) :
    Except Fault MessageHeap :=
  connection.assembly.queueDestroy heap >>= fun (heap, _) =>
    (connection.out.queueDestroy heap).map Prod.fst

/-- Write output from the queue; closure proceeds only when there is an event to report it. -/
def sendOutput (heap : MessageHeap) (connection : QueuedConnection) (withEvent : Bool) :
    Except Fault (MessageHeap × QueuedConnection × Connection.SendReport) :=
  if connection.out.queueEmpty then
    if !withEvent then .ok (heap, connection, .nothing)
    else if connection.state = .flushing then
      .ok (heap, { connection with state := .closing }, .closeEvent)
    else if connection.state = .closing then
      (connection.destroyConnection heap).map fun heap =>
        (heap, { connection with assembly := .empty, out := .empty }, .destroyed)
    else .ok (heap, connection, .nothing)
  else
    (connection.out.sendLoop heap connection.sends).map fun sending =>
      let sent := { connection with out := sending.out, sends := sending.sends }
      (sending.heap, if sending.failed then sent.closeConnection else sent, .nothing)

/-- Attend to the output without an event at hand. -/
def trySend (heap : MessageHeap) (connection : QueuedConnection) :
    Except Fault (MessageHeap × QueuedConnection) :=
  (connection.sendOutput heap false).map fun (heap, connection, _) => (heap, connection)

/-- Queue raw bytes for the socket; the answer tells whether that went well. -/
def queueHttp (heap : MessageHeap) (connection : QueuedConnection) (text : Text) :
    Except Fault (Bool × MessageHeap × QueuedConnection) :=
  match heap.messageAlloc with
  | (none, heap) => .ok (false, heap, connection)
  | (some output, heap) =>
      connection.out.queueAdd (heap.fill output text) output >>= fun (added, heap, out) =>
        if added then
          (trySend heap { connection with out := out }).map fun (heap, connection) =>
            (true, heap, connection)
        else (heap.messageFree output).map fun heap => (false, heap, connection)

/-- Queue a copy of some bytes for the socket. -/
def queueHttpAlloc (heap : MessageHeap) (connection : QueuedConnection) (text : Text) :
    Except Fault (Bool × MessageHeap × QueuedConnection) :=
  match heap.malloc with
  | (false, heap) => .ok (false, heap, connection)
  | (true, heap) => connection.queueHttp heap text

/-- Assemble and queue a frame for each complete line; every frame uses up a byte of fuel. -/
def encodeLines : Nat → MessageHeap → QueuedConnection →
    Except Fault (MessageHeap × QueuedConnection)
  | 0, heap, connection => .ok (heap, connection)
  | fuel + 1, heap, connection =>
      match connection.assembly.first, connection.assembly.last with
      | [], _ => .error (.assertion "ass->first")
      | _, none => .error (.assertion "ass->last")
      | first, some last =>
          let start := if first.length = 1 then connection.assembly.consumed else 0
          match Text.strchr ((heap.message last).drop start) newline with
          | none => .ok (heap, connection)
          | some offset =>
              match heap.malloc with
              | (false, heap) => .ok (heap, connection)
              | (true, heap) =>
                  connection.assembly.takeLine heap (start + offset) >>=
                    fun (message, heap, assembly) =>
                  { connection with assembly := assembly }.queueHttp heap
                      (websocketHeader message.length ++ message) >>=
                    fun (queued, heap, connection) =>
                  -- There may be two newlines in one block.
                  if queued && !connection.assembly.queueEmpty then
                    encodeLines fuel heap connection
                  else .ok (heap, connection)

/-- Queue a frame for every complete line of the assembly queue. -/
def websocketEncode (heap : MessageHeap) (connection : QueuedConnection) :
    Except Fault (MessageHeap × QueuedConnection) :=
  connection.encodeLines (connection.assembly.size heap + 1) heap

/-- Whether a message is dropped: it is empty, or the connection is closing, is not fully open or
reads from a file. -/
def drops (connection : QueuedConnection) (text : Text) : Bool :=
  text.isEmpty || connection.state == .closing ||
    decide (connection.state.rank < SocketState.opened.rank) || connection.isFile

/-- Put a message into the output of a connection and try to send it. -/
def queueSingle (heap : MessageHeap) (connection : QueuedConnection) (message : Nat) :
    Except Fault (Int × MessageHeap × QueuedConnection) :=
  let length : Int := (heap.message message).length
  if connection.drops (heap.message message) then
    (heap.messageFree message).map fun heap => (length, heap, connection)
  else if connection.http then
    connection.assembly.queueAdd heap message >>= fun (added, heap, assembly) =>
      (if added then { connection with assembly := assembly }.websocketEncode heap
        else .ok (heap, connection)) >>= fun (heap, connection) =>
      (connection.trySend heap).map fun (heap, connection) =>
        (if added then length else -1, heap, connection)
  else
    connection.out.queueAdd heap message >>= fun (added, heap, out) =>
      (trySend heap { connection with out := out }).map fun (heap, connection) =>
        (if added then length else -1, heap, connection)

/-- Whether a broadcast for a service is meant for a connection. -/
def addressed (connection : QueuedConnection) (service : Nat) : Bool :=
  connection.service == service && connection.state != .closing && !connection.isFile

/-- The references from the queues of a connection. -/
def references (connection : QueuedConnection) : Multiset Nat :=
  connection.assembly.references + connection.out.references

end QueuedConnection

/-! ## The program sending messages -/

/-- A call that queues a message, before its next attempt. -/
inductive QueuingCall where
  | single (message connection : Nat)
  /-- The connections before the next one have been served. -/
  | broadcast (message service next : Nat) (length : Int)
deriving DecidableEq, Repr

/-- The message a call is about. -/
def QueuingCall.message : QueuingCall → Nat
  | .single message _ => message
  | .broadcast message _ _ _ => message

structure MessageState where
  heap : MessageHeap
  /-- The connections of all services, within each service in the order of its array. -/
  connections : List QueuedConnection
  /-- The call that is in progress. -/
  call : Option QueuingCall
  /-- The answer of the last call that queued a message. -/
  returned : Int
deriving DecidableEq, Repr

/-- What a message may be sent to; a connection and an event on it stand for one another. -/
inductive Thing where
  | service (service : Nat)
  | connection (connection : Nat)
  | event (connection : Nat)
deriving DecidableEq, Repr

inductive MessageAction where
  | accept (service : Nat) (state : SocketState) (http isFile : Bool) (sends : List SendResult)
  /-- A handshake, a greeting, an upgrade or a closure. -/
  | settle (connection : Nat) (state : SocketState) (http : Bool)
  | transfer (connection service : Nat)
  /-- Begin to send a text, to everyone or to one connection. -/
  | fprintf (thing : Thing) (broadcast : Bool) (text : Text)
  /-- The next attempt of the call that runs, or its end. -/
  | proceed
  /-- Queue raw bytes of a response or a frame. -/
  | transmit (connection : Nat) (text : Text)
  /-- Attend to a connection that can be written to. -/
  | attend (connection : Nat)
  | destroy (connection : Nat)
deriving DecidableEq, Repr

namespace MessageState

/-- A program without connections, and what memory it will get. -/
def initial (mallocs : List Bool) : MessageState := ⟨.initial mallocs, [], none, 0⟩

/-- The connection at an index; a pointer to any other has been freed. -/
def connection (state : MessageState) (index : Nat) : Except Fault QueuedConnection :=
  match state.connections[index]? with
  | some connection => .ok connection
  | none => .error .useAfterFree

/-- Begin to put a message into all queues of a service. -/
def queueBroadcast (state : MessageState) (service message : Nat) : Except Fault MessageState :=
  let length := (state.heap.message message).length
  if length = 0 then
    (state.heap.messageFree message).map fun heap => { state with heap := heap, returned := 0 }
  else .ok { state with call := some (.broadcast message service 0 length) }

/-- Add a message to a service, a connection or an event. -/
def queueMessage (state : MessageState) (message : Nat) (broadcast : Bool) :
    Thing → Except Fault MessageState
  | .service service => state.queueBroadcast service message
  | .connection index | .event index =>
      state.connection index >>= fun connection =>
        if broadcast then state.queueBroadcast connection.service message
        else .ok { state with call := some (.single message index) }

/-- Create a message and send it on its way. -/
def fprintf (state : MessageState) (thing : Thing) (broadcast : Bool) (text : Text) :
    Except Fault MessageState :=
  match state.heap.messageAlloc with
  | (none, _) => .error (.assertion "message")
  | (some message, heap) =>
      { state with heap := heap.fill message text }.queueMessage message broadcast thing

/-- The next attempt of a call; a broadcast that has seen all connections gives up its own use. -/
def proceed (state : MessageState) : QueuingCall → Except Fault MessageState
  | .single message index =>
      state.connection index >>= fun connection =>
        (connection.queueSingle state.heap message).map fun (length, heap, connection) =>
          { state with
            heap := heap, connections := state.connections.set index connection
            call := none, returned := length }
  | .broadcast message service next length =>
      match state.connections[next]? with
      | none =>
          (state.heap.messageFree message).map fun heap =>
            { state with heap := heap, call := none, returned := length }
      | some connection =>
          if connection.addressed service then
            (connection.queueSingle (state.heap.addUse message) message).map
              fun (result, heap, connection) =>
                { state with
                  heap := heap, connections := state.connections.set next connection
                  call := some (.broadcast message service (next + 1)
                    (if result = -1 then -1 else length)) }
          else .ok { state with call := some (.broadcast message service (next + 1) length) }

/-- Attend to the output of a connection; one that is through is destroyed. -/
def attend (state : MessageState) (index : Nat) : Except Fault MessageState :=
  state.connection index >>= fun connection =>
    (connection.sendOutput state.heap true).map fun (heap, connection, report) =>
      { state with
        heap := heap
        connections := if report = .destroyed then state.connections.eraseIdx index
          else state.connections.set index connection }

def step (state : MessageState) (action : MessageAction) : Except Fault MessageState :=
  match state.call, action with
  | some call, .proceed => state.proceed call
  -- Nothing else runs until the call returns.
  | some _, _ => .ok state
  | none, .proceed => .ok state
  | none, .accept service socketState http isFile sends =>
      .ok { state with connections :=
        state.connections ++ [⟨service, socketState, http, isFile, .empty, .empty, sends⟩] }
  | none, .settle index socketState http =>
      state.connection index >>= fun connection =>
        .ok { state with connections :=
          state.connections.set index { connection with state := socketState, http := http } }
  | none, .transfer index service =>
      state.connection index >>= fun connection =>
        .ok { state with connections :=
          state.connections.eraseIdx index ++ [{ connection with service := service }] }
  | none, .fprintf thing broadcast text => state.fprintf thing broadcast text
  | none, .transmit index text =>
      state.connection index >>= fun connection =>
        (connection.queueHttpAlloc state.heap text).map fun (_, heap, connection) =>
          { state with heap := heap, connections := state.connections.set index connection }
  | none, .attend index => state.attend index
  | none, .destroy index =>
      state.connection index >>= fun connection =>
        (connection.destroyConnection state.heap).map fun heap =>
          { state with heap := heap, connections := state.connections.eraseIdx index }

/-- All references to blocks: from the queues, and from the call that runs. -/
def references (state : MessageState) : Multiset Nat :=
  (state.connections.map QueuedConnection.references).sum +
    (state.call.map fun call => ({call.message} : Multiset Nat)).getD 0

/-- The blocks are counted exactly: by the references to them, and without any they are free. -/
def Exact (state : MessageState) : Prop := state.heap.Accounts state.references

/-- The connection that the call at work hands its message to next, and the message. -/
def attempt (state : MessageState) : Option (QueuedConnection × Nat) :=
  match state.call with
  | none => none
  | some (.single message index) => state.connections[index]?.map (·, message)
  | some (.broadcast message service next _) =>
      (state.connections[next]?.filter (·.addressed service)).map (·, message)

/-- No attempt to queue a message is refused the queue entry it needs. -/
def EntryGranted (state : MessageState) (action : MessageAction) : Prop :=
  action = .proceed → ∀ attempt ∈ state.attempt,
    attempt.1.drops (state.heap.message attempt.2) = false → ¬state.heap.QallocFails

end MessageState

end Football
