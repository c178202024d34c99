import Pianod.Football.Message

/-!
# Connections and their output

A connection carries its queues, its input buffer and the bits the socket manager keeps for its
descriptor.  The network is part of it: `arrivals` and `sends` hold the answers that future
`recv` and `send` calls will get, and `journal` records what was queued and sent.
-/

namespace Football

open Foundation

/-- The states of a connection, in the order of its life. -/
inductive SocketState where
  | tlsHandshake
  | greeting
  | gatheringHeader
  | opened
  | flushing
  | closing
deriving DecidableEq, Repr

/-- The position of a state; the source compares states by it. -/
def SocketState.rank : SocketState → Nat
  | .tlsHandshake => 0
  | .greeting => 1
  | .gatheringHeader => 2
  | .opened => 3
  | .flushing => 4
  | .closing => 5

/-- The answer to a `send` call; a short count is a partial send. -/
inductive SendResult where
  | sent (count : Nat)
  | wouldBlock
  | failed
deriving DecidableEq, Repr

/-- What a `recv` call finds: nothing yet, some bytes, the end of the stream or an error. -/
inductive Arrival where
  | nothing
  | bytes (piece : Text)
  | endOfStream
  | failed
deriving DecidableEq, Repr

/-- What happened on the output side. -/
inductive WireEvent where
  | queued (message : Text)
  | sent (bytes : Text)
  | sendFailed
deriving DecidableEq, Repr

/-- An HTTP request as it is collected. -/
structure HttpRequest where
  unsupported : Bool
  headonly : Bool
  http : Option Text
  host : Option Text
  serviceName : Option Text
  filename : Option Text
  upgradeType : Option Text
  websocketKey : Option Text
  websocketProtocol : Option Text
  websocketVersion : Option Text
  ifModifiedSince : Option Text
  invalid : Bool
  failure : Bool
deriving DecidableEq, Repr

/-- No request yet. -/
def HttpRequest.none : HttpRequest :=
  ⟨false, false, .none, .none, .none, .none, .none, .none, .none, .none, .none, false, false⟩

/-- The bytes buffered so far and the size of the buffer. -/
structure InputBuffer where
  message : Text
  capacity : Nat
deriving DecidableEq, Repr

structure Connection where
  socket : Nat
  state : SocketState
  /-- Whether the optional greeting has been dealt with. -/
  greeted : Bool
  http : Bool
  /-- Whether the connection is secured by TLS. -/
  encrypted : Bool
  /-- Whether input is read from a file. -/
  isFile : Bool
  /-- The request that is being collected. -/
  request : HttpRequest
  /-- Output waiting to be assembled into WebSocket packets. -/
  assembly : IOQueue
  /-- Output ready for the socket. -/
  out : IOQueue
  /-- What was read and is not yet a line. -/
  input : InputBuffer
  /-- Whether the socket is watched for input. -/
  readable : Bool
  /-- Whether the socket is watched for output. -/
  writable : Bool
  /-- Whether input is read that TLS has decrypted already. -/
  buffering : Bool
  /-- What the peer is yet to send. -/
  arrivals : List Arrival
  /-- What the next calls of `send` answer. -/
  sends : List SendResult
  /-- What was queued and sent, in this order. -/
  journal : List WireEvent
  /-- Whether the state has ever been past `opened`; the source keeps no such record. -/
  wasClosing : Bool
deriving DecidableEq, Repr

namespace Connection

/-- Initiate closure; a connection on its way out keeps its state. -/
def closeConnection (connection : Connection) : Connection :=
  { connection with
    state := if connection.state.rank ≤ SocketState.opened.rank then .flushing
      else connection.state
    writable := true
    readable := false
    buffering := false
    wasClosing := true }

/-- The bytes handed to one `send` call. -/
def offered (out : IOQueue) : Except Fault Text :=
  match out.first with
  | [] => .error .nullDereference
  | front :: _ =>
      -- Past the end of the block the length asked for wraps around.
      if out.consumed ≤ front.length then .ok (front.drop out.consumed) else .error .outOfBounds

/-- The output side between two calls of `send`. -/
structure Sending where
  out : IOQueue
  sends : List SendResult
  journal : List WireEvent
  failed : Bool

/-- Send queued blocks until the network takes no more. -/
def sendLoop (out : IOQueue) (journal : List WireEvent) :
    List SendResult → Except Fault Sending
  | [] =>
      match offered out with
      | .error fault => .error fault
      | .ok _ => (out.queueConsume 0).map fun after => ⟨after, [], journal, false⟩
  | .wouldBlock :: sends =>
      match offered out with
      | .error fault => .error fault
      | .ok _ => (out.queueConsume 0).map fun after => ⟨after, sends, journal, false⟩
  | .failed :: sends =>
      (offered out).map fun _ => ⟨out.queueDestroy, sends, journal ++ [.sendFailed], true⟩
  | .sent count :: sends =>
      match offered out with
      | .error fault => .error fault
      | .ok available =>
          let written := min count available.length
          match out.queueConsume written with
          | .error fault => .error fault
          | .ok after =>
              if 0 < written ∧ after.queueEmpty = false then
                sendLoop after (journal ++ [.sent (available.take written)]) sends
              else .ok ⟨after, sends, journal ++ [.sent (available.take written)], false⟩

/-- What becomes of a connection when its output is attended to. -/
inductive SendReport where
  | nothing
  | closeEvent
  | destroyed
deriving DecidableEq, Repr

/-- Send everything that is queued as far as possible. -/
def flushOutput (connection : Connection) : Except Fault Connection :=
  match sendLoop connection.out connection.journal connection.sends with
  | .error fault => .error fault
  | .ok sending =>
      let sent := { connection with
        out := sending.out, sends := sending.sends, journal := sending.journal }
      let closed := if sending.failed then sent.closeConnection else sent
      .ok (if closed.out.queueEmpty then closed else { closed with writable := true })

/-- Write output from the queue; closure proceeds only when there is an event to report it. -/
def sendOutput (connection : Connection) (withEvent : Bool) :
    Except Fault (Connection × SendReport) :=
  if connection.out.queueEmpty then
    if !withEvent then .ok (connection, .nothing)
    else if connection.state = .flushing then
      .ok ({ connection with state := .closing }, .closeEvent)
    else if connection.state = .closing then
      .ok ({ connection with
        assembly := connection.assembly.queueDestroy
        out := connection.out.queueDestroy }, .destroyed)
    else .ok ({ connection with writable := false }, .nothing)
  else connection.flushOutput.map fun connection => (connection, .nothing)

/-- Attend to the output without an event at hand. -/
def trySend (connection : Connection) : Except Fault Connection :=
  (connection.sendOutput false).map Prod.fst

/-- Add a message to the output queue and record it. -/
def queueOut (connection : Connection) (message : Text) : Except Fault Connection :=
  (connection.out.queueAdd message).map fun out =>
    { connection with out := out, journal := connection.journal ++ [.queued message] }

/-- Queue raw bytes for the socket and try to send them. -/
def queueHttp (connection : Connection) (message : Text) : Except Fault Connection := do
  let queued ← connection.queueOut message
  queued.trySend

end Connection

end Football
