import Pianod.Football.Connection
import Pianod.Foundation.BigEndian

/-!
# Building WebSocket packets

Text written to a WebSocket connection waits in the assembly queue until a line is complete.  Each
complete line leaves as one frame, without its newline; a rest without newline stays behind.
-/

namespace Football

open Foundation

/-- The newline that ends a line. -/
def newline : UInt8 := 10

/-- The header of a final text frame from the server. -/
def websocketHeader (messageSize : Nat) : Text :=
  if messageSize ≤ 125 then [0x81, UInt8.ofNat messageSize]
  else if messageSize ≤ 0xffff then [0x81, 126] ++ bigEndian 2 messageSize
  else [0x81, 127] ++ bigEndian 4 0 ++ bigEndian 4 messageSize

/-- Take bytes off the front of a queue, block by block; there are at most `blocks` of them. -/
def gather : Nat → Nat → IOQueue → Except Fault (Text × IOQueue)
  | _, 0, queue => .ok ([], queue)
  | 0, _ + 1, _ => .error (.assertion "ass->first")
  | blocks + 1, messageLeft, queue =>
      match queue.first with
      | [] => .error (.assertion "ass->first")
      | front :: _ =>
          let chunkSize := min (front.length - queue.consumed) messageLeft
          match queue.queueConsume chunkSize with
          | .error fault => .error fault
          | .ok after =>
              match gather blocks (messageLeft - chunkSize) after with
              | .error fault => .error fault
              | .ok (rest, final) =>
                  .ok ((front.drop queue.consumed).take chunkSize ++ rest, final)

/-- Where the newline search starts in the last block of the assembly queue. -/
def scanStart (queue : IOQueue) : Nat := if queue.first.length = 1 then queue.consumed else 0

/-- Take the first line off an assembly queue whose last block holds a newline at an offset. -/
def takeLine (queue : IOQueue) (newlineAt : Nat) : Except Fault (Text × IOQueue) :=
  let messageSize := newlineAt + (queue.first.dropLast.map List.length).sum - queue.consumed
  match gather queue.first.length messageSize queue with
  | .error fault => .error fault
  | .ok (message, after) =>
      -- Skip the newline.
      (after.queueConsume 1).map fun final => (message, final)

namespace Connection

/-- Assemble and queue a frame for each complete line; every frame uses up a byte of fuel. -/
def encodeLines : Nat → Connection → Except Fault Connection
  | 0, connection => .ok connection
  | fuel + 1, connection =>
      match connection.assembly.first, connection.assembly.last with
      | [], _ => .error (.assertion "ass->first")
      | _, none => .error (.assertion "ass->last")
      | _, some last =>
          let start := scanStart connection.assembly
          match Text.strchr (last.drop start) newline with
          | none => .ok connection
          | some offset =>
              match takeLine connection.assembly (start + offset) with
              | .error fault => .error fault
              | .ok (message, assembly) =>
                  let framed := { connection with assembly := assembly }
                  match framed.queueHttp (websocketHeader message.length ++ message) with
                  | .error fault => .error fault
                  | .ok sent =>
                      if sent.assembly.queueEmpty then .ok sent else encodeLines fuel sent

/-- Queue a frame for every complete line of the assembly queue. -/
def websocketEncode (connection : Connection) : Except Fault Connection :=
  connection.encodeLines (connection.assembly.first.flatten.length + 1)

/-- Whether a message is dropped: it is empty, or the connection is not fully open, is closing or
reads from a file. -/
def drops (connection : Connection) (message : Text) : Bool :=
  message.isEmpty || connection.state == .closing ||
    decide (connection.state.rank < SocketState.opened.rank) || connection.isFile

/-- Put a message into the output of a connection and try to send it. -/
def queueSingle (connection : Connection) (message : Text) : Except Fault Connection :=
  if connection.drops message then .ok connection
  else if connection.http then
    match connection.assembly.queueAdd message with
    | .error fault => .error fault
    | .ok assembly =>
        match { connection with assembly := assembly }.websocketEncode with
        | .error fault => .error fault
        | .ok encoded => encoded.trySend
  else
    match connection.queueOut message with
    | .error fault => .error fault
    | .ok queued => queued.trySend

/-- What a broadcast does to one connection of the service. -/
def queueBroadcastTo (connection : Connection) (message : Text) : Except Fault Connection :=
  if message.isEmpty || connection.state == .closing || connection.isFile then .ok connection
  else connection.queueSingle message

/-- Put a message into the output of all connections of a service. -/
def queueBroadcast (connections : List Connection) (message : Text) :
    Except Fault (List Connection) :=
  connections.mapM fun connection => connection.queueBroadcastTo message

end Connection

end Football
