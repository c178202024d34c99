import Mathlib.Data.List.DropRight
import Pianod.Football.ArgvArray
import Pianod.Football.WebSocketEncode

/-!
# Reading input

Input is buffered until a line or a WebSocket frame is complete.  The readers are restarted from
the top whenever the socket is readable; all they keep is the buffer.
-/

namespace Football

open Foundation

/-- A line of input, split into terms. -/
structure InputLine where
  /-- The line as it was read. -/
  command : Text
  /-- Its terms. -/
  argv : List Term
deriving DecidableEq, Repr

namespace InputLine

/-- A command with all its terms; a C string ends at the first NUL. -/
def ofBytes (bytes : Text) : InputLine :=
  ⟨bytes.cString, commandTerms bytes.cString⟩

/-- Split a command for the application; it gets no terms if there is no memory for them. -/
def create (memory : ArgvMemory) (bytes : Text) : Except Fault InputLine :=
  (createArgv memory bytes.cString).map fun terms => ⟨bytes.cString, terms.getD []⟩

/-- Extract the message of a frame; the size of the copy, with the NUL after it, is computed in
32 bits. -/
def extract (payload : Text) : Except Fault InputLine :=
  if (payload.length + 1) % 2 ^ 32 ≤ payload.length then .error .outOfBounds
  else create .plenty payload

end InputLine

namespace Connection

/-- Expand the input buffer. -/
def setInputBufferSize (connection : Connection) (size : Nat) : Except Fault Connection :=
  if size ≤ connection.input.capacity then .error (.assertion "size > connection->in.capacity")
  else .ok { connection with input := { connection.input with capacity := size + 100 } }

/-- Take bytes that have arrived into the buffer. -/
def takeBytes (connection : Connection) (bytes : Text) (arrivals : List Arrival) : Connection :=
  { connection with
    input := { connection.input with message := connection.input.message ++ bytes }
    arrivals := arrivals }

/-- Read some bytes from the socket; the answer tells whether as many came as were asked for. -/
def recvInput (connection : Connection) (byteCount : Nat) : Except Fault (Bool × Connection) :=
  if byteCount = 0 then .error (.assertion "byte_count > 0")
  else if connection.input.capacity < connection.input.message.length + byteCount then
    .error (.assertion "connection->in.size + byte_count <= connection->in.capacity")
  else match connection.arrivals with
    | [] => .ok (false, connection)
    | .nothing :: arrivals => .ok (false, { connection with arrivals := arrivals })
    | .endOfStream :: _ | .bytes [] :: _ => .ok (false, connection.closeConnection)
    | .failed :: arrivals => .ok (false, { connection with arrivals := arrivals }.closeConnection)
    | .bytes piece :: arrivals =>
        if piece.length ≤ byteCount then
          .ok (decide (byteCount ≤ piece.length), connection.takeBytes piece arrivals)
        else .ok (true,
          connection.takeBytes (piece.take byteCount) (.bytes (piece.drop byteCount) :: arrivals))

/-- Ensure that the buffer holds a number of bytes. -/
def getHttpBytes (connection : Connection) (size : Nat) : Except Fault (Bool × Connection) :=
  if size < connection.input.message.length then
    .error (.assertion "size >= connection->in.size")
  else if connection.input.message.length = size then .ok (true, connection)
  else if connection.input.capacity < size then
    match connection.setInputBufferSize (size + 128) with
    | .error fault => .error fault
    | .ok grown => grown.recvInput (size - connection.input.message.length)
  else connection.recvInput (size - connection.input.message.length)

end Connection

/-! ## Commands -/

namespace InputLine

/-- A message that can be copied and split. -/
def Extractable (payload : Text) : Prop :=
  payload.length + 1 < 2 ^ 32 ∧ ArgvVector.FewWords payload

instance (payload : Text) : Decidable (Extractable payload) :=
  inferInstanceAs (Decidable (_ ∧ _))

variable {bytes payload : Text}

theorem create_few (few : ArgvVector.FewWords bytes.cString) :
    create .plenty bytes = .ok (ofBytes bytes) := by
  rw [create, ArgvArray.createArgv_few few]
  rfl

theorem create_many (many : ¬ArgvVector.FewWords bytes.cString) :
    create .plenty bytes = .error .signedOverflow := by
  rw [create, ArgvMemory.plenty, ArgvArray.createArgv_many many]
  rfl

theorem extract_eq (free : Text.NulFree payload) (extractable : Extractable payload) :
    extract payload = .ok (ofBytes payload) := by
  have short := extractable.1
  rw [extract, if_neg (by omega)]
  exact create_few (by rw [Text.cString_eq free]; exact extractable.2)

/-- Any other message stops the server. -/
theorem extract_error (free : Text.NulFree payload) (short : payload.length < 2 ^ 32)
    (harmful : ¬Extractable payload) : ∃ fault, extract payload = .error fault := by
  rw [extract]
  split
  · exact ⟨_, rfl⟩
  · rename_i fits
    refine ⟨_, create_many fun few => harmful ⟨by omega, ?_⟩⟩
    rwa [Text.cString_eq free] at few

end InputLine

/-! ## WebSocket frames -/

/-- The number of bytes of the extended length a length code calls for. -/
def lengthSize (code : Nat) : Nat := if code = 126 then 2 else if code = 127 then 8 else 0

/-- The size of the header of a masked frame. -/
def headerSize (code : Nat) : Nat := 2 + lengthSize code + 4

/-- The payload length in a complete header, unless it takes more than 32 bits. -/
def dataLength (code : Nat) (header : Text) : Option Nat :=
  if code = 126 then some (ofBigEndian ((header.drop 2).take 2))
  else if code = 127 then
    if (header.drop 2).take 4 = [0, 0, 0, 0] then some (ofBigEndian ((header.drop 6).take 4))
    else none
  else some code

/-- Mask or unmask with a key of four bytes. -/
def performUnmask (message mask : Text) : Text :=
  message.mapIdx fun index byte => byte ^^^ mask.getD (index % 4) 0

namespace Connection

/-- Act on a complete frame in the buffer. -/
def executeFrame (connection : Connection) (packet : Text) (headerSize : Nat) :
    Except Fault (Option InputLine × Connection) :=
  let payload := performUnmask (packet.drop headerSize) ((packet.drop (headerSize - 4)).take 4)
  -- The packet as it would be sent back: unmasked, but for the key.
  let echo (opcode : UInt8) := [opcode, packet.getD 1 0 &&& 0x7f] ++
    (packet.take headerSize).drop 2 ++ payload
  match (packet.getD 0 0 &&& 0x0f).toNat with
  | 8 =>
      match connection.queueHttp (echo (packet.getD 0 0)) with
      | .error fault => .error fault
      | .ok sent => .ok (none, sent.closeConnection)
  | 9 =>
      match connection.queueHttp (echo 0x0a) with
      | .error fault => .error fault
      | .ok sent => .ok (none, sent)
  | 10 => .error (.assertion "0")
  | 1 | 2 => (InputLine.extract payload).map fun line => (some line, connection)
  | _ => .ok (none, connection.closeConnection)

/-- Read a frame; the line it carries, if it is complete and carries one. -/
def readWebsocketInput (connection : Connection) :
    Except Fault (Option InputLine × Connection) :=
  match connection.getHttpBytes 2 with
  | .error fault => .error fault
  | .ok (false, short) => .ok (none, short)
  | .ok (true, started) =>
      let payloadByte := (started.input.message.getD 1 0).toNat
      if payloadByte < 128 then .ok (none, started.closeConnection)
      else
        let code := payloadByte % 128
        match started.getHttpBytes (headerSize code) with
        | .error fault => .error fault
        | .ok (false, short) => .ok (none, short)
        | .ok (true, headed) =>
            match dataLength code headed.input.message with
            | none => .ok (none, headed)
            | some length =>
                match headed.getHttpBytes (headerSize code + length) with
                | .error fault => .error fault
                | .ok (false, short) => .ok (none, short)
                | .ok (true, complete) =>
                    { complete with input := { complete.input with message := [] } }.executeFrame
                      complete.input.message (headerSize code)

end Connection

/-! ## Lines -/

namespace Connection

/-- Read bytes one at a time up to a newline; the arrived bytes bound the number of reads. -/
def getLineBytes : Nat → Connection → Except Fault (Option Text × Connection)
  | 0, connection => .ok (none, connection)
  | fuel + 1, connection =>
      let room :=
        if connection.input.message.length = connection.input.capacity then
          connection.setInputBufferSize (connection.input.capacity * 2 + 64)
        else .ok connection
      match room with
      | .error fault => .error fault
      | .ok connection =>
          match connection.recvInput 1 with
          | .error fault => .error fault
          | .ok (false, short) => .ok (none, short)
          | .ok (true, longer) =>
              if longer.input.message.getLast? = some newline then
                .ok (some longer.input.message,
                  { longer with input := { longer.input with message := [] } })
              else getLineBytes fuel longer

/-- The number of bytes that have arrived. -/
def arrived (connection : Connection) : Nat :=
  (connection.arrivals.map fun
    | .bytes piece => piece.length
    | _ => 0).sum

/-- Get the next line of a file; at its end the connection closes. -/
def getFileLine (connection : Connection) : Option Text × Connection :=
  match connection.arrivals with
  | .bytes line :: arrivals => (some line, { connection with arrivals := arrivals })
  | _ => (none, connection.closeConnection)

/-- Read a line of input, less its line end. -/
def readLineInput (connection : Connection) : Except Fault (Option InputLine × Connection) :=
  let received :=
    if connection.isFile then .ok connection.getFileLine
    else getLineBytes (connection.arrived + 1) connection
  match received with
  | .error fault => .error fault
  | .ok (none, after) => .ok (none, after)
  | .ok (some line, after) =>
      (InputLine.create .plenty (line.rdropWhile fun byte => byte == 13 || byte == 10)).map
        fun line => (some line, after)

end Connection

end Football
