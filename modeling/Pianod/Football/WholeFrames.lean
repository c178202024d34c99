import Pianod.Football.WebSocketOutput
import Pianod.Football.WebSocketDecode

/-!
# Frames that arrive whole

When a frame is available whole, one call reads it and acts on it.  A text frame made from the
encoder's output comes back as the line that was encoded, for every length but one.  The answers to
control frames repeat the key of the frame they answer, so none of them is well formed.
-/

namespace Football

open Foundation

namespace Connection

/-! ## Reading a whole frame -/

/-- What is left of a piece and what arrives after it. -/
def leave (piece : Text) (later : List Arrival) : List Arrival :=
  if piece = [] then later else .bytes piece :: later

theorem leave_of_ne_nil {piece : Text} (nonempty : piece ≠ []) (later : List Arrival) :
    leave piece later = .bytes piece :: later := if_neg nonempty

/-- Bytes that are available in one piece come at once. -/
theorem recvInput_piece {connection : Connection} {piece : Text} {later : List Arrival}
    {count : Nat} (positive : 0 < count) (enough : count ≤ piece.length)
    (room : connection.input.message.length + count ≤ connection.input.capacity)
    (shape : connection.arrivals = leave piece later) :
    connection.recvInput count =
      .ok (true, connection.takeBytes (piece.take count) (leave (piece.drop count) later)) := by
  have some_piece : piece ≠ [] := List.length_pos_iff.mp (by omega)
  have fits : ¬connection.input.capacity < connection.input.message.length + count := by omega
  rw [leave_of_ne_nil some_piece] at shape
  rw [recvInput, if_neg (by omega), if_neg fits, shape]
  obtain ⟨byte, piece, rfl⟩ := List.exists_cons_of_ne_nil some_piece
  by_cases all : (byte :: piece).length ≤ count
  · have same : count = (byte :: piece).length := by omega
    rw [same, List.take_length, List.drop_length]
    simp only [Nat.le_refl, if_true, decide_true]
    rfl
  · have left : (byte :: piece).drop count ≠ [] := by
      rw [← List.length_pos_iff, List.length_drop]
      omega
    rw [leave_of_ne_nil left]
    simp only [all, if_false]

/-- Asking for bytes up to a size that is available gets them. -/
theorem getHttpBytes_piece {connection : Connection} {piece : Text} {later : List Arrival}
    {size : Nat} (asked : connection.input.message.length ≤ size)
    (enough : size ≤ connection.input.message.length + piece.length)
    (shape : connection.arrivals = leave piece later) :
    ∃ capacity, connection.getHttpBytes size = .ok (true,
      { connection with
        input := ⟨connection.input.message ++
          piece.take (size - connection.input.message.length), capacity⟩
        arrivals := leave (piece.drop (size - connection.input.message.length)) later }) := by
  rw [getHttpBytes, if_neg (Nat.not_lt.mpr asked)]
  by_cases ready : connection.input.message.length = size
  · refine ⟨connection.input.capacity, ?_⟩
    rw [if_pos ready, ready, Nat.sub_self, List.take_zero, List.drop_zero, List.append_nil, ← shape]
  · rw [if_neg ready]
    by_cases full : connection.input.capacity < size
    · let grown : Connection :=
        { connection with input := { connection.input with capacity := size + 128 + 100 } }
      have room : grown.input.message.length + (size - connection.input.message.length) ≤
          grown.input.capacity := by
        show connection.input.message.length + _ ≤ size + 128 + 100
        omega
      have growth : connection.setInputBufferSize (size + 128) = .ok grown := by
        rw [setInputBufferSize, if_neg (by omega)]
      refine ⟨size + 128 + 100, ?_⟩
      rw [if_pos full, growth]
      exact recvInput_piece (by omega) (by omega) room shape
    · refine ⟨connection.input.capacity, ?_⟩
      rw [if_neg full]
      exact recvInput_piece (by omega) (by omega) (by omega) shape

/-- The connection with a number of a packet's bytes in its buffer and the others available. -/
def buffered (connection : Connection) (packet : Text) (later : List Arrival)
    (size capacity : Nat) : Connection :=
  { connection with
    input := ⟨packet.take size, capacity⟩
    arrivals := leave (packet.drop size) later }

/-- More of the packet comes whenever it is asked for. -/
theorem getHttpBytes_buffered {packet : Text} {size more : Nat} (forward : size ≤ more)
    (inside : more ≤ packet.length) (connection : Connection) (later : List Arrival)
    (capacity : Nat) :
    ∃ grown, (connection.buffered packet later size capacity).getHttpBytes more =
      .ok (true, connection.buffered packet later more grown) := by
  have held : (packet.take size).length = size := by
    rw [List.length_take]
    omega
  obtain ⟨grown, came⟩ := @getHttpBytes_piece
    (connection.buffered packet later size capacity) (packet.drop size) later more
    (held.trans_le forward)
    (by simp only [buffered, held, List.length_drop]; omega) rfl
  refine ⟨grown, came.trans ?_⟩
  have joined : packet.take size ++ (packet.drop size).take (more - size) = packet.take more := by
    rw [← List.take_add, Nat.add_sub_cancel' forward]
  have left : (packet.drop size).drop (more - size) = packet.drop more := by
    rw [List.drop_drop, Nat.add_sub_cancel' forward]
  simp only [buffered, held, joined, left]

/-- A masked frame whose header tells the length of its payload is acted on by the call that finds
it. -/
theorem readWebsocketInput_whole {connection : Connection} {flags : UInt8} {code : Nat}
    {rest body : Text} {later : List Arrival} (empty : connection.input.message = [])
    (small : code < 128) (size : rest.length + 2 = headerSize code)
    (told : dataLength code (flags :: UInt8.ofNat (128 + code) :: rest) = some body.length)
    (shape : connection.arrivals =
      .bytes (flags :: UInt8.ofNat (128 + code) :: rest ++ body) :: later) :
    ∃ capacity, connection.readWebsocketInput =
      { connection with input := ⟨[], capacity⟩, arrivals := later }.executeFrame
        (flags :: UInt8.ofNat (128 + code) :: rest ++ body) (headerSize code) := by
  generalize packet_eq : flags :: UInt8.ofNat (128 + code) :: rest ++ body = packet at shape ⊢
  have header : packet.take (headerSize code) = flags :: UInt8.ofNat (128 + code) :: rest := by
    rw [← packet_eq]
    exact List.take_left' size
  have length : packet.length = headerSize code + body.length := by
    rw [← packet_eq, ← size]
    simp
    omega
  have some_packet : packet ≠ [] := by
    rw [← packet_eq]
    exact List.cons_ne_nil _ _
  have second : ((packet.take 2).getD 1 0).toNat = 128 + code := by
    rw [← packet_eq]
    simp only [List.cons_append, List.take_succ_cons, List.getD_cons_succ, List.getD_cons_zero,
      UInt8.toNat_ofNat']
    omega
  have start : connection = connection.buffered packet later 0 connection.input.capacity := by
    rw [buffered, List.take_zero, List.drop_zero, leave_of_ne_nil some_packet, ← shape, ← empty]
  have two : 2 ≤ headerSize code := by omega
  obtain ⟨first, asked⟩ := @getHttpBytes_buffered packet 0 2 (Nat.zero_le 2) (by omega)
    connection later connection.input.capacity
  obtain ⟨middle, header_asked⟩ := @getHttpBytes_buffered packet 2 (headerSize code) two
    (by omega) connection later first
  obtain ⟨final, frame_asked⟩ := getHttpBytes_buffered (Nat.le_add_right _ body.length)
    length.ge connection later middle
  rw [← start] at asked
  have code_eq : (128 + code) % 128 = code := by omega
  have masked : ¬128 + code < 128 := by omega
  refine ⟨final, ?_⟩
  have at_two : (connection.buffered packet later 2 first).input.message = packet.take 2 := rfl
  have at_header : (connection.buffered packet later (headerSize code) middle).input.message =
      packet.take (headerSize code) := rfl
  rw [readWebsocketInput, asked]
  simp only [at_two, second, masked, if_false, code_eq, header_asked, at_header, header, told,
    frame_asked]
  rw [buffered, ← length, List.take_length, List.drop_length]
  rfl

end Connection

/-! ## Control frames -/

namespace Connection

/-- The connection with nothing buffered and a whole frame available. -/
def receiving (connection : Connection) (frame : Text) : Connection :=
  { connection with
    input := { connection.input with message := [] }
    arrivals := .bytes frame :: connection.arrivals }

/-- A control frame is answered as the protocol has it: a ping with a final pong frame of the same
payload, a close with a close frame of the same payload, after which the connection starts to
close; and an unsolicited pong does no harm. -/
def Answers (connection : Connection) (frame : ControlFrame) : Prop :=
  ∃ after, (connection.receiving frame.bytes).readWebsocketInput = .ok (none, after) ∧
    match frame.opcode with
    | .ping => ∃ message,
        queuedMessages after.journal = queuedMessages connection.journal ++ [message] ∧
        ServerFrame.ofStream message = some [⟨true, 0, 10, frame.payload⟩]
    | .close => (∃ message,
        queuedMessages after.journal = queuedMessages connection.journal ++ [message] ∧
        ServerFrame.ofStream message = some [⟨true, 0, 8, frame.payload⟩]) ∧
        SocketState.opened.rank < after.state.rank
    | .pong => True

private theorem readWebsocketInput_control (connection : Connection) (frame : ControlFrame) :
    ∃ capacity, (connection.receiving frame.bytes).readWebsocketInput =
      { connection with input := ⟨[], capacity⟩ }.executeFrame frame.bytes 6 := by
  have fits := frame.fits
  have plain : frame.payload.length ≠ 126 ∧ frame.payload.length ≠ 127 := by omega
  have size : headerSize frame.payload.length = 6 := by simp [headerSize, lengthSize, plain]
  have told : dataLength frame.payload.length frame.header =
      some (applyMask frame.payload frame.key).length := by
    simp [dataLength, plain]
  obtain ⟨capacity, call⟩ := @readWebsocketInput_whole (connection.receiving frame.bytes)
    (UInt8.ofNat (128 + frame.opcode.number)) frame.payload.length frame.key
    (applyMask frame.payload frame.key) connection.arrivals rfl (by omega)
    (by rw [size, frame.key_length]) told rfl
  rw [size] at call
  exact ⟨capacity, call⟩

private theorem echo_length (frame : ControlFrame) (opcode : UInt8) :
    ([opcode, frame.bytes.getD 1 0 &&& 0x7f] ++ (frame.bytes.take 6).drop 2 ++
      performUnmask (frame.bytes.drop 6) ((frame.bytes.drop (6 - 4)).take 4)).length =
        6 + frame.payload.length := by
  have whole : frame.bytes.length = 6 + frame.payload.length := by
    rw [ControlFrame.bytes, List.length_append, frame.length_header, length_applyMask]
  simp only [List.length_append, List.length_cons, List.length_nil, List.length_drop,
    List.length_take, performUnmask, List.length_mapIdx, whole]
  omega

theorem not_wellFormed_echo (frame : ControlFrame) (opcode : UInt8) (answer : Nat) :
    ServerFrame.ofStream ([opcode, frame.bytes.getD 1 0 &&& 0x7f] ++
      (frame.bytes.take 6).drop 2 ++
      performUnmask (frame.bytes.drop 6) ((frame.bytes.drop (6 - 4)).take 4)) ≠
        some [⟨true, 0, answer, frame.payload⟩] := by
  intro found
  have length := ServerFrame.length_of_ofStream found frame.fits
  rw [echo_length] at length
  dsimp only at length
  omega

/-- No control frame is answered well, whatever its kind, key and payload: an answer repeats the
key before the payload, and a pong makes an assertion fail. -/
theorem not_answers (connection : Connection) (frame : ControlFrame) :
    ¬Answers connection frame := by
  rintro ⟨after, answered, well⟩
  obtain ⟨capacity, call⟩ := readWebsocketInput_control connection frame
  have flags : (frame.bytes.getD 0 0 &&& 0x0f).toNat = frame.opcode.number := by
    rw [ControlFrame.bytes, ControlFrame.header, List.append_assoc, List.cons_append,
      List.getD_cons_zero]
    cases frame.opcode <;> decide
  rw [call, executeFrame] at answered
  simp only [flags] at answered
  cases kind : frame.opcode with
  | close =>
      simp only [kind, ControlOpcode.number] at answered well
      split at answered
      · cases answered
      · rename_i sent queued
        obtain ⟨message, recorded, found⟩ := well.1
        obtain rfl := congrArg Prod.snd (Except.ok.inj answered)
        have same := List.append_cancel_left ((queueHttp_queued queued).symm.trans recorded)
        rw [← List.singleton_injective same] at found
        exact not_wellFormed_echo frame _ 8 found
  | ping =>
      simp only [kind, ControlOpcode.number] at answered well
      split at answered
      · cases answered
      · rename_i sent queued
        obtain ⟨message, recorded, found⟩ := well
        obtain rfl := congrArg Prod.snd (Except.ok.inj answered)
        have same := List.append_cancel_left ((queueHttp_queued queued).symm.trans recorded)
        rw [← List.singleton_injective same] at found
        exact not_wellFormed_echo frame 0x0a 10 found
  | pong =>
      simp only [kind, ControlOpcode.number] at answered
      cases answered

/-- A ping that says hi. -/
def samplePing : ControlFrame where
  opcode := .ping
  key := [1, 2, 3, 4]
  payload := ascii "hi"
  key_length := sampleFrame.key_length
  fits := by decide

/-- The answer to a ping starts with the bare opcode and has the key before the payload. -/
theorem samplePing_echoed : ¬Answers (sampleReader []) samplePing := by
  rintro ⟨after, answered, message, recorded, found⟩
  have echoed : ((sampleReader []).receiving samplePing.bytes).readWebsocketInput.map
      (fun result => queuedMessages result.2.journal) =
        .ok [[0x0a, 2, 1, 2, 3, 4, 104, 105]] := by rfl
  rw [answered] at echoed
  have queued : queuedMessages after.journal = [[0x0a, 2, 1, 2, 3, 4, 104, 105]] :=
    Except.ok.inj echoed
  rw [recorded] at queued
  obtain rfl : message = [0x0a, 2, 1, 2, 3, 4, 104, 105] := List.singleton_injective queued
  revert found
  decide

end Connection

/-! ## Text frames -/

/-- What a client would send for the server's frame: the mask bit is set, the key follows the
length, and the payload is masked. -/
def maskFrame (key frame : Text) : Text :=
  let start := 2 + lengthSize (frame.getD 1 0).toNat
  [frame.getD 0 0, frame.getD 1 0 ||| 0x80] ++ (frame.take start).drop 2 ++ key ++
    applyMask (frame.drop start) key

private theorem or_mask {code : Nat} (small : code < 128) :
    UInt8.ofNat code ||| 0x80 = UInt8.ofNat (128 + code) := by
  have added : 2 ^ 7 * 1 + code = 2 ^ 7 * 1 ||| code := Nat.two_pow_add_eq_or_of_lt small 1
  apply UInt8.toNat_inj.mp
  rw [UInt8.toNat_or, UInt8.toNat_ofNat', UInt8.toNat_ofNat', Nat.or_comm,
    Nat.mod_eq_of_lt (by omega), Nat.mod_eq_of_lt (by omega)]
  exact added.symm

private theorem maskFrame_eq {code : Nat} {extended : Text} (small : code < 128)
    (size : extended.length = lengthSize code) (line key : Text) :
    maskFrame key ([0x81, UInt8.ofNat code] ++ extended ++ line) =
      0x81 :: UInt8.ofNat (128 + code) :: (extended ++ key) ++ applyMask line key := by
  have code_eq : (UInt8.ofNat code).toNat = code := by
    rw [UInt8.toNat_ofNat']
    omega
  have second : ([0x81, UInt8.ofNat code] ++ extended ++ line).getD 1 0 = UInt8.ofNat code := rfl
  have front : ([0x81, UInt8.ofNat code] ++ extended).length = 2 + lengthSize code := by
    rw [List.length_append, size]
    rfl
  rw [maskFrame, second, code_eq, or_mask small, ← front, List.take_left, List.drop_left]
  simp

/-- The encoder's frame has a length code and an extended length that the reader understands. -/
theorem lineFrame_form {line : Text} (short : line.length < 2 ^ 32) :
    ∃ code extended, lineFrame line = [0x81, UInt8.ofNat code] ++ extended ++ line ∧
      code < 128 ∧ extended.length = lengthSize code ∧
      ∀ flags second key,
        dataLength code (flags :: second :: (extended ++ key)) = some line.length := by
  rw [lineFrame, websocketHeader]
  split
  · refine ⟨line.length, [], rfl, by omega, ?_, ?_⟩
    · have plain : line.length ≠ 126 ∧ line.length ≠ 127 := by omega
      simp [lengthSize, plain]
    · have plain : line.length ≠ 126 ∧ line.length ≠ 127 := by omega
      simp [dataLength, plain]
  · split
    · have written : ofBigEndian (bigEndian 2 line.length) = line.length := by
        rw [ofBigEndian_bigEndian]
        omega
      refine ⟨126, bigEndian 2 line.length, rfl, by omega, length_bigEndian _ _, fun _ _ key => ?_⟩
      have front : (bigEndian 2 line.length ++ key).take 2 = bigEndian 2 line.length :=
        List.take_left' (length_bigEndian _ _)
      simp [dataLength, front, written]
    · have written : ofBigEndian (bigEndian 4 line.length) = line.length := by
        rw [ofBigEndian_bigEndian]
        omega
      refine ⟨127, bigEndian 4 0 ++ bigEndian 4 line.length, by simp, by omega, ?_,
        fun _ _ key => ?_⟩
      · simp [lengthSize]
      · have front : (bigEndian 4 line.length ++ key).take 4 = bigEndian 4 line.length :=
          List.take_left' (length_bigEndian _ _)
        have zero : bigEndian 4 0 = [0, 0, 0, 0] := rfl
        simp [dataLength, zero, front, written]

namespace Connection

/-- The reader extracts the payload of a masked text frame. -/
theorem executeFrame_masked {rest line key : Text} {code : Nat} (connection : Connection)
    (second : UInt8) (size : rest.length + key.length + 2 = headerSize code)
    (keyed : key.length = 4) :
    connection.executeFrame (0x81 :: second :: (rest ++ key) ++ applyMask line key)
        (headerSize code) =
      (InputLine.extract line).map fun line => (some line, connection) := by
  have front : (0x81 :: second :: (rest ++ key)).length = headerSize code := by
    rw [List.length_cons, List.length_cons, List.length_append]
    omega
  have at_key : headerSize code - 4 = (0x81 :: second :: rest).length := by
    rw [List.length_cons, List.length_cons]
    omega
  have masked : (0x81 :: second :: (rest ++ key) ++ applyMask line key).drop (headerSize code) =
      applyMask line key := by
    rw [← front, List.drop_left]
  have used : ((0x81 :: second :: (rest ++ key) ++ applyMask line key).drop
      (headerSize code - 4)).take 4 = key := by
    rw [at_key, ← List.cons_append, ← List.cons_append, List.append_assoc, List.drop_left]
    exact List.take_left' keyed
  have payload : performUnmask (applyMask line key) key = line := applyMask_applyMask line key
  have opcode : ((0x81 :: second :: (rest ++ key) ++ applyMask line key).getD 0 0 &&& 0x0f).toNat =
      1 := by
    rw [List.cons_append, List.getD_cons_zero]
    decide
  rw [executeFrame]
  simp only [masked, used, payload, opcode]

/-- A line that was encoded and masked is read back in one call, if it can be extracted. -/
theorem readWebsocketInput_maskFrame (reader : Connection) {line key : Text}
    (short : line.length < 2 ^ 32) (keyed : key.length = 4) :
    ∃ capacity, (reader.receiving (maskFrame key (lineFrame line))).readWebsocketInput =
      (InputLine.extract line).map fun line =>
        (some line, { reader with input := ⟨[], capacity⟩ }) := by
  obtain ⟨code, extended, shape, small, size, told⟩ := lineFrame_form short
  have header : (extended ++ key).length + 2 = headerSize code := by
    rw [List.length_append, size, keyed, headerSize]
    omega
  rw [shape, maskFrame_eq small size]
  have length := told 0x81 (UInt8.ofNat (128 + code)) key
  rw [← length_applyMask line key] at length
  obtain ⟨capacity, call⟩ := @readWebsocketInput_whole (reader.receiving _) 0x81 code
    (extended ++ key) (applyMask line key) reader.arrivals rfl small header length rfl
  rw [List.length_append] at header
  exact ⟨capacity, call.trans (executeFrame_masked _ _ header keyed)⟩

/-- A writer that is about to encode a line: its assembly queue holds the line and a newline, in any
number of blocks, and the network takes its output. -/
structure HoldsLine (writer : Connection) (line : Text) : Prop where
  transport : Transport False writer.out writer.sends
  assembled : Assembled writer.assembly
  pending : writer.assembly.pending = line ++ [newline]

/-- There is something to search in the last block. -/
theorem scanned_ne_nil {queue : IOQueue} (well : queue.WellFormed) {last : Text}
    (tail : queue.last = some last) : scanned queue last ≠ [] := by
  have ends := well.ends
  rw [tail] at ends
  obtain ⟨front, shape⟩ : ∃ front, queue.first = front ++ [last] :=
    List.getLast?_eq_some_iff.mp ends.symm
  rw [scanned, ← List.length_pos_iff, List.length_drop, scanStart]
  split
  · rename_i one
    have alone : front = [] := by
      rw [shape, List.length_append, List.length_singleton] at one
      exact List.length_eq_zero_iff.mp (by omega)
    have inside := well.inside last (by rw [shape, alone]; rfl)
    omega
  · have filled := well.blocks last (List.mem_of_getLast? ends.symm)
    have positive := List.length_pos_iff.mpr filled
    omega

theorem HoldsLine.present {writer : Connection} {line : Text} (holds : HoldsLine writer line) :
    writer.assembly.first ≠ [] := by
  intro gone
  have nothing := holds.pending
  rw [IOQueue.pending, gone] at nothing
  simp at nothing

/-- The newline is in the last block. -/
theorem HoldsLine.early {writer : Connection} {line : Text} (holds : HoldsLine writer line)
    (single : newline ∉ line) : newline ∉ beforeScan writer.assembly := by
  obtain ⟨last, tail⟩ : ∃ last, writer.assembly.last = some last := by
    rw [holds.assembled.well.ends]
    exact ⟨_, List.getLast?_eq_getLast_of_ne_nil holds.present⟩
  obtain ⟨pending_eq, -⟩ := pending_eq_scan holds.assembled.well tail
  rw [holds.pending] at pending_eq
  have within := scanned_ne_nil holds.assembled.well tail
  rcases List.append_eq_append_iff.mp pending_eq with
    ⟨more, before_eq, newline_eq⟩ | ⟨more, line_eq, -⟩
  · rcases List.append_eq_singleton_iff.mp newline_eq.symm with ⟨rfl, -⟩ | ⟨-, nothing⟩
    · rw [before_eq, List.append_nil]
      exact single
    · exact absurd nothing within
  · rw [line_eq] at single
    exact fun member => single (List.mem_append_left _ member)

/-- Encoding a line queues its frame. -/
theorem HoldsLine.encoded {writer : Connection} {line : Text} (holds : HoldsLine writer line)
    (single : newline ∉ line) :
    ∃ encoded, writer.websocketEncode = .ok encoded ∧
      queuedBytes encoded.journal = queuedBytes writer.journal ++ lineFrame line := by
  have enough : writer.assembly.pending.length < writer.assembly.first.flatten.length + 1 := by
    rw [IOQueue.pending, List.length_drop]
    omega
  have outcome := encodeLines_outcome holds.transport holds.assembled holds.present
    (holds.early single) enough
  rw [holds.pending] at outcome
  rw [websocketEncode]
  cases encoding : writer.encodeLines (writer.assembly.first.flatten.length + 1) with
  | error fault =>
      rw [encoding] at outcome
      exact outcome.2.elim
  | ok encoded =>
      rw [encoding] at outcome
      refine ⟨encoded, rfl, ?_⟩
      rw [outcome.queued, Text.splitLines_line single]
      simp [Text.splitLines]

/-- The frame the encoder builds for a line, masked with a key and fed whole to the reader, comes
back as an event with the line for its command, and nothing stays buffered. -/
def RoundTrips (writer reader : Connection) (line key : Text) : Prop :=
  ∃ encoded frame input after, writer.websocketEncode = .ok encoded ∧
    queuedBytes encoded.journal = queuedBytes writer.journal ++ frame ∧
    (reader.receiving (maskFrame key frame)).readWebsocketInput = .ok (some input, after) ∧
    input.command = line ∧ after.input.message = []

/-- A line makes the round trip unless its copy with a NUL takes more than 32 bits to count, or
twice the number of its words is no `int`. -/
theorem roundTrips_iff {writer : Connection} {line key : Text} (holds : HoldsLine writer line)
    (free : Text.NulFree line) (single : newline ∉ line) (short : line.length < 2 ^ 32)
    (keyed : key.length = 4) (reader : Connection) :
    RoundTrips writer reader line key ↔
      line.length + 1 < 2 ^ 32 ∧ ArgvVector.FewWords line := by
  obtain ⟨capacity, call⟩ := readWebsocketInput_maskFrame reader short keyed
  obtain ⟨encoded, encoding, queued⟩ := holds.encoded single
  constructor
  · rintro ⟨other, frame, input, after, same, recorded, received, -⟩
    obtain rfl := Except.ok.inj (encoding.symm.trans same)
    obtain rfl := List.append_cancel_left (queued.symm.trans recorded)
    by_contra harmful
    obtain ⟨fault, stops⟩ := InputLine.extract_error free short harmful
    rw [call, stops] at received
    cases received
  · intro extractable
    rw [InputLine.extract_eq free extractable] at call
    exact ⟨encoded, lineFrame line, .ofBytes line, _, encoding, queued, call,
      Text.cString_eq free, rfl⟩

/-- A WebSocket connection with a line to encode. -/
def sampleWriter (line : Text) : Connection :=
  { sampleSocket with
    assembly := ⟨[line ++ [newline]], some (line ++ [newline]), 0⟩ }

theorem sampleWriter_holds {line : Text} (free : Text.NulFree line) :
    HoldsLine (sampleWriter line) line where
  transport :=
    have healthy : SendResult.failed ∉ sampleSocket.sends := by decide
    ⟨rfl, fun _ => ⟨IOQueue.wellFormed_empty, healthy⟩⟩
  assembled := by
    refine ⟨⟨rfl, ?_, fun gone => absurd gone (List.cons_ne_nil _ _), ?_⟩, ?_⟩
    · intro block member
      rw [List.mem_singleton.mp member]
      exact List.append_ne_nil_of_right_ne_nil _ (List.cons_ne_nil _ _)
    · intro front same
      obtain rfl : line ++ [newline] = front := Option.some.inj same
      exact List.length_pos_iff.mpr (List.append_ne_nil_of_right_ne_nil _ (List.cons_ne_nil _ _))
    · intro block member
      rw [List.mem_singleton.mp member]
      intro byte inside
      rcases List.mem_append.mp inside with old | last
      · exact free byte old
      · rw [List.mem_singleton.mp last]
        decide
  pending := by simp [sampleWriter, IOQueue.pending]

theorem sampleLine_returns :
    RoundTrips (sampleWriter (ascii "hello")) (sampleReader []) (ascii "hello") [1, 2, 3, 4] :=
  (roundTrips_iff (sampleWriter_holds (by decide)) (by decide) (by decide) (by decide) rfl _).mpr
    (by decide)

/-- The longest line whose frame the reader accepts. -/
def longestLine : Text := List.replicate (2 ^ 32 - 1) 97

/-- The copy of the longest line has no room for its bytes. -/
theorem longestLine_overruns :
    (Text.NulFree longestLine ∧ newline ∉ longestLine ∧ longestLine.length < 2 ^ 32) ∧
      ¬RoundTrips (sampleWriter longestLine) (sampleReader []) longestLine [1, 2, 3, 4] := by
  have bytes : ∀ byte ∈ longestLine, byte = 97 := fun byte member =>
    List.eq_of_mem_replicate member
  have length : longestLine.length = 2 ^ 32 - 1 := List.length_replicate
  have free : Text.NulFree longestLine := by
    intro byte member
    rw [bytes byte member]
    decide
  have single : newline ∉ longestLine := fun member => absurd (bytes _ member) (by decide)
  refine ⟨⟨free, single, by omega⟩, ?_⟩
  rintro ⟨other, frame, input, after, same, recorded, received, -⟩
  obtain ⟨encoded, encoding, queued⟩ := (sampleWriter_holds free).encoded single
  obtain rfl := Except.ok.inj (encoding.symm.trans same)
  obtain rfl := List.append_cancel_left (queued.symm.trans recorded)
  obtain ⟨capacity, call⟩ := @readWebsocketInput_maskFrame (sampleReader []) longestLine
    [1, 2, 3, 4] (by omega) rfl
  rw [call, InputLine.extract, length, if_pos (by decide)] at received
  cases received

end Connection

end Football
