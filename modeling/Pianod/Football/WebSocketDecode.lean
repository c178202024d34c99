import Pianod.Football.Input
import Pianod.Foundation.WebSocketFrame

/-!
# WebSocket input and the cuts of the stream

The network may cut a stream of frames anywhere and pause at any cut.  The frame reader starts over
on every readiness event and insists that no more than two bytes are buffered, so it survives some
cuts and not others.  The results here determine which.
-/

namespace Football

open Foundation

/-! ## What the reader finds in a frame -/

theorem length_header (frame : ClientFrame) : frame.header.length = headerSize frame.code := by
  have fits := frame.fits
  rw [ClientFrame.header, List.length_append, List.length_append, frame.key_length, headerSize,
    lengthSize, ClientFrame.code, ClientFrame.extended]
  cases form : frame.form with
  | seven =>
      simp only [form, LengthForm.limit] at fits
      have plain : frame.payload.length ≠ 126 ∧ frame.payload.length ≠ 127 := by omega
      simp [plain]
  | sixteen => simp
  | sixtyFour => simp

private theorem payloadByte_eq (frame : ClientFrame) {size : Nat} (enough : 2 ≤ size) :
    (((frame.bytes.take size).getD 1 0).toNat) = 128 + frame.code := by
  obtain ⟨more, rfl⟩ := Nat.exists_eq_add_of_le' enough
  have small := frame.code_lt
  rw [ClientFrame.bytes, ClientFrame.header, List.append_assoc, List.append_assoc]
  simp only [List.cons_append, List.take_succ_cons, List.getD_cons_succ, List.getD_cons_zero,
    UInt8.toNat_ofNat']
  omega

/-- A header tells the length of the payload. -/
theorem dataLength_header (frame : ClientFrame) :
    dataLength frame.code frame.header = some frame.payload.length := by
  have fits := frame.fits
  rw [dataLength, ClientFrame.header, ClientFrame.code, ClientFrame.extended]
  cases form : frame.form with
  | seven =>
      simp only [form, LengthForm.limit] at fits
      have plain : frame.payload.length ≠ 126 ∧ frame.payload.length ≠ 127 := by omega
      simp [plain]
  | sixteen =>
      simp only [form, LengthForm.limit] at fits
      have written : ofBigEndian (bigEndian 2 frame.payload.length) = frame.payload.length := by
        rw [ofBigEndian_bigEndian]
        omega
      simp [written]
  | sixtyFour =>
      simp only [form, LengthForm.limit] at fits
      have high : bigEndian 4 (frame.payload.length / 256 ^ 4) = [0, 0, 0, 0] := by
        rw [Nat.div_eq_of_lt (by omega)]
        rfl
      have low : ofBigEndian (bigEndian 4 frame.payload.length) = frame.payload.length := by
        rw [ofBigEndian_bigEndian]
        omega
      rw [show 8 = 4 + 4 from rfl, bigEndian_add, high]
      simp [List.take_append_of_le_length, low]

/-- The payload is unmasked with the key before it. -/
theorem unmasked (frame : ClientFrame) :
    performUnmask (frame.bytes.drop frame.header.length)
        ((frame.bytes.drop (frame.header.length - 4)).take 4) = frame.payload := by
  have key : (frame.bytes.drop (frame.header.length - 4)).take 4 = frame.key := by
    have before : ∃ front, frame.header = front ++ frame.key := ⟨_, rfl⟩
    obtain ⟨front, split_eq⟩ := before
    have at_key : frame.header.length - 4 = front.length := by
      rw [split_eq, List.length_append, frame.key_length]
      omega
    rw [at_key, ClientFrame.bytes, split_eq, List.append_assoc, List.drop_left,
      List.take_append_of_le_length (by rw [frame.key_length]), List.take_of_length_le]
    rw [frame.key_length]
  rw [key, ClientFrame.bytes, List.drop_left]
  exact applyMask_applyMask _ _

/-! ## Cuts -/

/-- What a reader may run into at a position of the stream. -/
inductive Mark where
  /-- A piece ends here; the next read goes on with the next piece. -/
  | pieceEnd
  /-- Nothing more is available yet. -/
  | pause
deriving DecidableEq, Repr

/-- The bytes that arrive. -/
def streamBytes (arrivals : List Arrival) : Text :=
  arrivals.flatMap fun
    | .bytes piece => piece
    | _ => []

/-- Where the pieces end and where the stream pauses, counted from a position. -/
def marks : Nat → List Arrival → List (Nat × Mark)
  | _, [] => []
  | position, .bytes piece :: arrivals =>
      (position + piece.length, .pieceEnd) :: marks (position + piece.length) arrivals
  | position, _ :: arrivals => (position, .pause) :: marks position arrivals

/-- The stream neither ends nor breaks: there are only pieces and pauses. -/
def Healthy (arrivals : List Arrival) : Prop :=
  ∀ arrival ∈ arrivals, arrival = .nothing ∨ ∃ piece, piece ≠ [] ∧ arrival = .bytes piece

@[simp]
theorem streamBytes_bytes (piece : Text) (arrivals : List Arrival) :
    streamBytes (.bytes piece :: arrivals) = piece ++ streamBytes arrivals := rfl

/-- An upper bound for the number of reads that make progress. -/
def work : List Arrival → Nat
  | [] => 0
  | .bytes piece :: arrivals => 1 + piece.length + work arrivals
  | _ :: arrivals => 1 + work arrivals

private theorem position_le_of_mem_marks {position : Nat} {arrivals : List Arrival}
    {mark : Nat × Mark} (member : mark ∈ marks position arrivals) : position ≤ mark.1 := by
  induction arrivals generalizing position with
  | nil => cases member
  | cons arrival arrivals ih =>
      cases arrival with
      | bytes piece =>
          rcases List.mem_cons.mp member with rfl | later
          · exact Nat.le_add_right _ _
          · exact (Nat.le_add_right _ _).trans (ih later)
      | nothing | endOfStream | failed =>
          rcases List.mem_cons.mp member with rfl | later
          · exact Nat.le_refl _
          · exact ih later

/-- The frame that starts at a position survives a mark: the mark is not inside the frame past its
first two bytes, or a piece ends exactly with the header. -/
def Harmless (start : Nat) (frame : ClientFrame) (mark : Nat × Mark) : Prop :=
  start + 2 < mark.1 → mark.1 < start + frame.bytes.length →
    mark = (start + frame.header.length, .pieceEnd)

instance (start : Nat) (frame : ClientFrame) (mark : Nat × Mark) :
    Decidable (Harmless start frame mark) :=
  inferInstanceAs (Decidable (_ → _ → _))

/-- The positions at which frames start. -/
def starts : Nat → List ClientFrame → List (Nat × ClientFrame)
  | _, [] => []
  | position, frame :: frames =>
      (position, frame) :: starts (position + frame.bytes.length) frames

/-- Every frame survives every mark. -/
def CutsCleanly (position : Nat) (frames : List ClientFrame) (cuts : List (Nat × Mark)) : Prop :=
  ∀ place ∈ starts position frames, ∀ mark ∈ cuts, Harmless place.1 place.2 mark

instance (position : Nat) (frames : List ClientFrame) (cuts : List (Nat × Mark)) :
    Decidable (CutsCleanly position frames cuts) :=
  inferInstanceAs (Decidable (∀ place ∈ starts position frames, ∀ mark ∈ cuts,
    Harmless place.1 place.2 mark))

private theorem position_le_of_mem_starts {position : Nat} {frames : List ClientFrame}
    {place : Nat × ClientFrame} (member : place ∈ starts position frames) : position ≤ place.1 := by
  induction frames generalizing position with
  | nil => cases member
  | cons frame frames ih =>
      rcases List.mem_cons.mp member with rfl | later
      · exact Nat.le_refl _
      · exact (Nat.le_add_right _ _).trans (ih later)

theorem cutsCleanly_cons {position : Nat} {frame : ClientFrame} {frames : List ClientFrame}
    {cuts : List (Nat × Mark)} :
    CutsCleanly position (frame :: frames) cuts ↔
      (∀ mark ∈ cuts, Harmless position frame mark) ∧
        CutsCleanly (position + frame.bytes.length) frames cuts := by
  simp [CutsCleanly, starts]

theorem cutsCleanly_append {position : Nat} {frames : List ClientFrame}
    {front back : List (Nat × Mark)} :
    CutsCleanly position frames (front ++ back) ↔
      CutsCleanly position frames front ∧ CutsCleanly position frames back := by
  simp only [CutsCleanly, List.forall_mem_append]
  exact ⟨fun clean => ⟨fun place member => (clean place member).1,
      fun place member => (clean place member).2⟩,
    fun both place member => ⟨both.1 place member, both.2 place member⟩⟩

/-- Marks at or before the third byte of a frame do it no harm. -/
theorem harmless_of_le {start : Nat} {frame : ClientFrame} {mark : Nat × Mark}
    (early : mark.1 ≤ start + 2) : Harmless start frame mark := by
  intro inside
  omega

theorem harmless_of_ge {start : Nat} {frame : ClientFrame} {mark : Nat × Mark}
    (late : start + frame.bytes.length ≤ mark.1) : Harmless start frame mark := by
  intro _ inside
  omega

theorem cutsCleanly_of_le {position : Nat} {frames : List ClientFrame} {cuts : List (Nat × Mark)}
    (early : ∀ mark ∈ cuts, mark.1 ≤ position) : CutsCleanly position frames cuts := by
  intro place member mark passed
  have start := position_le_of_mem_starts member
  have at_most := early mark passed
  exact harmless_of_le (by omega)

/-- Once a frame is read, only the frames after it and the marks after it matter. -/
theorem cutsCleanly_next {start : Nat} {frame : ClientFrame} {frames : List ClientFrame}
    {passed : List (Nat × Mark)} {arrivals : List Arrival}
    (harmless : ∀ mark ∈ passed, Harmless start frame mark)
    (bounded : ∀ mark ∈ passed, mark.1 ≤ start + frame.bytes.length) :
    CutsCleanly start (frame :: frames)
        (passed ++ marks (start + frame.bytes.length) arrivals) ↔
      CutsCleanly (start + frame.bytes.length) frames
        (marks (start + frame.bytes.length) arrivals) := by
  rw [cutsCleanly_cons, cutsCleanly_append]
  constructor
  · exact fun clean => clean.2.2
  · intro clean
    refine ⟨fun mark member => ?_, cutsCleanly_of_le bounded, clean⟩
    rcases List.mem_append.mp member with before | after
    · exact harmless mark before
    · exact harmless_of_ge (position_le_of_mem_marks after)

/-- Marks passed at the start of a frame do not matter. -/
theorem cutsCleanly_wait {start : Nat} {frame : ClientFrame} {frames : List ClientFrame}
    {passed : List (Nat × Mark)} {cuts : List (Nat × Mark)}
    (early : ∀ mark ∈ passed, mark.1 ≤ start + 2) :
    CutsCleanly start (frame :: frames) (passed ++ cuts) ↔
      CutsCleanly start (frame :: frames) cuts := by
  rw [cutsCleanly_append]
  refine ⟨And.right, fun clean => ⟨?_, clean⟩⟩
  rw [cutsCleanly_cons]
  refine ⟨fun mark member => harmless_of_le (early mark member), cutsCleanly_of_le ?_⟩
  intro mark member
  have six := frame.six_le_length_header
  have total := frame.length_bytes
  have at_most := early mark member
  omega

namespace Connection

/-- The outcome of asking for bytes up to a position `goal` of a stream. -/
inductive Reached (connection : Connection) (position goal : Nat) :
    Bool × Connection → Prop
  /-- They all came, at most with the end of a piece after them. -/
  | whole {after : Connection} (passed : List (Nat × Mark))
      (message : after.input.message =
        connection.input.message ++ (streamBytes connection.arrivals).take (goal - position))
      (rest : streamBytes after.arrivals =
        (streamBytes connection.arrivals).drop (goal - position))
      (healthy : Healthy after.arrivals)
      (passed_eq : marks position connection.arrivals = passed ++ marks goal after.arrivals)
      (at_goal : ∀ mark ∈ passed, mark = (goal, .pieceEnd))
      (progress : work after.arrivals < work connection.arrivals)
      (same : after.state = connection.state) :
      Reached connection position goal (true, after)
  /-- Fewer came, and the stream has a mark where they stop. -/
  | part {after : Connection} (stop : Nat) (mark : Mark)
      (before : position ≤ stop) (short : stop < goal)
      (message : after.input.message =
        connection.input.message ++ (streamBytes connection.arrivals).take (stop - position))
      (rest : streamBytes after.arrivals =
        (streamBytes connection.arrivals).drop (stop - position))
      (healthy : Healthy after.arrivals)
      (passed_eq : marks position connection.arrivals = (stop, mark) :: marks stop after.arrivals)
      (nowhere : stop = position → mark = .pause)
      (progress : work after.arrivals < work connection.arrivals)
      (same : after.state = connection.state) :
      Reached connection position goal (false, after)

/-- Asking for bytes that will arrive gets some, or finds a pause. -/
theorem recvInput_reached {connection : Connection} (healthy : Healthy connection.arrivals)
    {position goal : Nat} (ahead : position < goal)
    (coming : streamBytes connection.arrivals ≠ [])
    (room : connection.input.message.length + (goal - position) ≤ connection.input.capacity) :
    ∃ result, connection.recvInput (goal - position) = .ok result ∧
      Reached connection position goal result := by
  have positive : goal - position ≠ 0 := by omega
  have fits : ¬connection.input.capacity < connection.input.message.length + (goal - position) := by
    omega
  rw [recvInput, if_neg positive, if_neg fits]
  cases shape : connection.arrivals with
  | nil => simp [shape, streamBytes] at coming
  | cons arrival arrivals =>
      rw [shape] at healthy
      have later : Healthy arrivals :=
        fun other member => healthy other (List.mem_cons_of_mem _ member)
      rcases healthy arrival List.mem_cons_self with rfl | ⟨piece, filled, rfl⟩
      · refine ⟨_, rfl,
          .part position .pause (Nat.le_refl _) ahead ?_ ?_ later ?_ (fun _ => rfl) ?_ rfl⟩
        · simp
        · simp [shape, streamBytes]
        · rw [shape]
          rfl
        · simp [shape, work]
      · obtain ⟨byte, bytes, rfl⟩ := List.exists_cons_of_ne_nil filled
        simp only
        split
        · rename_i small
          have all : (byte :: bytes ++ streamBytes arrivals).take (byte :: bytes).length =
              byte :: bytes := List.take_left
          have left : (byte :: bytes ++ streamBytes arrivals).drop (byte :: bytes).length =
              streamBytes arrivals := List.drop_left
          by_cases exact_fit : goal - position ≤ (byte :: bytes).length
          · have at_goal : position + (byte :: bytes).length = goal := by omega
            have count : goal - position = (byte :: bytes).length := by omega
            rw [decide_eq_true exact_fit]
            refine ⟨_, rfl, .whole [(goal, .pieceEnd)] ?_ ?_ later ?_ ?_ ?_ rfl⟩
            · rw [shape, count, streamBytes_bytes, all]
              rfl
            · rw [shape, count, streamBytes_bytes, left]
              rfl
            · rw [shape, marks, at_goal]
              rfl
            · exact fun mark member => List.mem_singleton.mp member
            · rw [shape]
              simp only [takeBytes, work]
              omega
          · have stop : position + (byte :: bytes).length - position = (byte :: bytes).length := by
              omega
            rw [decide_eq_false exact_fit]
            refine ⟨_, rfl, .part (position + (byte :: bytes).length) .pieceEnd
              (by omega) (by omega) ?_ ?_ later ?_ ?_ ?_ rfl⟩
            · rw [shape, stop, streamBytes_bytes, all]
              rfl
            · rw [shape, stop, streamBytes_bytes, left]
              rfl
            · rw [shape, marks]
              rfl
            · intro nowhere
              simp at nowhere
            · rw [shape]
              simp only [takeBytes, work]
              omega
        · rename_i large
          have within : goal - position ≤ (byte :: bytes).length := by omega
          refine ⟨_, rfl, .whole [] ?_ ?_ ?_ ?_ ?_ ?_ rfl⟩
          · rw [shape, streamBytes_bytes, List.take_append_of_le_length within]
            rfl
          · rw [shape, streamBytes_bytes, List.drop_append_of_le_length within]
            rfl
          · intro other member
            rcases List.mem_cons.mp member with rfl | later_member
            · refine .inr ⟨_, ?_, rfl⟩
              intro gone
              have none_left := congrArg List.length gone
              rw [List.length_drop, List.length_nil] at none_left
              omega
            · exact later other later_member
          · have same_end : goal + ((byte :: bytes).drop (goal - position)).length =
                position + (byte :: bytes).length := by
              rw [List.length_drop]
              omega
            rw [shape, takeBytes, marks, marks, same_end]
            rfl
          · exact fun mark member => nomatch member
          · rw [shape]
            simp only [takeBytes, work, List.length_drop]
            omega

private theorem Reached.of_capacity {connection : Connection} {position goal capacity : Nat}
    {result : Bool × Connection} (reached : Reached
      { connection with input := { connection.input with capacity := capacity } }
      position goal result) : Reached connection position goal result := by
  cases reached with
  | whole passed message rest healthy passed_eq at_goal progress same =>
      exact .whole passed message rest healthy passed_eq at_goal progress same
  | part stop mark before short message rest healthy passed_eq nowhere progress same =>
      exact .part stop mark before short message rest healthy passed_eq nowhere progress same

/-- The buffer grows as needed. -/
theorem getHttpBytes_reached {connection : Connection} (healthy : Healthy connection.arrivals)
    {size : Nat} (wanting : connection.input.message.length < size)
    (coming : streamBytes connection.arrivals ≠ []) (start : Nat) :
    ∃ result, connection.getHttpBytes size = .ok result ∧
      Reached connection (start + connection.input.message.length) (start + size) result := by
  have asked : start + size - (start + connection.input.message.length) =
      size - connection.input.message.length := by omega
  have no_more : ¬size < connection.input.message.length := by omega
  have not_yet : ¬connection.input.message.length = size := by omega
  have ahead : start + connection.input.message.length < start + size := by omega
  rw [getHttpBytes, if_neg no_more, if_neg not_yet]
  split
  · rename_i tight
    have useful : ¬size + 128 ≤ connection.input.capacity := by omega
    rw [setInputBufferSize, if_neg useful]
    let grown : Connection :=
      { connection with input := { connection.input with capacity := size + 128 + 100 } }
    have room : grown.input.message.length +
        (start + size - (start + connection.input.message.length)) ≤ grown.input.capacity := by
      rw [asked]
      simp only [grown]
      omega
    obtain ⟨result, received, reached⟩ :=
      @recvInput_reached grown healthy (start + connection.input.message.length) (start + size)
        ahead coming room
    rw [asked] at received
    exact ⟨result, received, reached.of_capacity⟩
  · rename_i roomy
    have room : connection.input.message.length +
        (start + size - (start + connection.input.message.length)) ≤
          connection.input.capacity := by
      omega
    obtain ⟨result, received, reached⟩ := recvInput_reached healthy ahead coming room
    rw [asked] at received
    exact ⟨result, received, reached⟩

/-! ## One call of the reader -/

/-- The reader has buffered the first bytes of a frame; the rest of it and what follows it are still
to come. -/
structure InFrame (connection : Connection) (frame : ClientFrame) (size : Nat) (later : Text) :
    Prop where
  message : connection.input.message = frame.bytes.take size
  rest : streamBytes connection.arrivals = frame.bytes.drop size ++ later
  within : size ≤ frame.bytes.length
  healthy : Healthy connection.arrivals

theorem InFrame.length_message {connection : Connection} {frame : ClientFrame} {size : Nat}
    {later : Text} (inside : InFrame connection frame size later) :
    connection.input.message.length = size := by
  rw [inside.message, List.length_take, Nat.min_eq_left inside.within]

/-- More of the frame has come. -/
theorem InFrame.forward {connection after : Connection} {frame : ClientFrame} {size goal : Nat}
    {later : Text} (inside : InFrame connection frame size later) (onward : size ≤ goal)
    (bounded : goal ≤ frame.bytes.length)
    (message : after.input.message =
      connection.input.message ++ (streamBytes connection.arrivals).take (goal - size))
    (rest : streamBytes after.arrivals = (streamBytes connection.arrivals).drop (goal - size))
    (healthy : Healthy after.arrivals) : InFrame after frame goal later := by
  have room : goal - size ≤ (frame.bytes.drop size).length := by
    rw [List.length_drop]
    omega
  have total : size + (goal - size) = goal := by omega
  constructor
  · rw [message, inside.message, inside.rest, List.take_append_of_le_length room, ← List.take_add,
      total]
  · rw [rest, inside.rest, List.drop_append_of_le_length room, List.drop_drop, total]
  · exact bounded
  · exact healthy

/-- Asking for the frame up to some size gets there, or stops at a mark before. -/
theorem InFrame.advance {connection : Connection} {frame : ClientFrame} {size goal : Nat}
    {later : Text} (inside : InFrame connection frame size later) (onward : size ≤ goal)
    (bounded : goal ≤ frame.bytes.length) (start : Nat) :
    (∃ after passed, connection.getHttpBytes goal = .ok (true, after) ∧
        InFrame after frame goal later ∧
        marks (start + size) connection.arrivals = passed ++ marks (start + goal) after.arrivals ∧
        (∀ mark ∈ passed, mark = (start + goal, .pieceEnd)) ∧
        (size < goal → work after.arrivals < work connection.arrivals) ∧
        work after.arrivals ≤ work connection.arrivals ∧ after.state = connection.state) ∨
      ∃ after stop mark, connection.getHttpBytes goal = .ok (false, after) ∧
        size ≤ stop ∧ stop < goal ∧ InFrame after frame stop later ∧
        marks (start + size) connection.arrivals =
          (start + stop, mark) :: marks (start + stop) after.arrivals ∧
        (stop = size → mark = .pause) ∧ work after.arrivals < work connection.arrivals ∧
        after.state = connection.state := by
  have length := inside.length_message
  rcases Nat.eq_or_lt_of_le onward with rfl | ahead
  · refine .inl ⟨connection, [], ?_, inside, rfl, (fun mark member => nomatch member),
      fun impossible => absurd impossible (Nat.lt_irrefl _), Nat.le_refl _, rfl⟩
    have enough : ¬size < connection.input.message.length := by omega
    rw [getHttpBytes, if_neg enough, if_pos length]
  · have coming : streamBytes connection.arrivals ≠ [] := by
      rw [inside.rest]
      apply List.append_ne_nil_of_left_ne_nil
      intro nothing
      have none_left := congrArg List.length nothing
      rw [List.length_drop, List.length_nil] at none_left
      omega
    obtain ⟨result, asked, reached⟩ :=
      getHttpBytes_reached inside.healthy (length.trans_lt ahead) coming start
    rw [length] at reached
    cases reached with
    | @whole after passed message rest healthy passed_eq at_goal progress same =>
        have count : start + goal - (start + size) = goal - size := by omega
        rw [count] at message rest
        exact .inl ⟨after, passed, asked, inside.forward onward bounded message rest healthy,
          passed_eq, at_goal, fun _ => progress, Nat.le_of_lt progress, same⟩
    | @part after stop mark before short message rest healthy passed_eq nowhere progress same =>
        obtain ⟨place, rfl⟩ : ∃ place, stop = start + place := ⟨stop - start, by omega⟩
        have count : start + place - (start + size) = place - size := by omega
        rw [count] at message rest
        have at_least : size ≤ place := by omega
        have at_most : place ≤ frame.bytes.length := by omega
        exact .inr ⟨after, place, mark, asked, at_least, by omega,
          inside.forward at_least at_most message rest healthy, passed_eq,
          fun here => nowhere (by rw [here]), progress, same⟩

/-- What one call of the reader does between two frames or within the first bytes of one. -/
inductive FrameCall (connection : Connection) (frame : ClientFrame) (start size : Nat)
    (later : Text) : Prop
  /-- It returns the frame. -/
  | event {after : Connection} (passed : List (Nat × Mark))
      (call : connection.readWebsocketInput = .ok (some (.ofBytes frame.payload), after))
      (message : after.input.message = [])
      (rest : streamBytes after.arrivals = later)
      (healthy : Healthy after.arrivals)
      (passed_eq : marks (start + size) connection.arrivals =
        passed ++ marks (start + frame.bytes.length) after.arrivals)
      (harmless : ∀ mark ∈ passed, Harmless start frame mark)
      (bounded : ∀ mark ∈ passed, mark.1 ≤ start + frame.bytes.length)
      (progress : work after.arrivals < work connection.arrivals)
      (same : after.state = connection.state) (extractable : InputLine.Extractable frame.payload)
  /-- It has the whole frame, but fails to copy or to split its payload. -/
  | overrun {fault : Fault} (call : connection.readWebsocketInput = .error fault)
      (long : ¬InputLine.Extractable frame.payload)
  /-- It waits, with at most two bytes buffered. -/
  | wait {after : Connection} (stop : Nat) (passed : List (Nat × Mark))
      (call : connection.readWebsocketInput = .ok (none, after)) (small : stop ≤ 2)
      (inside : InFrame after frame stop later)
      (passed_eq : marks (start + size) connection.arrivals =
        passed ++ marks (start + stop) after.arrivals)
      (early : ∀ mark ∈ passed, mark.1 ≤ start + 2)
      (progress : work after.arrivals < work connection.arrivals)
      (same : after.state = connection.state)
  /-- It waits with more bytes buffered, because of a mark the frame does not survive. -/
  | stuck {after : Connection} (mark : Nat × Mark)
      (call : connection.readWebsocketInput = .ok (none, after))
      (overfull : 2 < after.input.message.length)
      (member : mark ∈ marks (start + size) connection.arrivals)
      (harmful : ¬Harmless start frame mark)

private theorem executeFrame_text (connection : Connection) (frame : ClientFrame) :
    connection.executeFrame frame.bytes frame.header.length =
      (InputLine.extract frame.payload).map fun line => (some line, connection) := by
  have opcode : (frame.bytes.getD 0 0 &&& 0x0f).toNat = 1 := by
    rw [ClientFrame.bytes, ClientFrame.header, List.append_assoc, List.append_assoc,
      List.cons_append, List.getD_cons_zero]
    decide
  rw [executeFrame]
  simp only [unmasked, opcode]

/-- With two bytes buffered, the reader asks for the header. -/
theorem readWebsocketInput_header {connection started : Connection} {frame : ClientFrame}
    {later : Text} (asked : connection.getHttpBytes 2 = .ok (true, started))
    (inside : InFrame started frame 2 later) :
    connection.readWebsocketInput =
      match started.getHttpBytes frame.header.length with
      | .error fault => .error fault
      | .ok (false, short) => .ok (none, short)
      | .ok (true, headed) =>
          match dataLength frame.code headed.input.message with
          | none => .ok (none, headed)
          | some length =>
              match headed.getHttpBytes (frame.header.length + length) with
              | .error fault => .error fault
              | .ok (false, short) => .ok (none, short)
              | .ok (true, complete) =>
                  { complete with input := { complete.input with message := [] } }.executeFrame
                    complete.input.message frame.header.length := by
  have small := frame.code_lt
  have byte_eq : (started.input.message.getD 1 0).toNat = 128 + frame.code := by
    rw [inside.message]
    exact payloadByte_eq frame (Nat.le_refl _)
  have masked : ¬(started.input.message.getD 1 0).toNat < 128 := by omega
  have code_eq : (started.input.message.getD 1 0).toNat % 128 = frame.code := by omega
  rw [length_header, ← code_eq, readWebsocketInput, asked]
  exact if_neg masked

private theorem dataLength_eq {headed : Connection} {frame : ClientFrame} {later : Text}
    (inside : InFrame headed frame frame.header.length later) :
    dataLength frame.code headed.input.message = some frame.payload.length := by
  rw [inside.message, ClientFrame.bytes, List.take_left]
  exact dataLength_header frame

theorem frameCall {connection : Connection} {frame : ClientFrame} {size : Nat} {later : Text}
    (inside : InFrame connection frame size later) (small : size ≤ 2) (start : Nat) :
    FrameCall connection frame start size later := by
  have six := frame.six_le_length_header
  have total := frame.length_bytes
  -- The first two bytes.
  rcases inside.advance small (by omega) start with
    ⟨started, first, asked, at_two, first_eq, at_mark, -, first_work, first_same⟩ |
    ⟨after, stop, mark, asked, at_least, short, inside', passed_eq, -, progress, same⟩
  swap
  · refine .wait stop [(start + stop, mark)] (by rw [readWebsocketInput, asked])
      (Nat.le_of_lt short) inside' passed_eq ?_ progress same
    intro mark member
    rw [List.mem_singleton.mp member]
    exact Nat.add_le_add_left (Nat.le_of_lt short) _
  have call_eq := readWebsocketInput_header asked at_two
  -- The rest of the header.
  rcases at_two.advance (show 2 ≤ frame.header.length by omega) (by omega) start with
    ⟨headed, second, header_asked, at_header, second_eq, at_header_mark, second_work, -,
      second_same⟩ |
    ⟨after, stop, mark, header_asked, at_least, short, inside', passed_eq, nowhere, progress, same⟩
  swap
  · have call : connection.readWebsocketInput = .ok (none, after) := by
      rw [call_eq, header_asked]
    rcases Nat.eq_or_lt_of_le at_least with rfl | further
    · refine .wait 2 (first ++ [(start + 2, mark)]) call (Nat.le_refl _) inside' ?_ ?_
        (by omega) (same.trans first_same)
      · rw [first_eq, passed_eq, List.append_assoc]
        rfl
      · intro other member
        rcases List.mem_append.mp member with before | here
        · rw [at_mark other before]
        · rw [List.mem_singleton.mp here]
    · refine .stuck (start + stop, mark) call ?_ ?_ ?_
      · rw [inside'.length_message]
        exact further
      · rw [first_eq, passed_eq]
        exact List.mem_append_right _ List.mem_cons_self
      · intro harmless
        have same_mark := harmless (by simp only; omega) (by simp only; omega)
        have same_place := congrArg Prod.fst same_mark
        simp only at same_place
        omega
  have header_work : work headed.arrivals < work started.arrivals := second_work (by omega)
  have length_eq := dataLength_eq at_header
  -- The payload.
  rcases at_header.advance (show frame.header.length ≤ frame.bytes.length by omega) (Nat.le_refl _)
      start with
    ⟨complete, third, frame_asked, at_end, third_eq, at_end_mark, -, third_work, third_same⟩ |
    ⟨after, stop, mark, frame_asked, at_least, short, inside', passed_eq, nowhere, progress, same⟩
  swap
  · have call : connection.readWebsocketInput = .ok (none, after) := by
      rw [call_eq, header_asked]
      simp only [length_eq, ← total, frame_asked]
    refine .stuck (start + stop, mark) call ?_ ?_ ?_
    · rw [inside'.length_message]
      omega
    · rw [first_eq, second_eq, passed_eq]
      exact List.mem_append_right _ (List.mem_append_right _ List.mem_cons_self)
    · intro harmless
      have same_mark := harmless (by simp only; omega) (by simp only; omega)
      obtain ⟨same_place, same_kind⟩ := Prod.mk.inj same_mark
      have paused := nowhere (by omega)
      rw [paused] at same_kind
      cases same_kind
  have whole : complete.input.message = frame.bytes := by
    rw [at_end.message, List.take_length]
  let after : Connection := { complete with input := { complete.input with message := [] } }
  have executed : connection.readWebsocketInput =
      after.executeFrame frame.bytes frame.header.length := by
    rw [call_eq, header_asked]
    simp only [length_eq, ← total, frame_asked, whole]
    rfl
  rw [executeFrame_text] at executed
  by_cases extractable : InputLine.Extractable frame.payload
  swap
  · obtain ⟨fault, stops⟩ :=
      InputLine.extract_error frame.free frame.length_payload_lt extractable
    rw [stops] at executed
    exact .overrun executed extractable
  have call : connection.readWebsocketInput = .ok (some (.ofBytes frame.payload), after) := by
    rw [executed, InputLine.extract_eq frame.free extractable]
    rfl
  have rest_eq : streamBytes after.arrivals = later := by
    have rest := at_end.rest
    rw [List.drop_length, List.nil_append] at rest
    exact rest
  refine .event (first ++ second ++ third) call rfl rest_eq at_end.healthy ?_ ?_ ?_ ?_
    (third_same.trans (second_same.trans first_same)) extractable
  · rw [first_eq, second_eq, third_eq, List.append_assoc, List.append_assoc]
  · intro mark member
    simp only [List.mem_append] at member
    rcases member with (before | header) | last
    · rw [at_mark mark before]
      exact harmless_of_le (Nat.le_refl _)
    · rw [at_header_mark mark header]
      exact fun _ _ => rfl
    · rw [at_end_mark mark last]
      exact harmless_of_ge (Nat.le_refl _)
  · intro mark member
    simp only [List.mem_append] at member
    rcases member with (before | header) | last
    · rw [at_mark mark before]
      simp only
      omega
    · rw [at_header_mark mark header]
      simp only
      omega
    · rw [at_end_mark mark last]
  · exact Nat.lt_of_le_of_lt third_work (Nat.lt_of_lt_of_le header_work first_work)

/-! ## Repeated calls -/

/-- Call the reader a number of times and collect the lines. -/
def readInput : Nat → Connection → Except Fault (List InputLine × Connection)
  | 0, connection => .ok ([], connection)
  | calls + 1, connection =>
      match connection.readWebsocketInput with
      | .error fault => .error fault
      | .ok (line, after) =>
          (readInput calls after).map fun (lines, final) => (line.toList ++ lines, final)

/-- The reader is about to read these frames; at most two bytes of the first are buffered. -/
def Awaiting (connection : Connection) (size : Nat) : List ClientFrame → Prop
  | [] => size = 0 ∧ connection.input.message = [] ∧ streamBytes connection.arrivals = [] ∧
      Healthy connection.arrivals
  | frame :: frames => size ≤ 2 ∧
      InFrame connection frame size (frames.flatMap ClientFrame.bytes)

theorem awaiting_zero {connection : Connection} {frames : List ClientFrame}
    (message : connection.input.message = [])
    (stream : streamBytes connection.arrivals = frames.flatMap ClientFrame.bytes)
    (healthy : Healthy connection.arrivals) : Awaiting connection 0 frames := by
  cases frames with
  | nil => exact ⟨rfl, message, stream, healthy⟩
  | cons frame frames =>
      exact ⟨Nat.zero_le _, message, by rw [stream, List.flatMap_cons, List.drop_zero],
        Nat.zero_le _, healthy⟩

/-- With nothing to come, a read finds nothing. -/
theorem recvInput_idle {connection : Connection} (idle : Awaiting connection 0 [])
    (room : 2 ≤ connection.input.capacity) :
    ∃ after, connection.recvInput 2 = .ok (false, after) ∧ Awaiting after 0 [] ∧
      after.state = connection.state := by
  obtain ⟨-, message, stream, healthy⟩ := idle
  have fits : ¬connection.input.capacity < connection.input.message.length + 2 := by
    rw [message, List.length_nil]
    omega
  rw [recvInput, if_neg (by decide), if_neg fits]
  cases shape : connection.arrivals with
  | nil => exact ⟨_, rfl, ⟨rfl, message, stream, healthy⟩, rfl⟩
  | cons arrival arrivals =>
      rw [shape] at healthy stream
      have later : Healthy arrivals :=
        fun other member => healthy other (List.mem_cons_of_mem _ member)
      rcases healthy arrival List.mem_cons_self with rfl | ⟨piece, filled, rfl⟩
      · exact ⟨_, rfl, ⟨rfl, message, stream, later⟩, rfl⟩
      · rw [streamBytes_bytes] at stream
        exact absurd (List.append_eq_nil_iff.mp stream).1 filled

/-- With nothing to come, a call changes nothing that matters. -/
theorem idleCall {connection : Connection} (idle : Awaiting connection 0 []) :
    ∃ after, connection.readWebsocketInput = .ok (none, after) ∧ Awaiting after 0 [] ∧
      after.state = connection.state := by
  have asked : ∃ after, connection.getHttpBytes 2 = .ok (false, after) ∧ Awaiting after 0 [] ∧
      after.state = connection.state := by
    have vacant : connection.input.message.length = 0 := by rw [idle.2.1, List.length_nil]
    rw [getHttpBytes, vacant, if_neg (by decide), if_neg (by decide)]
    split
    · rename_i tight
      have useful : ¬2 + 128 ≤ connection.input.capacity := by omega
      rw [setInputBufferSize, if_neg useful]
      let grown : Connection :=
        { connection with input := { connection.input with capacity := 2 + 128 + 100 } }
      exact @recvInput_idle grown idle (show 2 ≤ 2 + 128 + 100 by decide)
    · rename_i roomy
      exact recvInput_idle idle (Nat.le_of_not_lt roomy)
  obtain ⟨after, asked, idle, same⟩ := asked
  exact ⟨after, by rw [readWebsocketInput, asked], idle, same⟩

/-- A call is followed by the remaining calls. -/
theorem readInput_succ {connection after : Connection} {line : Option InputLine}
    (call : connection.readWebsocketInput = .ok (line, after)) (calls : Nat) :
    readInput (calls + 1) connection =
      (readInput calls after).map fun (lines, final) => (line.toList ++ lines, final) := by
  rw [readInput, call]

private theorem readInput_idle {connection : Connection} (idle : Awaiting connection 0 [])
    (calls : Nat) :
    ∃ final, readInput calls connection = .ok ([], final) ∧ final.state = connection.state ∧
      final.input.message = [] := by
  induction calls generalizing connection with
  | zero => exact ⟨connection, rfl, rfl, idle.2.1⟩
  | succ calls ih =>
      obtain ⟨after, call, still, same⟩ := idleCall idle
      obtain ⟨final, rest, state, empty⟩ := ih still
      exact ⟨final, by rw [readInput_succ call, rest]; rfl, state.trans same, empty⟩

/-- As long as every frame survives every mark, no number of calls goes wrong, and enough of them
return all frames. -/
theorem readInput_of_cutsCleanly {connection : Connection} {frames : List ClientFrame}
    {start size : Nat} (awaiting : Awaiting connection size frames)
    (clean : CutsCleanly start frames (marks (start + size) connection.arrivals))
    (extractable : ∀ frame ∈ frames, InputLine.Extractable frame.payload) (calls : Nat) :
    ∃ lines after, readInput calls connection = .ok (lines, after) ∧
      after.state = connection.state ∧
      (work connection.arrivals ≤ calls →
        lines.map InputLine.command = frames.map ClientFrame.payload ∧
          after.input.message = []) := by
  induction calls generalizing connection frames start size with
  | zero =>
      refine ⟨[], connection, rfl, rfl, fun enough => ?_⟩
      have none_left : connection.arrivals = [] := by
        cases shape : connection.arrivals with
        | nil => rfl
        | cons arrival arrivals =>
            rw [shape] at enough
            cases arrival <;> simp [work] at enough
      cases frames with
      | nil => exact ⟨rfl, awaiting.2.1⟩
      | cons frame frames =>
          obtain ⟨small, inside⟩ := awaiting
          have rest := congrArg List.length inside.rest
          have six := frame.six_le_length_header
          have total := frame.length_bytes
          rw [none_left, List.length_append, List.length_drop] at rest
          simp only [streamBytes, List.flatMap_nil, List.length_nil] at rest
          omega
  | succ calls ih =>
      cases frames with
      | nil =>
          obtain rfl : size = 0 := awaiting.1
          obtain ⟨after, call, idle, same⟩ := idleCall awaiting
          obtain ⟨final, rest, state, empty⟩ := readInput_idle idle calls
          exact ⟨[], final, by rw [readInput_succ call, rest]; rfl, state.trans same,
            fun _ => ⟨rfl, empty⟩⟩
      | cons frame frames =>
          obtain ⟨small, inside⟩ := awaiting
          cases frameCall inside small start with
          | event passed call message rest healthy passed_eq harmless bounded progress same =>
              rw [passed_eq, cutsCleanly_next harmless bounded] at clean
              have later_extractable : ∀ later ∈ frames, InputLine.Extractable later.payload :=
                fun later member => extractable later (List.mem_cons_of_mem _ member)
              obtain ⟨lines, final, later, state, done⟩ :=
                @ih _ frames (start + frame.bytes.length) 0
                  (awaiting_zero message rest healthy) clean later_extractable
              refine ⟨.ofBytes frame.payload :: lines, final, ?_, state.trans same,
                fun enough => ?_⟩
              · rw [readInput_succ call, later]
                rfl
              · obtain ⟨lines_eq, empty⟩ := done (by omega)
                refine ⟨?_, empty⟩
                rw [List.map_cons, List.map_cons, lines_eq, InputLine.ofBytes,
                  Text.cString_eq frame.free]
          | overrun call long => exact absurd (extractable frame List.mem_cons_self) long
          | wait stop passed call small inside' passed_eq early progress same =>
              rw [passed_eq, cutsCleanly_wait early] at clean
              obtain ⟨lines, final, later, state, done⟩ :=
                @ih _ (frame :: frames) start stop ⟨small, inside'⟩ clean extractable
              refine ⟨lines, final, ?_, state.trans same, fun enough => done (by omega)⟩
              rw [readInput_succ call, later]
              rfl
          | stuck mark call overfull member harmful =>
              exact absurd ((cutsCleanly_cons.mp clean).1 mark member) harmful

/-- A mark that some frame does not survive makes some call fail, and so does a frame whose
payload cannot be copied or split. -/
theorem readInput_of_not_cutsCleanly {connection : Connection} {frames : List ClientFrame}
    {start size : Nat} (awaiting : Awaiting connection size frames)
    (harmed : ¬(CutsCleanly start frames (marks (start + size) connection.arrivals) ∧
      ∀ frame ∈ frames, InputLine.Extractable frame.payload)) :
    ∃ calls fault, readInput calls connection = .error fault := by
  induction bound : work connection.arrivals using Nat.strong_induction_on
    generalizing connection frames start size with
  | _ bound_value ih =>
      subst bound
      cases frames with
      | nil =>
          have unharmed : CutsCleanly start [] (marks (start + size) connection.arrivals) :=
            fun place member => nomatch member
          exact absurd ⟨unharmed, List.forall_mem_nil _⟩ harmed
      | cons frame frames =>
          obtain ⟨small, inside⟩ := awaiting
          cases frameCall inside small start with
          | event passed call message rest healthy passed_eq harmless bounded progress same
              extractable =>
              rw [passed_eq, cutsCleanly_next harmless bounded, List.forall_mem_cons] at harmed
              have later_harmed : ¬(CutsCleanly (start + frame.bytes.length) frames
                  (marks (start + frame.bytes.length) _) ∧
                    ∀ later ∈ frames, InputLine.Extractable later.payload) :=
                fun unharmed => harmed ⟨unharmed.1, extractable, unharmed.2⟩
              have next := awaiting_zero message rest healthy
              obtain ⟨calls, fault, stops⟩ :=
                @ih _ progress _ frames (start + frame.bytes.length) 0 next later_harmed rfl
              exact ⟨calls + 1, fault, by rw [readInput_succ call, stops]; rfl⟩
          | @overrun fault call long => exact ⟨1, fault, by rw [readInput, call]⟩
          | wait stop passed call small inside' passed_eq early progress same =>
              rw [passed_eq, cutsCleanly_wait early] at harmed
              have waiting : Awaiting _ stop (frame :: frames) := ⟨small, inside'⟩
              obtain ⟨calls, fault, stops⟩ := ih _ progress waiting harmed rfl
              exact ⟨calls + 1, fault, by rw [readInput_succ call, stops]; rfl⟩
          | @stuck after mark call overfull member harmful =>
              refine ⟨2, .assertion "size >= connection->in.size", ?_⟩
              have stops : readInput 1 after =
                  .error (.assertion "size >= connection->in.size") := by
                rw [readInput, readWebsocketInput, getHttpBytes, if_pos overfull]
              rw [readInput_succ call, stops]
              rfl

/-- Any number of calls goes well, and enough of them return exactly the payloads of the frames and
leave the buffer empty. -/
def DecodesExactly (connection : Connection) (frames : List ClientFrame) : Prop :=
  ∃ enough, ∀ calls, ∃ lines after, readInput calls connection = .ok (lines, after) ∧
    after.state = connection.state ∧
    (enough ≤ calls →
      lines.map InputLine.command = frames.map ClientFrame.payload ∧ after.input.message = [])

/-- Input is decoded exactly when, past the first two bytes of a frame and before its end, the
stream neither pauses nor has a cut other than right after the header, no payload is of the one size
that leaves no room for a NUL in 32 bits, and the words of each can be counted. -/
theorem decodesExactly_iff {connection : Connection} {frames : List ClientFrame}
    (message : connection.input.message = [])
    (stream : streamBytes connection.arrivals = frames.flatMap ClientFrame.bytes)
    (healthy : Healthy connection.arrivals) :
    DecodesExactly connection frames ↔
      CutsCleanly 0 frames (marks 0 connection.arrivals) ∧
        ∀ frame ∈ frames, InputLine.Extractable frame.payload := by
  have awaiting := awaiting_zero message stream healthy
  constructor
  · rintro ⟨enough, decodes⟩
    by_contra harmed
    obtain ⟨calls, fault, stops⟩ := readInput_of_not_cutsCleanly awaiting harmed
    obtain ⟨lines, after, goes, -⟩ := decodes calls
    rw [stops] at goes
    cases goes
  · rintro ⟨clean, extractable⟩
    exact ⟨work connection.arrivals, readInput_of_cutsCleanly awaiting clean extractable⟩

/-- A frame that says hello. -/
def sampleFrame : ClientFrame where
  form := .seven
  key := [1, 2, 3, 4]
  payload := ascii "hello"
  key_length := rfl
  fits := by decide
  free := by decide

/-- An open WebSocket connection with the given future of its socket. -/
def sampleReader (arrivals : List Arrival) : Connection where
  socket := 5
  state := .opened
  greeted := true
  http := true
  encrypted := false
  isFile := false
  request := .none
  assembly := .empty
  out := .empty
  input := ⟨[], 1024⟩
  readable := true
  writable := false
  buffering := false
  arrivals := arrivals
  sends := []
  journal := []
  wasClosing := false

/-- A cut after the header and a pause between two frames do no harm. -/
theorem sampleFrame_decodes :
    DecodesExactly
      (sampleReader [.bytes sampleFrame.header,
        .bytes (applyMask sampleFrame.payload sampleFrame.key), .nothing,
        .bytes sampleFrame.bytes])
      [sampleFrame, sampleFrame] := by
  refine (decodesExactly_iff rfl rfl ?_).mpr (by decide)
  intro arrival member
  simp only [sampleReader, List.mem_cons, List.not_mem_nil, or_false] at member
  rcases member with rfl | rfl | rfl | rfl
  · exact .inr ⟨_, by decide, rfl⟩
  · exact .inr ⟨_, by decide, rfl⟩
  · exact .inl rfl
  · exact .inr ⟨_, by decide, rfl⟩

/-- A cut after three bytes makes the second call fail. -/
theorem sampleFrame_cut :
    streamBytes [.bytes (sampleFrame.bytes.take 3), .bytes (sampleFrame.bytes.drop 3)] =
        [sampleFrame].flatMap ClientFrame.bytes ∧
      ¬DecodesExactly
        (sampleReader [.bytes (sampleFrame.bytes.take 3), .bytes (sampleFrame.bytes.drop 3)])
        [sampleFrame] := by
  refine ⟨by decide, fun ⟨enough, decodes⟩ => ?_⟩
  obtain ⟨lines, after, goes, -⟩ := decodes 2
  have stops : readInput 2
      (sampleReader [.bytes (sampleFrame.bytes.take 3), .bytes (sampleFrame.bytes.drop 3)]) =
        .error (.assertion "size >= connection->in.size") := by
    rfl
  rw [stops] at goes
  cases goes

end Connection

end Football
