import Pianod.Football.WebSocketDecode

/-!
# Line input and packet boundaries

The line reader takes one byte at a time and keeps an incomplete line in the input buffer.  Where
the network cuts the stream, and where it pauses, therefore makes no difference: what has been read
so far splits into the lines that were returned and the tail in the buffer.
-/

namespace Football

open Foundation

/-- Strip returns off the end of a line. -/
def stripReturns (line : Text) : Text := line.rdropWhile fun byte => byte == 13 || byte == 10

private theorem stripReturns_concat (line : Text) :
    stripReturns (line ++ [newline]) = stripReturns line :=
  List.rdropWhile_concat_pos _ _ _ (by decide)

private theorem stripReturns_subset (line : Text) : stripReturns line ⊆ line :=
  (List.rdropWhile_prefix _ _).subset

private theorem arrived_eq (connection : Connection) :
    connection.arrived = (streamBytes connection.arrivals).length := by
  rw [Connection.arrived]
  induction connection.arrivals with
  | nil => rfl
  | cons arrival arrivals ih =>
      rw [List.map_cons, List.sum_cons, ih, streamBytes, streamBytes, List.flatMap_cons,
        List.length_append]
      cases arrival <;> rfl

theorem Healthy.tail {arrival : Arrival} {arrivals : List Arrival}
    (healthy : Healthy (arrival :: arrivals)) : Healthy arrivals :=
  fun later member => healthy later (List.mem_cons_of_mem _ member)

/-! ## One byte -/

/-- The reader takes the first byte of a piece and leaves the rest for the next call. -/
theorem recvInput_byte {connection : Connection} {byte : UInt8} {piece : Text}
    {arrivals : List Arrival} (room : connection.input.message.length < connection.input.capacity)
    (shape : connection.arrivals = .bytes (byte :: piece) :: arrivals)
    (healthy : Healthy connection.arrivals) :
    ∃ remaining, connection.recvInput 1 = .ok (true, connection.takeBytes [byte] remaining) ∧
      streamBytes connection.arrivals = byte :: streamBytes remaining ∧ Healthy remaining ∧
      work remaining < work connection.arrivals := by
  have fits : ¬connection.input.capacity < connection.input.message.length + 1 := by omega
  rw [shape] at healthy ⊢
  cases piece with
  | nil =>
      refine ⟨arrivals, ?_, by simp, healthy.tail, by simp [work]⟩
      simp [Connection.recvInput, fits, shape]
  | cons next piece =>
      refine ⟨.bytes (next :: piece) :: arrivals, ?_, by simp, ?_, by simp [work]⟩
      · simp [Connection.recvInput, fits, shape]
      · intro arrival member
        rcases List.mem_cons.mp member with rfl | later
        · exact .inr ⟨next :: piece, List.cons_ne_nil _ _, rfl⟩
        · exact healthy.tail arrival later

/-- What the reader finds on a healthy stream: nothing at all, nothing yet or a byte. -/
theorem recvInput_one {connection : Connection}
    (room : connection.input.message.length < connection.input.capacity)
    (healthy : Healthy connection.arrivals) :
    (connection.arrivals = [] ∧ connection.recvInput 1 = .ok (false, connection)) ∨
    (∃ arrivals, connection.arrivals = .nothing :: arrivals ∧
      connection.recvInput 1 = .ok (false, { connection with arrivals := arrivals })) ∨
    ∃ byte remaining, connection.recvInput 1 = .ok (true, connection.takeBytes [byte] remaining) ∧
      streamBytes connection.arrivals = byte :: streamBytes remaining ∧ Healthy remaining ∧
      work remaining < work connection.arrivals := by
  have fits : ¬connection.input.capacity < connection.input.message.length + 1 := by omega
  cases shape : connection.arrivals with
  | nil => exact .inl ⟨rfl, by simp [Connection.recvInput, fits, shape]⟩
  | cons arrival arrivals =>
      rcases healthy arrival (shape ▸ List.mem_cons_self) with rfl | ⟨piece, nonempty, rfl⟩
      · exact .inr (.inl ⟨arrivals, rfl, by simp [Connection.recvInput, fits, shape]⟩)
      · obtain ⟨byte, rest, rfl⟩ := List.exists_cons_of_ne_nil nonempty
        have found := recvInput_byte room shape healthy
        rw [shape] at found
        exact .inr (.inr ⟨byte, found⟩)

/-! ## One call -/

/-- The state between two calls: an incomplete line is buffered, within the capacity. -/
structure Incomplete (connection : Connection) : Prop where
  socketInput : connection.isFile = false
  fits : connection.input.message.length ≤ connection.input.capacity
  partialLine : newline ∉ connection.input.message
  healthy : Healthy connection.arrivals

/-- The buffer grows when it is full, and only then. -/
theorem room_for_byte {connection : Connection} (incomplete : Incomplete connection) :
    ∃ grown, (if connection.input.message.length = connection.input.capacity then
        connection.setInputBufferSize (connection.input.capacity * 2 + 64)
      else .ok connection) = .ok grown ∧
      grown.input.message.length < grown.input.capacity ∧
      grown.input.message = connection.input.message ∧ grown.arrivals = connection.arrivals ∧
      grown.isFile = connection.isFile ∧ grown.state = connection.state := by
  have fits := incomplete.fits
  by_cases full : connection.input.message.length = connection.input.capacity
  · have larger : ¬connection.input.capacity * 2 + 64 ≤ connection.input.capacity := by omega
    refine ⟨{ connection with
      input := { connection.input with capacity := connection.input.capacity * 2 + 64 + 100 } },
      ?_, ?_, rfl, rfl, rfl, rfl⟩
    · rw [if_pos full, Connection.setInputBufferSize, if_neg larger]
    · show connection.input.message.length < connection.input.capacity * 2 + 64 + 100
      omega
  · exact ⟨connection, by rw [if_neg full], by omega, rfl, rfl, rfl, rfl⟩

/-- What one call does to the stream: it takes some bytes; unless they complete a line they join
the buffer. -/
structure LineCall (before after : Connection) (received : Option Text) : Prop where
  incomplete : Incomplete after
  state : after.state = before.state
  taken : ∃ bytes, streamBytes before.arrivals = bytes ++ streamBytes after.arrivals ∧
    match received with
    | none => after.input.message = before.input.message ++ bytes
    | some line => ∃ body, line = body ++ [newline] ∧ newline ∉ body ∧
        before.input.message ++ bytes = line ∧ after.input.message = []
  progress : work after.arrivals ≤ work before.arrivals - 1

/-- A byte that does not complete the line may be counted to the call that goes on after it. -/
theorem LineCall.afterByte {before middle after : Connection} {received : Option Text}
    {byte : UInt8} (call : LineCall middle after received)
    (message : middle.input.message = before.input.message ++ [byte])
    (stream : streamBytes before.arrivals = byte :: streamBytes middle.arrivals)
    (less : work middle.arrivals < work before.arrivals) (state : middle.state = before.state) :
    LineCall before after received := by
  obtain ⟨bytes, rest, told⟩ := call.taken
  have progress := call.progress
  refine ⟨call.incomplete, call.state.trans state, ⟨byte :: bytes, ?_, ?_⟩, by omega⟩
  · rw [stream, rest, List.cons_append]
  · cases received with
    | none => rw [told, message, List.append_assoc, List.singleton_append]
    | some line =>
        obtain ⟨body, whole, absent, joined, empty⟩ := told
        refine ⟨body, whole, absent, ?_, empty⟩
        rw [← joined, message, List.append_assoc, List.singleton_append]

/-- With enough fuel for the bytes at hand, the loop stops by itself; the induction is on the
fuel, and the bytes taken so far are in the buffer. -/
theorem getLineBytes_call {fuel : Nat} {connection : Connection}
    (incomplete : Incomplete connection)
    (enough : (streamBytes connection.arrivals).length < fuel) :
    ∃ received after, Connection.getLineBytes fuel connection = .ok (received, after) ∧
      LineCall connection after received := by
  induction fuel generalizing connection with
  | zero => exact absurd enough (Nat.not_lt_zero _)
  | succ fuel ih =>
      obtain ⟨grown, growth, room, message, arrivals, file, state⟩ := room_for_byte incomplete
      have healthy : Healthy grown.arrivals := arrivals ▸ incomplete.healthy
      rw [Connection.getLineBytes, growth]
      dsimp only
      rcases recvInput_one room healthy with
        ⟨idle, read⟩ | ⟨later, pause, read⟩ | ⟨byte, remaining, read, stream, rest, less⟩
      · rw [read]
        refine ⟨none, grown, rfl, ⟨?_, room.le, ?_, healthy⟩, state, ⟨[], ?_, ?_⟩, ?_⟩
        · rw [file, incomplete.socketInput]
        · rw [message]
          exact incomplete.partialLine
        · rw [arrivals, List.nil_append]
        · rw [message, List.append_nil]
        · simp [idle, work]
      · rw [read]
        rw [pause] at healthy
        refine ⟨none, { grown with arrivals := later }, rfl, ⟨?_, room.le, ?_, healthy.tail⟩,
          state, ⟨[], ?_, ?_⟩, ?_⟩
        · exact file.trans incomplete.socketInput
        · show newline ∉ grown.input.message
          rw [message]
          exact incomplete.partialLine
        · rw [← arrivals, pause]
          rfl
        · show grown.input.message = _
          rw [message, List.append_nil]
        · rw [← arrivals, pause]
          simp [work]
      · have stored : (grown.takeBytes [byte] remaining).input.message =
            connection.input.message ++ [byte] := by
          rw [← message]
          rfl
        rw [arrivals] at stream less
        rw [read]
        dsimp only
        rw [stored, List.getLast?_concat]
        by_cases ended : byte = newline
        · rw [if_pos (congrArg some ended)]
          refine ⟨_, _, rfl, ⟨file.trans incomplete.socketInput, Nat.zero_le _,
            List.not_mem_nil, rest⟩, state, ⟨[byte], stream, ?_⟩, Nat.le_sub_one_of_lt less⟩
          exact ⟨connection.input.message, by rw [ended], incomplete.partialLine, rfl, rfl⟩
        · rw [if_neg fun same => ended (Option.some.inj same)]
          have longer : Incomplete (grown.takeBytes [byte] remaining) := by
            refine ⟨file.trans incomplete.socketInput, ?_, ?_, rest⟩
            · rw [stored, List.length_append, ← message]
              exact room
            · rw [stored, List.mem_append, List.mem_singleton]
              exact not_or.mpr ⟨incomplete.partialLine, fun same => ended same.symm⟩
          have fewer : (streamBytes remaining).length < fuel := by
            rw [stream, List.length_cons] at enough
            omega
          obtain ⟨received, after, run, call⟩ := ih longer fewer
          exact ⟨received, after, run, call.afterByte stored stream less state⟩

/-- What a call makes of the line it receives. -/
def handedOver (received : Option Text) (after : Connection) :
    Except Fault (Option InputLine × Connection) :=
  match received with
  | none => .ok (none, after)
  | some line =>
      (InputLine.create .plenty (stripReturns line)).map fun line => (some line, after)

private theorem readLineInput_call {connection : Connection} (incomplete : Incomplete connection) :
    ∃ received after, connection.readLineInput = handedOver received after ∧
      LineCall connection after received := by
  have enough : (streamBytes connection.arrivals).length < connection.arrived + 1 := by
    rw [arrived_eq]
    exact Nat.lt_succ_self _
  obtain ⟨received, after, run, call⟩ := getLineBytes_call incomplete enough
  refine ⟨received, after, ?_, call⟩
  rw [Connection.readLineInput, incomplete.socketInput, if_neg Bool.false_ne_true, run]
  cases received with
  | none => rfl
  | some line => rfl

/-- Whether the words of a line can be counted, less its line end. -/
def Splittable (line : Text) : Prop := ArgvVector.FewWords (stripReturns line).cString

/-- A line whose words cannot be counted is not handed over. -/
theorem handedOver_cases (received : Option Text) (after : Connection) :
    ((∀ line ∈ received, Splittable line) ∧ handedOver received after =
      .ok (received.map fun line => .ofBytes (stripReturns line), after)) ∨
    ∃ line fault, received = some line ∧ ¬Splittable line ∧
      handedOver received after = .error fault := by
  cases received with
  | none => exact .inl ⟨nofun, rfl⟩
  | some line =>
      rw [handedOver]
      by_cases few : Splittable line
      · refine .inl ⟨fun other same => Option.some.inj same ▸ few, ?_⟩
        rw [InputLine.create_few few]
        rfl
      · refine .inr ⟨line, .signedOverflow, rfl, few, ?_⟩
        rw [InputLine.create_many few]
        rfl

/-! ## Successive calls -/

/-- The lines of successive calls and the connection after them. -/
def readLines : Nat → Connection → Except Fault (List InputLine × Connection)
  | 0, connection => .ok ([], connection)
  | calls + 1, connection =>
      match connection.readLineInput with
      | .error fault => .error fault
      | .ok (line, after) =>
          (readLines calls after).map fun (lines, final) => (line.toList ++ lines, final)

/-- What a call takes splits, after the buffered bytes, into the line it returns and the tail it
leaves in the buffer. -/
theorem LineCall.splitLines {before after : Connection} {received : Option Text}
    (call : LineCall before after received) :
    ∃ bytes lines, streamBytes before.arrivals = bytes ++ streamBytes after.arrivals ∧
      Text.splitLines newline (before.input.message ++ bytes) = (lines, after.input.message) ∧
      received.toList.map stripReturns = lines.map stripReturns := by
  obtain ⟨bytes, rest, told⟩ := call.taken
  cases received with
  | none =>
      have absent := call.incomplete.partialLine
      rw [told] at absent
      refine ⟨bytes, [], rest, ?_, rfl⟩
      rw [told, Text.splitLines_of_not_mem absent]
  | some line =>
      obtain ⟨body, rfl, absent, joined, empty⟩ := told
      refine ⟨bytes, [body], rest, ?_, ?_⟩
      · rw [joined, Text.splitLines_line absent, empty]
        rfl
      · simp [stripReturns_concat]

private theorem LineCall.mem_lines {before after : Connection} {line : Text}
    (call : LineCall before after (some line)) :
    stripReturns line ∈ (Text.splitLines newline
      (before.input.message ++ streamBytes before.arrivals)).1.map stripReturns := by
  obtain ⟨bytes, lines, stream, split, told⟩ := call.splitLines
  rw [stream, ← List.append_assoc, Text.splitLines_append, split, List.map_append, ← told]
  exact List.mem_append_left _ List.mem_cons_self

/-- What has been read after any number of calls splits into the lines returned and the tail in the
buffer; every call makes progress while something has arrived. -/
structure LineCalls (before after : Connection) (lines : List Text) (calls : Nat) : Prop where
  incomplete : Incomplete after
  state : after.state = before.state
  taken : ∃ bytes, streamBytes before.arrivals = bytes ++ streamBytes after.arrivals ∧
    Text.splitLines newline (before.input.message ++ bytes) = (lines, after.input.message)
  progress : work after.arrivals ≤ work before.arrivals - calls

private theorem LineCalls.afterCall {before middle after : Connection} {received : Option Text}
    {lines : List Text} {calls : Nat} (call : LineCall before middle received)
    (rest : LineCalls middle after lines calls) :
    ∃ one, one.map stripReturns = received.toList.map stripReturns ∧
      LineCalls before after (one ++ lines) (calls + 1) := by
  obtain ⟨first, one, stream, front, told⟩ := call.splitLines
  obtain ⟨second, remaining, back⟩ := rest.taken
  have progress := call.progress
  have less := rest.progress
  refine ⟨one, told.symm, rest.incomplete, rest.state.trans call.state, ⟨first ++ second, ?_, ?_⟩,
    by omega⟩
  · rw [stream, remaining, List.append_assoc]
  · rw [← List.append_assoc, Text.splitLines_append, front, back]

/-- Enough calls read the whole stream. -/
theorem LineCalls.whole {before after : Connection} {lines : List Text} {calls : Nat}
    (done : LineCalls before after lines calls) (enough : work before.arrivals ≤ calls) :
    after.arrivals = [] := by
  have less := done.progress
  cases shape : after.arrivals with
  | nil => rfl
  | cons arrival arrivals =>
      rw [shape] at less
      cases arrival <;> simp [work] at less <;> omega

/-- Any number of calls returns lines, or it comes to a line whose words cannot be counted. -/
theorem readLines_incomplete {connection : Connection} (incomplete : Incomplete connection)
    (calls : Nat) :
    (∃ after lines, readLines calls connection =
        .ok (lines.map fun line => .ofBytes (stripReturns line), after) ∧
      LineCalls connection after lines calls ∧ ∀ line ∈ lines, Splittable line) ∨
    ((∃ fault, readLines calls connection = .error fault) ∧
      ∃ line ∈ (Text.splitLines newline
          (connection.input.message ++ streamBytes connection.arrivals)).1.map stripReturns,
        ¬ArgvVector.FewWords line.cString) := by
  induction calls generalizing connection with
  | zero =>
      refine .inl ⟨connection, [], rfl, ⟨incomplete, rfl, ⟨[], rfl, ?_⟩, Nat.le_refl _⟩,
        fun _ none => (nomatch none)⟩
      rw [List.append_nil, Text.splitLines_of_not_mem incomplete.partialLine]
  | succ calls ih =>
      obtain ⟨received, middle, run, call⟩ := readLineInput_call incomplete
      rcases handedOver_cases received middle with
        ⟨few, goes⟩ | ⟨line, fault, rfl, many, stops⟩
      · rcases ih call.incomplete with
          ⟨after, lines, later, rest, fewer⟩ | ⟨⟨fault, stops⟩, line, member, many⟩
        · obtain ⟨one, told, done⟩ := rest.afterCall call
          refine .inl ⟨after, one ++ lines, ?_, done, ?_⟩
          · have returned :
                (received.map fun line => InputLine.ofBytes (stripReturns line)).toList =
                one.map fun line => .ofBytes (stripReturns line) := by
              have mapped := congrArg (List.map InputLine.ofBytes) told
              rw [List.map_map, List.map_map] at mapped
              cases received with
              | none => exact mapped.symm
              | some line => exact mapped.symm
            rw [readLines, run, goes]
            dsimp only
            rw [later, returned, List.map_append]
            rfl
          · intro line member
            rcases List.mem_append.mp member with first | last
            · have stripped : stripReturns line ∈ received.toList.map stripReturns := by
                rw [← told]
                exact List.mem_map_of_mem first
              obtain ⟨same, inside, equal⟩ := List.mem_map.mp stripped
              have counted := few same (Option.mem_toList.mp inside)
              rwa [Splittable, equal] at counted
            · exact fewer line last
        · obtain ⟨first, one, stream, front, -⟩ := call.splitLines
          refine .inr ⟨⟨fault, by rw [readLines, run, goes]; dsimp only; rw [stops]; rfl⟩,
            line, ?_, many⟩
          rw [stream, ← List.append_assoc, Text.splitLines_append, front, List.map_append]
          exact List.mem_append_right _ member
      · exact .inr ⟨⟨fault, by rw [readLines, run, stops]⟩, stripReturns line, call.mem_lines, many⟩

/-- However often the reader is called before all of the stream has arrived, the calls return the
lines that have been completed, in order and less their line ends; the unterminated rest stays in
the buffer, within its capacity, and enough calls read the whole stream. -/
def ReadsExactly (connection : Connection) : Prop :=
  ∀ calls, ∃ lines after bytes, readLines calls connection = .ok (lines, after) ∧
    after.input.message.length ≤ after.input.capacity ∧ after.state = connection.state ∧
    streamBytes connection.arrivals = bytes ++ streamBytes after.arrivals ∧
    lines.map InputLine.command =
      (Text.splitLines newline (connection.input.message ++ bytes)).1.map stripReturns ∧
    after.input.message = (Text.splitLines newline (connection.input.message ++ bytes)).2 ∧
    (work connection.arrivals ≤ calls → bytes = streamBytes connection.arrivals)

section Healthy

variable {connection : Connection} (incomplete : Incomplete connection)
  (free : Text.NulFree (connection.input.message ++ streamBytes connection.arrivals))

include free in
/-- Without NULs a line is a string. -/
theorem cString_stripReturns {line : Text} (member : line ∈ (Text.splitLines newline
      (connection.input.message ++ streamBytes connection.arrivals)).1) :
    (stripReturns line).cString = stripReturns line :=
  Text.cString_eq fun byte inside =>
    free byte (Text.subset_of_mem_splitLines member (stripReturns_subset line inside))

include incomplete free

theorem few_of_readsExactly (reads : ReadsExactly connection) {line : Text}
    (member : line ∈ (Text.splitLines newline
      (connection.input.message ++ streamBytes connection.arrivals)).1) :
    ArgvVector.FewWords (stripReturns line) := by
  have whole := cString_stripReturns free member
  obtain ⟨_, _, _, goes, -⟩ := reads (work connection.arrivals)
  rcases readLines_incomplete incomplete (work connection.arrivals) with
    ⟨after, lines, run, done, few⟩ | ⟨⟨fault, stops⟩, -⟩
  · obtain ⟨bytes, stream, split⟩ := done.taken
    rw [done.whole (Nat.le_refl _)] at stream
    replace stream := stream.trans (List.append_nil _)
    rw [stream, split] at member
    have counted := few line member
    rwa [Splittable, whole] at counted
  · rw [stops] at goes
    cases goes

private theorem readsExactly_of_few (few : ∀ line ∈ (Text.splitLines newline
      (connection.input.message ++ streamBytes connection.arrivals)).1,
      ArgvVector.FewWords (stripReturns line)) :
    ReadsExactly connection := by
  intro calls
  rcases readLines_incomplete incomplete calls with
    ⟨after, lines, run, done, -⟩ | ⟨-, line, member, many⟩
  · obtain ⟨bytes, stream, split⟩ := done.taken
    refine ⟨_, after, bytes, run, done.incomplete.fits, done.state, stream, ?_, by rw [split],
      fun enough => ?_⟩
    · rw [split, List.map_map]
      refine List.map_congr_left fun line member => cString_stripReturns free ?_
      rw [stream, ← List.append_assoc, Text.splitLines_append, split]
      exact List.mem_append_left _ member
    · rw [stream, done.whole enough]
      exact (List.append_nil _).symm
  · obtain ⟨found, inside, rfl⟩ := List.mem_map.mp member
    rw [cString_stripReturns free inside] at many
    exact absurd (few found inside) many

/-- Line input does not depend on packet boundaries: a stream without NUL is read exactly, however
it arrives, just if the words of each of its lines can be counted. -/
theorem readsExactly_iff : ReadsExactly connection ↔
    ∀ line ∈ (Text.splitLines newline
        (connection.input.message ++ streamBytes connection.arrivals)).1,
      ArgvVector.FewWords (stripReturns line) :=
  ⟨fun reads _ member => few_of_readsExactly incomplete free reads member,
    readsExactly_of_few incomplete free⟩

end Healthy

/-- Two pieces with a pause between them, cut inside the line end. -/
theorem sampleLines :
    ∃ lines after, readLines 8
        (Connection.sampleReader [.bytes [97, 98, 13], .nothing, .bytes [10, 99]]) =
          .ok (lines, after) ∧
      lines.map InputLine.command = [[97, 98]] ∧ after.input.message = [99] := by
  have healthy : Healthy [.bytes [97, 98, 13], .nothing, .bytes [10, 99]] := by
    intro arrival member
    simp only [List.mem_cons, List.not_mem_nil, or_false] at member
    rcases member with rfl | rfl | rfl
    · exact .inr ⟨_, by decide, rfl⟩
    · exact .inl rfl
    · exact .inr ⟨_, by decide, rfl⟩
  obtain ⟨lines, after, bytes, run, -, -, -, commands, tail, whole⟩ :=
    (@readsExactly_iff (Connection.sampleReader _)
      ⟨rfl, Nat.zero_le _, List.not_mem_nil, healthy⟩ (by decide)).mpr (by decide) 8
  rw [whole (by decide)] at commands tail
  exact ⟨lines, after, run, commands, tail⟩

private theorem stripReturns_letters (count : Nat) :
    stripReturns (ArgvArray.letters count) = ArgvArray.letters count := by
  cases count with
  | zero => rfl
  | succ count =>
      have last : ArgvArray.letters (count + 1) = ArgvArray.letters count ++ [120] ++ [32] := by
        rw [ArgvArray.letters, List.replicate_succ', List.flatten_append, List.append_assoc]
        rfl
      rw [last]
      exact List.rdropWhile_concat_neg _ _ _ (by decide)

private theorem newline_letters (count : Nat) : newline ∉ ArgvArray.letters count := by
  intro member
  obtain ⟨word, words, inside⟩ := List.mem_flatten.mp member
  rw [List.eq_of_mem_replicate words] at inside
  exact absurd inside (by decide)

/-- A single line that arrives as a whole. -/
theorem few_of_readsExactly_line {line : Text} (free : Text.NulFree line) (absent : newline ∉ line)
    (bare : stripReturns line = line)
    (reads : ReadsExactly (Connection.sampleReader [.bytes (line ++ [newline])])) :
    ArgvVector.FewWords line := by
  have healthy : Healthy [.bytes (line ++ [newline])] := by
    intro arrival member
    rw [List.mem_singleton.mp member]
    exact .inr ⟨_, List.concat_ne_nil _ _, rfl⟩
  have stream : streamBytes (Connection.sampleReader [.bytes (line ++ [newline])]).arrivals =
      line ++ [newline] := List.append_nil _
  have few := few_of_readsExactly ⟨rfl, Nat.zero_le _, List.not_mem_nil, healthy⟩
    (show Text.NulFree ([] ++ streamBytes _) by
      rw [List.nil_append, stream]
      exact free.append (by decide)) reads (show line ∈ (Text.splitLines newline ([] ++ _)).1 by
      rw [stream, List.nil_append, Text.splitLines_line absent]
      exact List.mem_singleton_self _)
  rwa [bare] at few

/-- A line of as many words as an `int` can count is not returned. -/
theorem readsExactly_letters :
    ¬ReadsExactly (Connection.sampleReader
      [.bytes (ArgvArray.letters (2 ^ 31 - 1) ++ [newline])]) := by
  intro reads
  have few := few_of_readsExactly_line (ArgvArray.nulFree_letters _) (newline_letters _)
    (stripReturns_letters _) reads
  rw [ArgvVector.FewWords, ArgvArray.wordStarts_letters] at few
  exact absurd few (by decide)

end Football
