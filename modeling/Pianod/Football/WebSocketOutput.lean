import Pianod.Football.LineOutput
import Pianod.Foundation.WebSocketFrame

/-!
# Exactness of WebSocket output

Whatever is written to a WebSocket connection leaves as one text frame for each complete line, in
order, and an unterminated line waits in the assembly queue.  How the network takes the frames does
not matter: sending touches neither the assembly queue nor what has been queued.
-/

namespace Football

open Foundation

/-- The bytes that carry a line. -/
def lineFrame (line : Text) : Text := websocketHeader line.length ++ line

private theorem lineFrame_ne_nil (line : Text) : lineFrame line ≠ [] := by
  have header : websocketHeader line.length ≠ [] := by
    rw [websocketHeader]
    split
    · exact List.cons_ne_nil _ _
    · split <;> exact List.cons_ne_nil _ _
  exact List.append_ne_nil_of_left_ne_nil header _

/-- Each of the three forms of the header is read back as a final text frame. -/
theorem read_lineFrame {line : Text} (short : line.length < 2 ^ 32) (bytes : Text) :
    ServerFrame.read (lineFrame line ++ bytes) = some (.text line, bytes) := by
  have framed : ∀ {code : UInt8} {written : Text}, code.toNat < 128 →
      ServerFrame.readLength code.toNat (written ++ (line ++ bytes)) =
        some (line.length, line ++ bytes) →
      ServerFrame.read ([0x81, code] ++ written ++ line ++ bytes) =
        some (.text line, bytes) := by
    intro code written unmasked length
    have more : ¬(line ++ bytes).length < line.length := by simp
    simp only [List.append_assoc, List.cons_append, List.nil_append, ServerFrame.read,
      Nat.not_le.mpr unmasked, if_false, length, more, List.take_left', List.drop_left']
    rfl
  rw [lineFrame, websocketHeader]
  split
  · rename_i tiny
    have code : (UInt8.ofNat line.length).toNat = line.length := by
      rw [UInt8.toNat_ofNat']
      omega
    have length := @framed (UInt8.ofNat line.length) [] (by omega)
    rw [List.append_nil] at length
    apply length
    rw [code, ServerFrame.readLength, if_pos tiny]
    rfl
  · split
    · rename_i large small
      apply framed (by decide)
      refine ServerFrame.readLength_long (.inl ⟨rfl, rfl, rfl⟩) (length_bigEndian _ _) ?_
        (by omega) (by omega) _
      rw [ofBigEndian_bigEndian]
      omega
    · rename_i large huge
      have value : ofBigEndian (bigEndian 4 0 ++ bigEndian 4 line.length) = line.length := by
        have low : ofBigEndian (bigEndian 4 line.length) = line.length := by
          rw [ofBigEndian_bigEndian]
          omega
        have zeros : bigEndian 4 0 = [0, 0, 0, 0] := rfl
        rw [zeros]
        simp only [List.cons_append, List.nil_append, ofBigEndian, UInt8.toNat_zero, Nat.zero_mul,
          Nat.zero_add, low]
      have length := @framed 127 (bigEndian 4 0 ++ bigEndian 4 line.length) (by decide)
      rw [← List.append_assoc] at length
      apply length
      exact ServerFrame.readLength_long (.inr ⟨rfl, rfl, rfl⟩) (by simp) value (by omega)
        (by omega) _

/-! ## Taking a line off the assembly queue -/

@[simp]
theorem gather_zero (blocks : Nat) (queue : IOQueue) : gather blocks 0 queue = .ok ([], queue) := by
  cases blocks <;> rfl

/-- Gathering takes bytes off the front of what is pending. -/
theorem gather_spec {blocks messageLeft : Nat} {queue : IOQueue} (well : queue.WellFormed)
    (enough : queue.first.length ≤ blocks) (bounded : messageLeft ≤ queue.pending.length) :
    ∃ after, gather blocks messageLeft queue = .ok (queue.pending.take messageLeft, after) ∧
      after.WellFormed ∧ after.pending = queue.pending.drop messageLeft ∧
      after.first <:+ queue.first := by
  induction blocks generalizing messageLeft queue with
  | zero =>
      have none_left : queue.first = [] := List.length_eq_zero_iff.mp (by omega)
      have nothing : queue.pending = [] := by simp [IOQueue.pending, none_left]
      obtain rfl : messageLeft = 0 := by
        rw [nothing] at bounded
        exact Nat.le_zero.mp bounded
      exact ⟨queue, gather_zero _ _, well, rfl, List.suffix_refl _⟩
  | succ blocks ih =>
      cases messageLeft with
      | zero => exact ⟨queue, gather_zero _ _, well, rfl, List.suffix_refl _⟩
      | succ left =>
          have present : queue.first ≠ [] := by
            intro none_left
            simp [IOQueue.pending, none_left] at bounded
          obtain ⟨front, rest, shape⟩ := List.exists_cons_of_ne_nil present
          have inside : queue.consumed < front.length := well.inside front (by rw [shape]; rfl)
          let chunkSize := min (front.length - queue.consumed) (left + 1)
          have fits : queue.consumed + chunkSize ≤ front.length := by omega
          obtain ⟨after, consumed, later, split_eq, blocks_eq⟩ :=
            IOQueue.queueConsume_spec well shape fits
          have chunk_length : ((front.drop queue.consumed).take chunkSize).length = chunkSize := by
            rw [List.length_take, List.length_drop]
            omega
          have suffix : after.first <:+ queue.first := by
            rw [shape]
            split at blocks_eq
            · rw [blocks_eq.1]
              exact List.suffix_cons _ _
            · exact blocks_eq.1 ▸ List.suffix_refl _
          have gathered : ∃ final, gather blocks (left + 1 - chunkSize) after =
              .ok (after.pending.take (left + 1 - chunkSize), final) ∧ final.WellFormed ∧
                final.pending = after.pending.drop (left + 1 - chunkSize) ∧
                final.first <:+ after.first := by
            by_cases finished : queue.consumed + chunkSize = front.length
            · rw [if_pos finished] at blocks_eq
              refine ih later ?_ ?_
              · rw [shape, List.length_cons] at enough
                rw [blocks_eq.1]
                omega
              · rw [← split_eq, List.length_append, chunk_length] at bounded
                omega
            · have all : left + 1 - chunkSize = 0 := by omega
              rw [all]
              exact ⟨after, gather_zero _ _, later, rfl, List.suffix_refl _⟩
          obtain ⟨final, rest_eq, final_well, final_pending, final_suffix⟩ := gathered
          refine ⟨final, ?_, final_well, ?_, final_suffix.trans suffix⟩
          · have taken : queue.pending.take (left + 1) =
                (front.drop queue.consumed).take chunkSize ++
                  after.pending.take (left + 1 - chunkSize) := by
              rw [← split_eq, List.take_append, chunk_length,
                List.take_of_length_le (by rw [chunk_length]; omega)]
            have chunk_eq : min (front.length - queue.consumed) (left + 1) = chunkSize := rfl
            simp only [gather, shape, chunk_eq, consumed, rest_eq, taken]
          · have used : ((front.drop queue.consumed).take chunkSize).length ≤ left + 1 := by
              rw [chunk_length]
              exact Nat.min_le_right _ _
            rw [final_pending, ← split_eq, List.drop_append, chunk_length,
              List.drop_of_length_le used, List.nil_append]

/-- What is pending before the block that is searched for a newline. -/
def beforeScan (queue : IOQueue) : Text := queue.first.dropLast.flatten.drop queue.consumed

/-- The part of the last block that is searched for a newline. -/
def scanned (queue : IOQueue) (last : Text) : Text := last.drop (scanStart queue)

/-- What is pending is what precedes the searched text followed by that text. -/
theorem pending_eq_scan {queue : IOQueue} (well : queue.WellFormed) {last : Text}
    (tail : queue.last = some last) :
    queue.pending = beforeScan queue ++ scanned queue last ∧
      ∀ offset, scanStart queue + offset + (queue.first.dropLast.map List.length).sum -
        queue.consumed = (beforeScan queue).length + offset := by
  have ends := well.ends
  rw [tail] at ends
  obtain ⟨front, shape⟩ : ∃ front, queue.first = front ++ [last] :=
    List.getLast?_eq_some_iff.mp ends.symm
  cases front with
  | nil =>
      have start : scanStart queue = queue.consumed := by simp [scanStart, shape]
      constructor
      · simp [IOQueue.pending, beforeScan, scanned, start, shape]
      · intro offset
        simp [beforeScan, start, shape]
  | cons first middle =>
      have inside : queue.consumed < first.length := well.inside first (by rw [shape]; rfl)
      have start : scanStart queue = 0 := by simp [scanStart, shape]
      have early : queue.first.dropLast = first :: middle := by
        rw [shape, List.dropLast_concat]
      have within : queue.consumed ≤ (first :: middle).flatten.length := by
        rw [List.flatten_cons, List.length_append]
        omega
      constructor
      · rw [beforeScan, scanned, early, start, List.drop_zero, IOQueue.pending, shape,
          List.flatten_append, List.flatten_singleton, List.drop_append_of_le_length within]
      · intro offset
        rw [beforeScan, early, start, List.length_drop, ← List.length_flatten]
        omega

/-- The search finds the first newline. -/
theorem scanned_split {text : Text} (free : Text.NulFree text) {offset : Nat}
    (found : Text.strchr text newline = some offset) :
    ∃ front back, text = front ++ newline :: back ∧ front.length = offset ∧ newline ∉ front := by
  rw [Text.strchr_eq free, List.findIdx?_eq_some_iff_getElem] at found
  obtain ⟨inside, here, earlier⟩ := found
  have byte_eq : text[offset] = newline := by simpa using here
  refine ⟨text.take offset, text.drop (offset + 1), ?_, ?_, ?_⟩
  · rw [← byte_eq, List.getElem_cons_drop, List.take_append_drop]
  · rw [List.length_take]
    omega
  · intro member
    obtain ⟨index, bound, same⟩ := List.mem_iff_getElem.mp member
    rw [List.length_take] at bound
    have before := earlier index (by omega)
    rw [List.getElem_take] at same
    simp [same] at before

/-- Taking a line leaves what follows its newline, all within the last block. -/
theorem takeLine_spec {queue : IOQueue} (well : queue.WellFormed) {last : Text}
    (tail : queue.last = some last) (free : Text.NulFree last) {offset : Nat}
    (early : newline ∉ beforeScan queue)
    (found : Text.strchr (scanned queue last) newline = some offset) :
    ∃ line after, takeLine queue (scanStart queue + offset) = .ok (line, after) ∧
      newline ∉ line ∧ after.WellFormed ∧ queue.pending = line ++ newline :: after.pending ∧
      (after.first = [] ∨ after.first = [last]) := by
  obtain ⟨pending_eq, size_eq⟩ := pending_eq_scan well tail
  have scan_free : Text.NulFree (scanned queue last) :=
    fun byte member => free byte (List.mem_of_mem_drop member)
  obtain ⟨front, back, scan_eq, front_length, absent⟩ := scanned_split scan_free found
  let line := beforeScan queue ++ front
  have held : queue.pending = line ++ newline :: back := by
    rw [pending_eq, scan_eq, List.append_assoc]
  have line_length : line.length = (beforeScan queue).length + offset := by
    rw [List.length_append, front_length]
  have bounded : line.length ≤ queue.pending.length := by
    rw [held]
    exact (List.prefix_append line (newline :: back)).length_le
  obtain ⟨middle, gathered, middle_well, middle_pending, suffix⟩ := gather_spec well le_rfl bounded
  have taken : queue.pending.take line.length = line := by
    rw [held, List.take_left]
  have left : middle.pending = newline :: back := by
    rw [middle_pending, held, List.drop_left]
  have middle_first : middle.first = [last] := by
    have present : middle.first ≠ [] := by
      intro none_left
      simp [IOQueue.pending, none_left] at left
    have same_last : middle.last = some last := by
      rw [middle_well.ends, ← tail, well.ends]
      obtain ⟨earlier, whole⟩ := suffix
      rw [← whole, List.getLast?_append_of_ne_nil _ present]
    refine IOQueue.single_of_short middle_well same_last ?_
    have scan_length : (scanned queue last).length ≤ last.length := by
      rw [scanned, List.length_drop]
      omega
    rw [scan_eq, List.length_append] at scan_length
    rw [left]
    exact Nat.le_of_add_left_le scan_length
  have inside : middle.consumed < last.length := middle_well.inside last (by rw [middle_first]; rfl)
  obtain ⟨after, consumed, after_well, split_eq, shape⟩ :=
    IOQueue.queueConsume_spec middle_well middle_first (show middle.consumed + 1 ≤ _ from inside)
  have rest_eq : after.pending = back := by
    rw [left] at split_eq
    have one : ((last.drop middle.consumed).take 1).length = 1 := by
      rw [List.length_take, List.length_drop]
      omega
    obtain ⟨byte, single⟩ := List.length_eq_one_iff.mp one
    rw [single] at split_eq
    exact (List.cons.inj split_eq).2
  refine ⟨line, after, ?_, ?_, after_well, by rw [rest_eq]; exact held, ?_⟩
  · simp only [takeLine, size_eq, ← line_length, gathered, taken, consumed]
    rfl
  · intro member
    rcases List.mem_append.mp member with before | within
    · exact early before
    · exact absent within
  · split at shape
    · exact .inl shape.1
    · exact .inr shape.1

/-! ## Sending leaves the rest alone -/

namespace Connection

/-- The output queue is linked, and in order unless a send may fail. -/
structure Transport (mayFail : Prop) (out : IOQueue) (sends : List SendResult) : Prop where
  ends : out.last = out.first.getLast?
  healthy : ¬mayFail → out.WellFormed ∧ .failed ∉ sends

/-- The one way for the output to go wrong: a send from outside a block, after a failed send. -/
def LostTrack (mayFail : Prop) (fault : Fault) : Prop := fault = .outOfBounds ∧ mayFail

/-- Send asks for bytes of the front block, or the queue has lost track of it. -/
theorem Transport.offered {mayFail : Prop} {out : IOQueue} {sends : List SendResult}
    (transport : Transport mayFail out sends) (nonempty : out.first ≠ []) :
    (offered out = .error .outOfBounds ∧ mayFail) ∨
      ∃ front rest, out.first = front :: rest ∧ out.consumed ≤ front.length ∧
        offered out = .ok (front.drop out.consumed) := by
  obtain ⟨front, rest, shape⟩ := List.exists_cons_of_ne_nil nonempty
  by_cases within : out.consumed ≤ front.length
  · exact .inr ⟨front, rest, shape, within,
      by simp only [Connection.offered, shape, within, if_true]⟩
  · refine .inl ⟨by simp only [Connection.offered, shape, within, if_false], ?_⟩
    by_contra intact
    have inside := (transport.healthy intact).1.inside front (by rw [shape]; rfl)
    exact within (Nat.le_of_lt inside)

/-- Sent bytes are taken off the queue without harm. -/
theorem Transport.consume {mayFail : Prop} {out : IOQueue} {sends later : List SendResult}
    (transport : Transport mayFail out sends) (fewer : later ⊆ sends) {front : Text}
    {rest : List Text} (shape : out.first = front :: rest) {count : Nat}
    (bounded : out.consumed + count ≤ front.length) :
    ∃ after, out.queueConsume count = .ok after ∧ Transport mayFail after later := by
  obtain ⟨after, consumed, ends⟩ := IOQueue.queueConsume_ends transport.ends shape bounded
  refine ⟨after, consumed, ends, fun intact => ?_⟩
  obtain ⟨well, healthy⟩ := transport.healthy intact
  obtain ⟨other, same, kept, -⟩ := IOQueue.queueConsume_spec well shape bounded
  obtain rfl := Except.ok.inj (consumed.symm.trans same)
  exact ⟨kept, fun member => healthy (fewer member)⟩

/-- The send loop can only lose track, and records nothing as queued. -/
theorem sendLoop_outcome {mayFail : Prop} {out : IOQueue} {journal : List WireEvent}
    {sends : List SendResult} (transport : Transport mayFail out sends)
    (nonempty : out.first ≠ []) : FallibleRun.Outcome
      (fun sending => Transport mayFail sending.out sending.sends ∧
        queuedBytes sending.journal = queuedBytes journal ∧ (sending.failed = true → mayFail))
      (LostTrack mayFail) (sendLoop out journal sends) := by
  induction sends generalizing out journal with
  | nil =>
      rcases transport.offered nonempty with ⟨stop, failing⟩ | ⟨front, rest, shape, within, asked⟩
      · rw [sendLoop, stop]
        exact ⟨rfl, failing⟩
      · obtain ⟨after, consumed, later⟩ :=
          transport.consume (fun _ => id) shape (show out.consumed + 0 ≤ _ from within)
        simp only [sendLoop, asked, consumed]
        exact ⟨later, rfl, Bool.noConfusion⟩
  | cons result sends ih =>
      have fewer : sends ⊆ result :: sends := List.subset_cons_self _ _
      rcases transport.offered nonempty with ⟨stop, failing⟩ | ⟨front, rest, shape, within, asked⟩
      · cases result <;> simp only [sendLoop, stop] <;> exact ⟨rfl, failing⟩
      · cases result with
        | wouldBlock =>
            obtain ⟨after, consumed, later⟩ :=
              transport.consume fewer shape (show out.consumed + 0 ≤ _ from within)
            simp only [sendLoop, asked, consumed]
            exact ⟨later, rfl, Bool.noConfusion⟩
        | failed =>
            simp only [sendLoop, asked]
            have failing : mayFail := by
              by_contra intact
              exact (transport.healthy intact).2 List.mem_cons_self
            exact ⟨⟨rfl, fun intact => absurd failing intact⟩, by simp [queuedBytes],
              fun _ => failing⟩
        | sent count =>
            let written := min count (front.drop out.consumed).length
            have written_le : out.consumed + written ≤ front.length := by
              simp only [written, List.length_drop]
              omega
            obtain ⟨after, consumed, later⟩ := transport.consume fewer shape written_le
            have written_eq : min count (front.drop out.consumed).length = written := rfl
            simp only [sendLoop, asked, written_eq, consumed]
            split
            · rename_i more
              have still : after.first ≠ [] := by
                simpa [IOQueue.queueEmpty] using more.2
              have rest_outcome := @ih after
                (journal ++ [.sent ((front.drop out.consumed).take written)]) later still
              simpa [queuedBytes] using rest_outcome
            · exact ⟨later, by simp [queuedBytes], Bool.noConfusion⟩

/-- The connection takes part in output; only a failed send may have put it on its way out. -/
def Going (mayFail : Prop) (connection : Connection) : Prop :=
  connection.state = .opened ∨ mayFail ∧ connection.state = .flushing

/-- What sending leaves as it was. -/
structure Undisturbed (mayFail : Prop) (before after : Connection) : Prop where
  assembly : after.assembly = before.assembly
  http : after.http = before.http
  isFile : after.isFile = before.isFile
  /-- The connection may start to close when a send fails. -/
  state : after.state = before.state ∨ mayFail ∧ after.state = before.closeConnection.state
  queued : queuedBytes after.journal = queuedBytes before.journal

theorem Undisturbed.going {mayFail : Prop} {before after : Connection}
    (same : Undisturbed mayFail before after) (going : before.Going mayFail) :
    after.Going mayFail := by
  rcases same.state with kept | ⟨failing, closed⟩
  · rwa [Going, kept]
  · refine .inr ⟨failing, closed.trans ?_⟩
    rcases going with going | ⟨-, going⟩ <;> rw [closeConnection, going] <;> rfl

theorem Undisturbed.closing {mayFail : Prop} {before after : Connection}
    (same : Undisturbed mayFail before after) (closing : before.state = .closing) :
    after.state = .closing := by
  rcases same.state with kept | ⟨-, closed⟩
  · exact kept.trans closing
  · rw [closed, closeConnection, closing]
    rfl

/-- Sending what is queued disturbs nothing else. -/
theorem flushOutput_outcome {mayFail : Prop} {connection : Connection}
    (transport : Transport mayFail connection.out connection.sends)
    (nonempty : connection.out.first ≠ []) :
    FallibleRun.Outcome
      (fun after => Transport mayFail after.out after.sends ∧ Undisturbed mayFail connection after)
      (LostTrack mayFail) connection.flushOutput := by
  have loop := @sendLoop_outcome mayFail connection.out connection.journal connection.sends
    transport nonempty
  rw [flushOutput]
  cases sent : sendLoop connection.out connection.journal connection.sends with
  | error fault =>
      rw [sent] at loop
      exact loop
  | ok sending =>
      rw [sent] at loop
      obtain ⟨later, queued, failing⟩ := loop
      have marked : ∀ (closed : Connection) (vacant : Bool),
          Transport mayFail closed.out closed.sends ∧ Undisturbed mayFail connection closed →
          Transport mayFail (if vacant then closed else { closed with writable := true }).out
              (if vacant then closed else { closed with writable := true }).sends ∧
            Undisturbed mayFail connection
              (if vacant then closed else { closed with writable := true }) := by
        rintro closed (_ | _) ⟨onward, same⟩
        · exact ⟨onward, same.assembly, same.http, same.isFile, same.state, same.queued⟩
        · exact ⟨onward, same⟩
      apply marked
      split
      · rename_i broken
        exact ⟨later, rfl, rfl, rfl, .inr ⟨failing broken, rfl⟩, queued⟩
      · exact ⟨later, rfl, rfl, rfl, .inl rfl, queued⟩

/-- Trying to send disturbs nothing but the output queue. -/
theorem trySend_outcome {mayFail : Prop} {connection : Connection}
    (transport : Transport mayFail connection.out connection.sends) :
    FallibleRun.Outcome
      (fun after => Transport mayFail after.out after.sends ∧ Undisturbed mayFail connection after)
      (LostTrack mayFail) connection.trySend := by
  rw [trySend, sendOutput]
  split
  · exact ⟨transport, rfl, rfl, rfl, .inl rfl, rfl⟩
  · rename_i waiting
    have nonempty : connection.out.first ≠ [] := fun gone => waiting (List.isEmpty_iff.mpr gone)
    have flushed := flushOutput_outcome transport nonempty
    cases sent : connection.flushOutput <;> rw [sent] at flushed <;> exact flushed

/-- A queued message is recorded, and then only sending can go wrong. -/
theorem queueHttp_outcome {mayFail : Prop} {connection : Connection}
    (transport : Transport mayFail connection.out connection.sends) {message : Text}
    (nonempty : message ≠ []) :
    FallibleRun.Outcome
      (fun after => Transport mayFail after.out after.sends ∧
        Undisturbed mayFail { connection with journal := connection.journal ++ [.queued message] }
        after)
      (LostTrack mayFail) (connection.queueHttp message) := by
  obtain ⟨out, added, ends, -⟩ := IOQueue.queueAdd_ends transport.ends message
  have later : Transport mayFail out connection.sends := by
    refine ⟨ends, fun intact => ?_⟩
    obtain ⟨well, healthy⟩ := transport.healthy intact
    obtain ⟨other, same, kept, -⟩ := IOQueue.queueAdd_spec well nonempty
    obtain rfl := Except.ok.inj (added.symm.trans same)
    exact ⟨kept, healthy⟩
  let queued : Connection :=
    { connection with out := out, journal := connection.journal ++ [.queued message] }
  have outcome := @trySend_outcome mayFail queued later
  have unfolded : connection.queueHttp message = queued.trySend := by
    simp only [queueHttp, queueOut, added]
    rfl
  rw [unfolded]
  cases sent : queued.trySend with
  | error fault =>
      rw [sent] at outcome
      exact outcome
  | ok after =>
      rw [sent] at outcome
      obtain ⟨final, same⟩ := outcome
      exact ⟨final, same.assembly, same.http, same.isFile, same.state, same.queued⟩

/-! ## Encoding lines -/

/-- An assembly queue between two writes: in order, made of C strings. -/
structure Assembled (assembly : IOQueue) : Prop where
  well : assembly.WellFormed
  free : ∀ block ∈ assembly.first, Text.NulFree block

/-- The lines of `text` have left as frames and its rest is pending. -/
structure Encoded (mayFail : Prop) (text : Text) (before after : Connection) : Prop where
  transport : Transport mayFail after.out after.sends
  assembled : Assembled after.assembly
  pending : after.assembly.pending = (Text.splitLines newline text).2
  queued : queuedBytes after.journal =
    queuedBytes before.journal ++ (Text.splitLines newline text).1.flatMap lineFrame
  http : after.http = before.http
  isFile : after.isFile = before.isFile
  going : before.Going mayFail → after.Going mayFail

private theorem encodeLines_of_none {connection : Connection} {last : Text}
    (present : connection.assembly.first ≠ []) (tail : connection.assembly.last = some last)
    (absent : Text.strchr (scanned connection.assembly last) newline = none) (fuel : Nat) :
    connection.encodeLines (fuel + 1) = .ok connection := by
  obtain ⟨front, rest, shape⟩ := List.exists_cons_of_ne_nil present
  rw [scanned] at absent
  simp only [encodeLines, shape, tail, absent]

private theorem encodeLines_of_line {connection : Connection} {last line : Text} {offset : Nat}
    {assembly : IOQueue} (present : connection.assembly.first ≠ [])
    (tail : connection.assembly.last = some last)
    (found : Text.strchr (scanned connection.assembly last) newline = some offset)
    (taken : takeLine connection.assembly (scanStart connection.assembly + offset) =
      .ok (line, assembly)) (fuel : Nat) :
    connection.encodeLines (fuel + 1) =
      match { connection with assembly := assembly }.queueHttp (lineFrame line) with
      | .error fault => .error fault
      | .ok sent => if sent.assembly.queueEmpty then .ok sent else encodeLines fuel sent := by
  obtain ⟨front, rest, shape⟩ := List.exists_cons_of_ne_nil present
  rw [scanned] at found
  simp only [encodeLines, shape, tail, found, taken]
  rfl

private theorem Encoded.of_line {mayFail : Prop} {line rest : Text} {before sent after : Connection}
    (encoded : Encoded mayFail rest sent after) (absent : newline ∉ line)
    (recorded : queuedBytes sent.journal = queuedBytes before.journal ++ lineFrame line)
    (http : sent.http = before.http) (isFile : sent.isFile = before.isFile)
    (going : before.Going mayFail → sent.Going mayFail) :
    Encoded mayFail (line ++ newline :: rest) before after where
  transport := encoded.transport
  assembled := encoded.assembled
  pending := by rw [Text.splitLines_line absent, encoded.pending]
  queued := by
    rw [Text.splitLines_line absent, List.flatMap_cons, encoded.queued, recorded,
      List.append_assoc]
  http := encoded.http.trans http
  isFile := encoded.isFile.trans isFile
  going := encoded.going ∘ going

/-- Encoding turns every complete line into a frame, as long as only the last block may hold a
newline. -/
theorem encodeLines_outcome {mayFail : Prop} {fuel : Nat} {connection : Connection}
    (transport : Transport mayFail connection.out connection.sends)
    (assembled : Assembled connection.assembly) (present : connection.assembly.first ≠ [])
    (early : newline ∉ beforeScan connection.assembly)
    (enough : connection.assembly.pending.length < fuel) :
    FallibleRun.Outcome (Encoded mayFail connection.assembly.pending connection)
      (LostTrack mayFail) (connection.encodeLines fuel) := by
  induction fuel generalizing connection with
  | zero => exact absurd enough (Nat.not_lt_zero _)
  | succ fuel ih =>
      obtain ⟨last, tail⟩ : ∃ last, connection.assembly.last = some last := by
        rw [assembled.well.ends]
        exact ⟨_, List.getLast?_eq_getLast_of_ne_nil present⟩
      have free : Text.NulFree last := by
        apply assembled.free last
        apply List.mem_of_getLast?
        rw [← assembled.well.ends, tail]
      obtain ⟨pending_eq, -⟩ := pending_eq_scan assembled.well tail
      cases found : Text.strchr (scanned connection.assembly last) newline with
      | none =>
          rw [encodeLines_of_none present tail found]
          have scan_free : Text.NulFree (scanned connection.assembly last) :=
            fun byte member => free byte (List.mem_of_mem_drop member)
          rw [Text.strchr_eq scan_free, List.findIdx?_eq_none_iff] at found
          have absent : newline ∉ connection.assembly.pending := by
            rw [pending_eq]
            intro member
            rcases List.mem_append.mp member with before | within
            · exact early before
            · simpa using found newline within
          have split_eq := Text.splitLines_of_not_mem absent
          exact ⟨transport, assembled, by rw [split_eq], by simp [split_eq], rfl, rfl, id⟩
      | some offset =>
          obtain ⟨line, assembly, taken, absent, well, held, shape⟩ :=
            takeLine_spec assembled.well tail free early found
          have later : Assembled assembly := by
            refine ⟨well, fun block member => ?_⟩
            rcases shape with gone | kept
            · rw [gone] at member
              cases member
            · rw [kept] at member
              rw [List.mem_singleton.mp member]
              exact free
          rw [encodeLines_of_line present tail found taken]
          have queued := @queueHttp_outcome mayFail { connection with assembly := assembly }
            transport (lineFrame line) (lineFrame_ne_nil line)
          cases sent_eq : { connection with assembly := assembly }.queueHttp (lineFrame line) with
          | error fault =>
              rw [sent_eq] at queued
              exact queued
          | ok sent =>
              rw [sent_eq] at queued
              obtain ⟨onward, same⟩ := queued
              have recorded : queuedBytes sent.journal =
                  queuedBytes connection.journal ++ lineFrame line := by
                rw [same.queued, queuedBytes_append]
                simp [queuedBytes]
              have kept : sent.assembly = assembly := same.assembly
              rw [held]
              have onto : ∀ after, Encoded mayFail sent.assembly.pending sent after →
                  Encoded mayFail (line ++ newline :: assembly.pending) connection after := by
                intro after encoded
                rw [kept] at encoded
                exact encoded.of_line absent recorded same.http same.isFile same.going
              simp only
              split
              · rename_i vacant
                have nothing : sent.assembly.pending = [] := by
                  simp [IOQueue.pending, List.isEmpty_iff.mp vacant]
                apply onto
                rw [nothing]
                exact ⟨onward, kept ▸ later, nothing, by simp [Text.splitLines], rfl, rfl, id⟩
              · rename_i waiting
                have still : sent.assembly.first ≠ [] :=
                  fun gone => waiting (List.isEmpty_iff.mpr gone)
                have single : sent.assembly.first = [last] := by
                  rw [kept] at still ⊢
                  exact shape.resolve_left still
                have fewer : sent.assembly.pending.length < fuel := by
                  rw [held, List.length_append, List.length_cons] at enough
                  rw [kept]
                  omega
                have rest := ih onward (kept ▸ later) still (by simp [beforeScan, single]) fewer
                cases encoded_eq : encodeLines fuel sent with
                | error fault =>
                    rw [encoded_eq] at rest
                    exact rest
                | ok after =>
                    rw [encoded_eq] at rest
                    exact onto after rest

/-- A WebSocket connection that takes output, between two writes. -/
structure Carrying (mayFail : Prop) (connection : Connection) : Prop where
  transport : Transport mayFail connection.out connection.sends
  http : connection.http = true
  isFile : connection.isFile = false
  going : connection.Going mayFail
  assembled : Assembled connection.assembly
  unterminated : newline ∉ connection.assembly.pending

theorem Carrying.encoded {mayFail : Prop} {text : Text} {before after : Connection}
    (carrying : Carrying mayFail before) (encoded : Encoded mayFail text before after) :
    Carrying mayFail after where
  transport := encoded.transport
  http := encoded.http.trans carrying.http
  isFile := encoded.isFile.trans carrying.isFile
  going := encoded.going carrying.going
  assembled := encoded.assembled
  unterminated := by
    rw [encoded.pending]
    exact Text.not_mem_splitLines_rest _ _

/-- Sending after encoding changes nothing about the encoding. -/
theorem Encoded.undisturbed {mayFail : Prop} {text : Text} {before middle after : Connection}
    (encoded : Encoded mayFail text before middle)
    (transport : Transport mayFail after.out after.sends)
    (same : Undisturbed mayFail middle after) : Encoded mayFail text before after where
  transport := transport
  assembled := same.assembly ▸ encoded.assembled
  pending := same.assembly ▸ encoded.pending
  queued := same.queued.trans encoded.queued
  http := same.http.trans encoded.http
  isFile := same.isFile.trans encoded.isFile
  going := same.going ∘ encoded.going

private theorem not_drops {mayFail : Prop} {connection : Connection}
    (carrying : Carrying mayFail connection) {message : Text}
    (nonempty : message ≠ []) : connection.drops message = false := by
  have filled : message.isEmpty = false := by simpa using nonempty
  rcases carrying.going with state | ⟨-, state⟩ <;>
    simp [drops, filled, state, carrying.isFile, SocketState.rank]

/-- A write encodes the lines of what was pending together with what is written. -/
theorem queueSingle_outcome {mayFail : Prop} {connection : Connection}
    (carrying : Carrying mayFail connection) {message : Text} (nonempty : message ≠ [])
    (free : Text.NulFree message) :
    FallibleRun.Outcome
      (Encoded mayFail (connection.assembly.pending ++ message) connection)
      (LostTrack mayFail) (connection.queueSingle message) := by
  obtain ⟨assembly, added, well, blocks, consumed, pending⟩ :=
    IOQueue.queueAdd_spec carrying.assembled.well nonempty
  have assembled : Assembled assembly := by
    refine ⟨well, fun block member => ?_⟩
    rw [blocks] at member
    rcases List.mem_append.mp member with old | new
    · exact carrying.assembled.free block old
    · rw [List.mem_singleton.mp new]
      exact free
  have early : newline ∉ beforeScan assembly := by
    rw [beforeScan, blocks, List.dropLast_concat, consumed]
    exact carrying.unterminated
  have enough : assembly.pending.length < assembly.first.flatten.length + 1 := by
    rw [IOQueue.pending, List.length_drop]
    omega
  have present : assembly.first ≠ [] := by
    rw [blocks]
    exact List.append_ne_nil_of_right_ne_nil _ (List.cons_ne_nil _ _)
  let waiting : Connection := { connection with assembly := assembly }
  have outcome := @encodeLines_outcome mayFail (assembly.first.flatten.length + 1) waiting
    carrying.transport assembled present early enough
  have unfolded : connection.queueSingle message =
      match waiting.encodeLines (assembly.first.flatten.length + 1) with
      | .error fault => .error fault
      | .ok encoded => encoded.trySend := by
    rw [queueSingle, not_drops carrying nonempty, if_neg Bool.false_ne_true,
      if_pos carrying.http, added]
    rfl
  rw [unfolded]
  cases encoded_eq : waiting.encodeLines (assembly.first.flatten.length + 1) with
  | error fault =>
      rw [encoded_eq] at outcome
      exact outcome
  | ok encoded =>
      rw [encoded_eq] at outcome
      have encoding :
          Encoded mayFail (connection.assembly.pending ++ message) connection encoded := by
        have held : waiting.assembly.pending = connection.assembly.pending ++ message := pending
        obtain ⟨onward, later, rest, frames, http, isFile, going⟩ := outcome
        exact ⟨onward, later, held ▸ rest, held ▸ frames, http, isFile, going⟩
      have sending := trySend_outcome encoding.transport
      simp only
      cases sent : encoded.trySend with
      | error fault =>
          rw [sent] at sending
          exact sending
      | ok after =>
          rw [sent] at sending
          exact encoding.undisturbed sending.1 sending.2

/-! ## Runs of a WebSocket connection -/

/-- What can happen to the output of a WebSocket connection. -/
inductive WebSocketAction where
  | write (text : Text)
  /-- The event loop finds the socket writable. -/
  | attend
deriving DecidableEq, Repr

/-- What an action does to a connection. -/
def webSocketStep (connection : Connection) : WebSocketAction → Except Fault Connection
  | .write text => connection.queueSingle text
  | .attend => (connection.sendOutput true).map Prod.fst

/-- Everything written, in order. -/
def written (actions : List WebSocketAction) : Text :=
  actions.flatMap fun
    | .write text => text
    | .attend => []

/-- Attending to the output sends, or reports that the connection is closing. -/
theorem attend_outcome {mayFail : Prop} {connection : Connection}
    (transport : Transport mayFail connection.out connection.sends) :
    FallibleRun.Outcome
      (fun after => Transport mayFail after.out after.sends ∧
        (connection.state ≠ .opened ∧ after.state = .closing ∨
          Undisturbed mayFail connection after))
      (LostTrack mayFail) (webSocketStep connection .attend) := by
  rw [webSocketStep, sendOutput]
  split
  · rename_i vacant
    simp only [Bool.not_true, Bool.false_eq_true, if_false]
    split
    · rename_i flushing
      exact ⟨transport, .inl ⟨by simp [flushing], rfl⟩⟩
    · split
      · rename_i closing
        refine ⟨⟨rfl, fun intact => ?_⟩, .inl ⟨by simp [closing], closing⟩⟩
        obtain ⟨well, healthy⟩ := transport.healthy intact
        have idle := well.idle (List.isEmpty_iff.mp vacant)
        have cleared : connection.out.queueDestroy = .empty := by
          simp [IOQueue.queueDestroy, IOQueue.empty, idle]
        exact ⟨cleared ▸ IOQueue.wellFormed_empty, healthy⟩
      · exact ⟨transport, .inr ⟨rfl, rfl, rfl, .inl rfl, rfl⟩⟩
  · rename_i waiting
    have nonempty : connection.out.first ≠ [] := fun gone => waiting (List.isEmpty_iff.mpr gone)
    have flushed := flushOutput_outcome transport nonempty
    cases sent : connection.flushOutput with
    | error fault =>
        rw [sent] at flushed
        exact flushed
    | ok after =>
        rw [sent] at flushed
        exact ⟨flushed.1, .inr flushed.2⟩

/-- A connection whose closing was reported stays closed. -/
theorem closing_of_run {mayFail : Prop} {connection : Connection} {actions : List WebSocketAction}
    (transport : Transport mayFail connection.out connection.sends)
    (closing : connection.state = .closing) :
    FallibleRun.Outcome (fun after => after.state = .closing) (LostTrack mayFail)
      (FallibleRun.run webSocketStep connection actions) := by
  have keeps : ∀ state action,
      Transport mayFail state.out state.sends ∧ state.state = .closing →
      FallibleRun.Outcome
        (fun after => Transport mayFail after.out after.sends ∧ after.state = .closing)
        (LostTrack mayFail) (webSocketStep state action) := by
    rintro state action ⟨onward, closed⟩
    cases action with
    | write text =>
        have dropped : state.drops text = true := by simp [drops, closed]
        rw [webSocketStep, queueSingle, if_pos dropped]
        exact ⟨onward, closed⟩
    | attend =>
        have outcome := attend_outcome onward
        cases moved : webSocketStep state .attend with
        | error fault =>
            rw [moved] at outcome
            exact outcome
        | ok after =>
            rw [moved] at outcome
            exact ⟨outcome.1, outcome.2.elim And.right fun same => same.closing closed⟩
  have outcome := FallibleRun.run_outcome _ _ keeps ⟨transport, closing⟩ actions
  cases arrives : FallibleRun.run webSocketStep connection actions with
  | error fault =>
      rw [arrives] at outcome
      exact outcome
  | ok after =>
      rw [arrives] at outcome
      exact outcome.2

/-- Nothing is encoded by doing nothing. -/
theorem Carrying.refl {mayFail : Prop} {connection : Connection}
    (carrying : Carrying mayFail connection) :
    Encoded mayFail connection.assembly.pending connection connection where
  transport := carrying.transport
  assembled := carrying.assembled
  pending := by rw [Text.splitLines_of_not_mem carrying.unterminated]
  queued := by simp [Text.splitLines_of_not_mem carrying.unterminated]
  http := rfl
  isFile := rfl
  going := id

/-- Encoding goes on with the rest of what was encoded before. -/
theorem Encoded.append {mayFail : Prop} {front back : Text} {before middle after : Connection}
    (first : Encoded mayFail front before middle)
    (second : Encoded mayFail (middle.assembly.pending ++ back) middle after) :
    Encoded mayFail (front ++ back) before after where
  transport := second.transport
  assembled := second.assembled
  pending := by rw [Text.splitLines_append, ← first.pending, second.pending]
  queued := by
    rw [Text.splitLines_append, ← first.pending, List.flatMap_append, second.queued, first.queued,
      List.append_assoc]
  http := second.http.trans first.http
  isFile := second.isFile.trans first.isFile
  going := second.going ∘ first.going

/-- Unless its closing is reported, a run encodes everything that was written. -/
theorem encoded_of_run {mayFail : Prop} {connection : Connection} {actions : List WebSocketAction}
    (carrying : Carrying mayFail connection)
    (writes : ∀ text, .write text ∈ actions → text ≠ [] ∧ Text.NulFree text) :
    FallibleRun.Outcome
      (fun after => mayFail ∧ after.state = .closing ∨
        Encoded mayFail (connection.assembly.pending ++ written actions) connection after)
      (LostTrack mayFail) (FallibleRun.run webSocketStep connection actions) := by
  induction actions generalizing connection with
  | nil =>
      refine .inr ?_
      rw [written, List.flatMap_nil, List.append_nil]
      exact carrying.refl
  | cons action actions ih =>
      have later : ∀ text, .write text ∈ actions → text ≠ [] ∧ Text.NulFree text :=
        fun text member => writes text (List.mem_cons_of_mem _ member)
      -- Once the first action has encoded its text, the rest of the run goes on from there.
      have proceed : ∀ {middle : Connection} {text : Text},
          webSocketStep connection action = .ok middle →
          written (action :: actions) = text ++ written actions →
          Encoded mayFail (connection.assembly.pending ++ text) connection middle →
          FallibleRun.Outcome
            (fun after => mayFail ∧ after.state = .closing ∨ Encoded mayFail
              (connection.assembly.pending ++ written (action :: actions)) connection after)
            (LostTrack mayFail) (FallibleRun.run webSocketStep connection (action :: actions)) := by
        intro middle text moved text_eq first
        rw [FallibleRun.run_cons_of_ok moved, text_eq, ← List.append_assoc]
        have rest := ih (carrying.encoded first) later
        cases arrives : FallibleRun.run webSocketStep middle actions with
        | error fault =>
            rw [arrives] at rest
            exact rest
        | ok after =>
            rw [arrives] at rest
            exact rest.imp_right first.append
      cases action with
      | write text =>
          obtain ⟨nonempty, free⟩ := writes text List.mem_cons_self
          have encoding := queueSingle_outcome carrying nonempty free
          cases moved : webSocketStep connection (.write text) with
          | error fault =>
              rw [FallibleRun.run_cons_of_error moved]
              rw [webSocketStep] at moved
              rw [moved] at encoding
              exact encoding
          | ok middle =>
              refine proceed moved rfl ?_
              rw [webSocketStep] at moved
              rw [moved] at encoding
              exact encoding
      | attend =>
          have attended := attend_outcome carrying.transport
          cases moved : webSocketStep connection .attend with
          | error fault =>
              rw [FallibleRun.run_cons_of_error moved]
              rw [moved] at attended
              exact attended
          | ok middle =>
              rw [moved] at attended
              obtain ⟨onward, ⟨leaving, closed⟩ | same⟩ := attended
              · rw [FallibleRun.run_cons_of_ok moved]
                have final := @closing_of_run mayFail middle actions onward closed
                cases arrives : FallibleRun.run webSocketStep middle actions with
                | error fault =>
                    rw [arrives] at final
                    exact final
                | ok after =>
                    rw [arrives] at final
                    exact .inl ⟨(carrying.going.resolve_left leaving).1, final⟩
              · refine proceed moved (List.nil_append _).symm ?_
                rw [List.append_nil]
                exact carrying.refl.undisturbed onward same

/-- An open WebSocket connection to which no text was written yet. -/
structure OpenWebSocket (connection : Connection) : Prop where
  state : connection.state = .opened
  http : connection.http = true
  isFile : connection.isFile = false
  assembly : connection.assembly = .empty
  out : connection.out.WellFormed

/-- The frames queued for what was written are exactly its lines, and the assembly queue holds
exactly the unterminated rest. -/
def ExactlyFramed (text : Text) (before after : Connection) : Prop :=
  ∃ stream, queuedBytes after.journal = queuedBytes before.journal ++ stream ∧
    ServerFrame.ofStream stream = some ((Text.splitLines newline text).1.map ServerFrame.text) ∧
    after.assembly.WellFormed ∧ after.assembly.pending = (Text.splitLines newline text).2

private theorem Encoded.exactlyFramed {mayFail : Prop} {text : Text} {before after : Connection}
    (encoded : Encoded mayFail text before after)
    (short : ∀ line ∈ (Text.splitLines newline text).1, line.length < 2 ^ 32) :
    ExactlyFramed text before after :=
  ⟨_, encoded.queued,
    ServerFrame.ofStream_flatMap fun line member bytes => read_lineFrame (short line member) bytes,
    encoded.assembled.well, encoded.pending⟩

/-- Whatever is written to an open WebSocket connection, however it is cut, and however the network
takes the output: its lines leave as one text frame each.  Only after a failed send may the run stop
in a later one, or the connection report that it is closing. -/
theorem exactlyFramed_of_run {connection : Connection} (opened : OpenWebSocket connection)
    {actions : List WebSocketAction}
    (writes : ∀ text, .write text ∈ actions → text ≠ [] ∧ Text.NulFree text)
    (short : ∀ line ∈ (Text.splitLines newline (written actions)).1, line.length < 2 ^ 32) :
    FallibleRun.Outcome
      (fun after => .failed ∈ connection.sends ∧ after.state = .closing ∨
        ExactlyFramed (written actions) connection after)
      (fun fault => fault = .outOfBounds ∧ .failed ∈ connection.sends)
      (FallibleRun.run webSocketStep connection actions) := by
  have carrying : Carrying (.failed ∈ connection.sends) connection := by
    refine ⟨⟨opened.out.ends, fun healthy => ⟨opened.out, healthy⟩⟩, opened.http, opened.isFile,
      .inl opened.state, ?_, ?_⟩
    · rw [opened.assembly]
      exact ⟨IOQueue.wellFormed_empty, fun _ member => nomatch member⟩
    · rw [opened.assembly]
      exact List.not_mem_nil
  have outcome := encoded_of_run carrying writes
  rw [opened.assembly, IOQueue.pending_empty, List.nil_append] at outcome
  cases arrives : FallibleRun.run webSocketStep connection actions with
  | error fault =>
      rw [arrives] at outcome
      exact outcome
  | ok after =>
      rw [arrives] at outcome
      exact outcome.imp_right fun encoded => encoded.exactlyFramed short

/-- An open WebSocket connection whose socket takes a few bytes at a time. -/
def sampleSocket : Connection :=
  { sampleLine [.sent 4, .wouldBlock, .sent 100] with http := true }

/-- Three writes that make two lines and a rest. -/
def sampleWrites : List WebSocketAction :=
  [.write (ascii "he"), .write (ascii "llo\n\nwor"), .attend, .write (ascii "ld")]

theorem sampleWrites_framed :
    FallibleRun.Outcome
      (fun after => .failed ∈ sampleSocket.sends ∧ after.state = .closing ∨
        ExactlyFramed (written sampleWrites) sampleSocket after)
      (fun fault => fault = .outOfBounds ∧ .failed ∈ sampleSocket.sends)
      (FallibleRun.run webSocketStep sampleSocket sampleWrites) := by
  refine exactlyFramed_of_run ⟨rfl, rfl, rfl, rfl, IOQueue.wellFormed_empty⟩ ?_ (by decide)
  intro text member
  simp only [sampleWrites, List.mem_cons, WebSocketAction.write.injEq, reduceCtorEq,
    List.not_mem_nil, or_false, false_or] at member
  rcases member with rfl | rfl | rfl <;> decide

end Connection

end Football
