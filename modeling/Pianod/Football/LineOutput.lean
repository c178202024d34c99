import Pianod.Football.WebSocketEncode

/-!
# Output integrity

The journal of a connection must balance: what was queued is what was sent followed by what is
pending.  Sending, queueing and closing keep the balance, with one exception.  When `send` fails
while the front block is partly consumed, destroying the queue leaves the consumed offset behind,
and the next block is not sent from its start.
-/

namespace Football

open Foundation

/-- The bytes a journal says were queued. -/
def queuedBytes (journal : List WireEvent) : Text :=
  journal.flatMap fun
    | .queued message => message
    | _ => []

/-- The bytes a journal says were sent. -/
def sentBytes (journal : List WireEvent) : Text :=
  journal.flatMap fun
    | .sent bytes => bytes
    | _ => []

/-- What happened up to the first send error. -/
def beforeFailure (journal : List WireEvent) : List WireEvent :=
  journal.takeWhile (· ≠ .sendFailed)

/-- While no send has failed, the bytes sent and those pending make up the bytes queued; after a
failure the bytes sent before it remain a prefix of the bytes queued before it. -/
def Balanced (journal : List WireEvent) (pending : Text) : Prop :=
  if .sendFailed ∈ journal then
    sentBytes (beforeFailure journal) <+: queuedBytes (beforeFailure journal)
  else sentBytes journal ++ pending = queuedBytes journal

@[simp]
theorem queuedBytes_append (front back : List WireEvent) :
    queuedBytes (front ++ back) = queuedBytes front ++ queuedBytes back :=
  List.flatMap_append

@[simp]
theorem sentBytes_append (front back : List WireEvent) :
    sentBytes (front ++ back) = sentBytes front ++ sentBytes back :=
  List.flatMap_append

/-- The messages a journal says were queued. -/
def queuedMessages (journal : List WireEvent) : List Text :=
  journal.filterMap fun
    | .queued message => some message
    | _ => none

@[simp]
theorem queuedMessages_append (front back : List WireEvent) :
    queuedMessages (front ++ back) = queuedMessages front ++ queuedMessages back :=
  List.filterMap_append

/-- The bytes queued are those of the messages queued. -/
theorem queuedBytes_eq (journal : List WireEvent) :
    queuedBytes journal = (queuedMessages journal).flatten := by
  induction journal with
  | nil => rfl
  | cons event journal ih =>
      rw [queuedBytes, List.flatMap_cons, ← queuedBytes, ih]
      cases event <;> rfl

namespace Connection

/-- Sending queues nothing. -/
theorem sendLoop_queued {out : IOQueue} {journal : List WireEvent} {sends : List SendResult}
    {sending : Sending} (sent : sendLoop out journal sends = .ok sending) :
    queuedMessages sending.journal = queuedMessages journal := by
  induction sends generalizing out journal with
  | nil =>
      rw [sendLoop] at sent
      split at sent
      · cases sent
      · obtain ⟨after, -, rfl⟩ := FallibleRun.map_ok_iff.mp sent
        rfl
  | cons result sends ih =>
      cases result with
      | wouldBlock =>
          rw [sendLoop] at sent
          split at sent
          · cases sent
          · obtain ⟨after, -, rfl⟩ := FallibleRun.map_ok_iff.mp sent
            rfl
      | failed =>
          rw [sendLoop] at sent
          obtain ⟨after, -, rfl⟩ := FallibleRun.map_ok_iff.mp sent
          simp [queuedMessages]
      | sent count =>
          rw [sendLoop] at sent
          split at sent
          · cases sent
          · dsimp only at sent
            split at sent
            · cases sent
            · split at sent
              · rw [ih sent]
                simp [queuedMessages]
              · cases sent
                simp [queuedMessages]

private theorem flushOutput_queued {before after : Connection}
    (flushed : before.flushOutput = .ok after) :
    queuedMessages after.journal = queuedMessages before.journal := by
  rw [flushOutput] at flushed
  split at flushed
  · cases flushed
  · rename_i sending loop
    obtain rfl := Except.ok.inj flushed
    rw [← sendLoop_queued loop]
    split <;> split <;> rfl

/-- A queued message is recorded once, whatever becomes of it. -/
theorem queueHttp_queued {before after : Connection} {message : Text}
    (sent : before.queueHttp message = .ok after) :
    queuedMessages after.journal = queuedMessages before.journal ++ [message] := by
  rw [queueHttp, queueOut] at sent
  cases added : before.out.queueAdd message with
  | error fault =>
      rw [added] at sent
      cases sent
  | ok out =>
      rw [added] at sent
      obtain ⟨⟨tried, report⟩, attended, rfl⟩ := FallibleRun.map_ok_iff.mp sent
      rw [sendOutput] at attended
      split at attended
      · cases attended
        exact queuedMessages_append _ _
      · obtain ⟨flushed, flush, same⟩ := FallibleRun.map_ok_iff.mp attended
        obtain rfl := congrArg Prod.fst same
        rw [flushOutput_queued flush]
        exact queuedMessages_append _ _

end Connection

private theorem beforeFailure_append {journal : List WireEvent} (failed : .sendFailed ∈ journal)
    (later : List WireEvent) : beforeFailure (journal ++ later) = beforeFailure journal := by
  induction journal with
  | nil => simp at failed
  | cons event journal ih =>
      by_cases here : event = .sendFailed
      · simp [beforeFailure, here]
      · have member : WireEvent.sendFailed ∈ journal := by
          simpa [Ne.symm here] using failed
        have tail := ih member
        have proceeds : decide (event ≠ .sendFailed) = true := decide_eq_true here
        simp only [beforeFailure] at tail ⊢
        rw [List.cons_append, List.takeWhile_cons, List.takeWhile_cons, if_pos proceeds,
          if_pos proceeds, tail]

theorem beforeFailure_of_not_mem {journal : List WireEvent} (intact : .sendFailed ∉ journal) :
    beforeFailure journal = journal := by
  rw [beforeFailure, List.takeWhile_eq_self_iff]
  intro event member
  have other : event ≠ .sendFailed := by
    rintro rfl
    exact intact member
  simpa using other

private theorem balanced_nil : Balanced [] [] := by
  simp [Balanced, sentBytes, queuedBytes]

theorem Balanced.of_failed {journal : List WireEvent} {before after : Text}
    (balanced : Balanced journal before) (failed : .sendFailed ∈ journal) (later : List WireEvent) :
    Balanced (journal ++ later) after := by
  rw [Balanced, if_pos failed] at balanced
  rw [Balanced, if_pos (List.mem_append_left _ failed), beforeFailure_append failed]
  exact balanced

/-- Queued bytes join the pending ones. -/
theorem Balanced.queued {journal : List WireEvent} {pending : Text}
    (balanced : Balanced journal pending) (message : Text) :
    Balanced (journal ++ [.queued message]) (pending ++ message) := by
  by_cases failed : .sendFailed ∈ journal
  · exact balanced.of_failed failed _
  · have intact : WireEvent.sendFailed ∉ journal ++ [.queued message] := by simpa using failed
    rw [Balanced, if_neg failed] at balanced
    rw [Balanced, if_neg intact, sentBytes_append, queuedBytes_append, ← balanced]
    simp [sentBytes, queuedBytes]

/-- Sent bytes leave the front of the pending ones. -/
theorem Balanced.sent {journal : List WireEvent} {bytes pending : Text}
    (balanced : Balanced journal (bytes ++ pending)) :
    Balanced (journal ++ [.sent bytes]) pending := by
  by_cases failed : .sendFailed ∈ journal
  · exact balanced.of_failed failed _
  · have intact : WireEvent.sendFailed ∉ journal ++ [.sent bytes] := by simpa using failed
    rw [Balanced, if_neg failed] at balanced
    rw [Balanced, if_neg intact, sentBytes_append, queuedBytes_append, ← balanced]
    simp [sentBytes, queuedBytes]

/-- A failure freezes the balance. -/
theorem Balanced.sendFailed {journal : List WireEvent} {before after : Text}
    (balanced : Balanced journal before) : Balanced (journal ++ [.sendFailed]) after := by
  by_cases failed : .sendFailed ∈ journal
  · exact balanced.of_failed failed _
  · have broken : WireEvent.sendFailed ∈ journal ++ [.sendFailed] := by simp
    have kept : beforeFailure (journal ++ [.sendFailed]) = journal := by
      rw [beforeFailure, List.takeWhile_append, if_pos]
      · simp
      · have same := beforeFailure_of_not_mem failed
        rw [beforeFailure] at same
        rw [same]
    rw [Balanced, if_neg failed] at balanced
    rw [Balanced, if_pos broken, kept, ← balanced]
    exact List.prefix_append _ _

private theorem Balanced.isPrefix {journal : List WireEvent} {pending : Text}
    (balanced : Balanced journal pending) :
    sentBytes (beforeFailure journal) <+: queuedBytes (beforeFailure journal) := by
  by_cases failed : .sendFailed ∈ journal
  · rwa [Balanced, if_pos failed] at balanced
  · rw [Balanced, if_neg failed] at balanced
    rw [beforeFailure_of_not_mem failed, ← balanced]
    exact List.prefix_append _ _

/-! ## The send loop -/

/-- In a series of send results, none fails while a block is partly sent. -/
def FailsBetweenBlocks : Nat → List Text → List SendResult → Prop
  | consumed, _ :: _, .failed :: _ => consumed = 0
  | consumed, front :: rest, .sent count :: sends =>
      if count = 0 then True
      else if front.length ≤ consumed + count then FailsBetweenBlocks 0 rest sends
      else FailsBetweenBlocks (consumed + count) (front :: rest) sends
  | _, _, _ => True

instance decidableFailsBetweenBlocks : ∀ consumed blocks sends,
    Decidable (FailsBetweenBlocks consumed blocks sends)
  | consumed, _ :: _, .failed :: _ => inferInstanceAs (Decidable (consumed = 0))
  | consumed, front :: rest, .sent count :: sends =>
      have := decidableFailsBetweenBlocks 0 rest sends
      have := decidableFailsBetweenBlocks (consumed + count) (front :: rest) sends
      inferInstanceAs (Decidable (if count = 0 then True
        else if front.length ≤ consumed + count then FailsBetweenBlocks 0 rest sends
        else FailsBetweenBlocks (consumed + count) (front :: rest) sends))
  | _, _ :: _, .wouldBlock :: _ | _, _ :: _, [] => isTrue trivial
  | _, [], _ => isTrue (by simp only [FailsBetweenBlocks])

namespace Connection

/-- The queue is in order and the journal balances. -/
structure InOrder (out : IOQueue) (journal : List WireEvent) : Prop where
  well : out.WellFormed
  balanced : Balanced journal out.pending

theorem offered_spec {out : IOQueue} (well : out.WellFormed) {front : Text} {rest : List Text}
    (blocks : out.first = front :: rest) : offered out = .ok (front.drop out.consumed) := by
  have inside : out.consumed < front.length := well.inside front (by rw [blocks]; rfl)
  rw [offered, blocks]
  exact if_pos (by omega)

theorem inOrder_consume_zero {out : IOQueue} {journal : List WireEvent}
    (order : InOrder out journal) {front : Text} {rest : List Text}
    (blocks : out.first = front :: rest) :
    ∃ after, out.queueConsume 0 = .ok after ∧ InOrder after journal := by
  have inside : out.consumed < front.length := order.well.inside front (by rw [blocks]; rfl)
  obtain ⟨after, consumed, well, pending, -⟩ :=
    IOQueue.queueConsume_spec order.well blocks (by omega : out.consumed + 0 ≤ front.length)
  rw [List.take_zero, List.nil_append] at pending
  exact ⟨after, consumed, well, pending ▸ order.balanced⟩

/-- From a queue in order the send loop asks only for bytes of the front block and leaves the
queue in order, unless a send fails inside a block. -/
theorem sendLoop_spec {out : IOQueue} {journal : List WireEvent} {sends : List SendResult}
    (order : InOrder out journal) (nonempty : out.first ≠ [])
    (clean : FailsBetweenBlocks out.consumed out.first sends) :
    ∃ sending, sendLoop out journal sends = .ok sending ∧ InOrder sending.out sending.journal := by
  induction sends generalizing out journal with
  | nil =>
      obtain ⟨front, rest, blocks⟩ := List.exists_cons_of_ne_nil nonempty
      obtain ⟨after, consumed, later⟩ := inOrder_consume_zero order blocks
      exact ⟨⟨after, [], journal, false⟩,
        by simp only [sendLoop, offered_spec order.well blocks, consumed]; rfl, later⟩
  | cons result sends ih =>
      obtain ⟨front, rest, blocks⟩ := List.exists_cons_of_ne_nil nonempty
      have asked := offered_spec order.well blocks
      have inside : out.consumed < front.length := order.well.inside front (by rw [blocks]; rfl)
      cases result with
      | wouldBlock =>
          obtain ⟨after, consumed, later⟩ := inOrder_consume_zero order blocks
          exact ⟨⟨after, sends, journal, false⟩, by simp only [sendLoop, asked, consumed]; rfl,
            later⟩
      | failed =>
          rw [blocks] at clean
          have boundary : out.consumed = 0 := clean
          refine ⟨⟨out.queueDestroy, sends, journal ++ [.sendFailed], true⟩,
            by simp only [sendLoop, asked]; rfl, ?_, order.balanced.sendFailed⟩
          have cleared : out.queueDestroy = .empty := by
            simp [IOQueue.queueDestroy, IOQueue.empty, boundary]
          rw [cleared]
          exact IOQueue.wellFormed_empty
      | sent count =>
          let written := min count (front.drop out.consumed).length
          have written_le : out.consumed + written ≤ front.length := by
            simp only [written, List.length_drop]
            omega
          obtain ⟨after, consumed, well, pending, shape⟩ :=
            IOQueue.queueConsume_spec order.well blocks written_le
          have balanced : Balanced (journal ++ [.sent ((front.drop out.consumed).take written)])
              after.pending := by
            apply Balanced.sent
            rw [pending]
            exact order.balanced
          have unfolded : sendLoop out journal (.sent count :: sends) =
              if 0 < written ∧ after.queueEmpty = false then
                sendLoop after (journal ++ [.sent ((front.drop out.consumed).take written)]) sends
              else .ok ⟨after, sends,
                journal ++ [.sent ((front.drop out.consumed).take written)], false⟩ := by
            have count_eq : min count (front.drop out.consumed).length = written := rfl
            simp only [sendLoop, asked, count_eq, consumed]
          rw [unfolded]
          split
          · rename_i more
            have still : after.first ≠ [] := by
              simpa [IOQueue.queueEmpty] using more.2
            refine ih ⟨well, balanced⟩ still ?_
            have positive : count ≠ 0 := by
              have := more.1
              omega
            rw [blocks] at clean
            simp only [FailsBetweenBlocks, positive, if_false] at clean
            by_cases finished : out.consumed + written = front.length
            · rw [if_pos finished] at shape
              have reached : front.length ≤ out.consumed + count := by
                omega
              rw [if_pos reached] at clean
              rw [shape.1, shape.2]
              exact clean
            · rw [if_neg finished] at shape
              have partway : written = count := by
                simp only [written, List.length_drop] at finished ⊢
                omega
              have short : ¬front.length ≤ out.consumed + count := by
                omega
              rw [if_neg short] at clean
              rw [shape.1, shape.2, partway]
              exact clean
          · exact ⟨_, rfl, well, balanced⟩

private theorem flushOutput_spec {connection : Connection}
    (order : InOrder connection.out connection.journal) (nonempty : connection.out.first ≠ [])
    (clean : FailsBetweenBlocks connection.out.consumed connection.out.first connection.sends) :
    ∃ flushed, connection.flushOutput = .ok flushed ∧ InOrder flushed.out flushed.journal ∧
      flushed.http = connection.http := by
  obtain ⟨sending, loop, later⟩ := sendLoop_spec order nonempty clean
  refine ⟨_, by rw [flushOutput, loop], ?_, ?_⟩
  · split <;> split <;> exact later
  · split <;> split <;> rfl

/-- Attending to the output keeps the queue in order. -/
theorem sendOutput_spec {connection : Connection}
    (order : InOrder connection.out connection.journal)
    (clean : FailsBetweenBlocks connection.out.consumed connection.out.first connection.sends)
    (withEvent : Bool) :
    ∃ sent report, connection.sendOutput withEvent = .ok (sent, report) ∧
      InOrder sent.out sent.journal ∧ sent.http = connection.http := by
  rw [sendOutput]
  split
  · rename_i vacant
    have cleared : connection.out.queueDestroy = connection.out := by
      have gone : connection.out.first = [] := List.isEmpty_iff.mp vacant
      have ends := order.well.ends
      rw [gone] at ends
      simp only [IOQueue.queueDestroy]
      rw [← gone, ← show connection.out.last = none from ends]
    split
    · exact ⟨_, _, rfl, order, rfl⟩
    · split
      · exact ⟨_, _, rfl, order, rfl⟩
      · split
        · exact ⟨_, _, rfl, cleared ▸ order, rfl⟩
        · exact ⟨_, _, rfl, order, rfl⟩
  · rename_i waiting
    have nonempty : connection.out.first ≠ [] := fun gone => waiting (List.isEmpty_iff.mpr gone)
    obtain ⟨flushed, flush, later, line⟩ := flushOutput_spec order nonempty clean
    exact ⟨flushed, .nothing, by rw [flush]; rfl, later, line⟩

private theorem queueOut_spec {connection : Connection}
    (order : InOrder connection.out connection.journal) {message : Text} (nonempty : message ≠ []) :
    ∃ queued, connection.queueOut message = .ok queued ∧ InOrder queued.out queued.journal ∧
      queued.out.first = connection.out.first ++ [message] ∧
      queued.out.consumed = connection.out.consumed ∧ queued.sends = connection.sends ∧
      queued.http = connection.http := by
  obtain ⟨out, added, well, blocks, consumed, pending⟩ :=
    IOQueue.queueAdd_spec order.well nonempty
  refine ⟨{ connection with out := out, journal := connection.journal ++ [.queued message] },
    by rw [queueOut, added]; rfl, ⟨well, ?_⟩, blocks, consumed, rfl, rfl⟩
  rw [pending]
  exact order.balanced.queued message

/-! ## Runs of a line-mode connection -/

/-- What can happen to the output of a connection. -/
inductive OutputAction where
  | queue (message : Text)
  | broadcast (message : Text)
  /-- The event loop finds the socket writable. -/
  | attend
  | close
deriving DecidableEq, Repr

/-- A connection until it is destroyed; what it was is kept for the record. -/
structure OutputLife where
  connection : Connection
  destroyed : Bool
deriving DecidableEq, Repr

/-- What an action does to a live connection. -/
def outputStep (life : OutputLife) : OutputAction → Except Fault OutputLife
  | action =>
      if life.destroyed then .ok life
      else match action with
        | .queue message =>
            (life.connection.queueSingle message).map fun after => ⟨after, false⟩
        | .broadcast message =>
            (life.connection.queueBroadcastTo message).map fun after => ⟨after, false⟩
        | .attend =>
            (life.connection.sendOutput true).map fun (after, report) =>
              ⟨after, report == .destroyed⟩
        | .close => .ok ⟨life.connection.closeConnection, false⟩

/-- The blocks waiting for the socket once an action has queued its message. -/
def blocksOffered (connection : Connection) : OutputAction → List Text
  | .queue message | .broadcast message =>
      if connection.drops message then [] else connection.out.first ++ [message]
  | .attend => connection.out.first
  | .close => []

/-- No send fails while the front message is partly consumed. -/
def FailsCleanly (life : OutputLife) (action : OutputAction) : Prop :=
  FailsBetweenBlocks life.connection.out.consumed (blocksOffered life.connection action)
    life.connection.sends

instance : DecidableRel FailsCleanly := fun _ _ => decidableFailsBetweenBlocks _ _ _

/-- A connection in line mode before anything was queued. -/
structure FreshLine (connection : Connection) : Prop where
  line : connection.http = false
  out : connection.out = .empty
  journal : connection.journal = []

/-- The output of a connection is intact: the queue is well formed, what was sent before the first
error is a prefix of what was queued before it, and nothing but the pending bytes is missing while
there was no error. -/
structure OutputIntact (connection : Connection) : Prop where
  ends : connection.out.first = [] ↔ connection.out.last = none
  idle : connection.out.first = [] → connection.out.consumed = 0
  inside : ∀ front ∈ connection.out.first.head?, connection.out.consumed < front.length
  ordered : sentBytes (beforeFailure connection.journal) <+:
    queuedBytes (beforeFailure connection.journal)
  complete : .sendFailed ∉ connection.journal →
    sentBytes connection.journal ++ connection.out.pending = queuedBytes connection.journal

theorem InOrder.intact {connection : Connection}
    (order : InOrder connection.out connection.journal) : OutputIntact connection where
  ends := by
    rw [order.well.ends, List.getLast?_eq_none_iff]
  idle := order.well.idle
  inside := order.well.inside
  ordered := order.balanced.isPrefix
  complete := fun healthy => by
    have balanced := order.balanced
    rwa [Balanced, if_neg healthy] at balanced

/-- The invariant of a line-mode connection. -/
structure LineInOrder (life : OutputLife) : Prop where
  line : life.connection.http = false
  order : InOrder life.connection.out life.connection.journal

/-- Queueing keeps a line-mode connection in order. -/
theorem queueSingle_line {connection : Connection} (line : connection.http = false)
    (order : InOrder connection.out connection.journal) {message : Text}
    (clean : FailsBetweenBlocks connection.out.consumed
      (blocksOffered connection (.queue message)) connection.sends) :
    ∃ after, connection.queueSingle message = .ok after ∧ LineInOrder ⟨after, false⟩ := by
  by_cases dropped : connection.drops message = true
  · exact ⟨connection, by rw [queueSingle, if_pos dropped], line, order⟩
  · have nonempty : message ≠ [] := by
      rintro rfl
      exact dropped rfl
    obtain ⟨queued, added, later, blocks, consumed, sends, mode⟩ := queueOut_spec order nonempty
    rw [blocksOffered, if_neg dropped, ← blocks, ← consumed, ← sends] at clean
    obtain ⟨sent, report, attended, final, kept⟩ := sendOutput_spec later clean false
    refine ⟨sent, ?_, kept.trans (mode.trans line), final⟩
    rw [queueSingle, if_neg dropped, line, if_neg Bool.false_ne_true, added]
    simp only [trySend, attended]
    rfl

/-- Every action whose sends fail cleanly keeps a line-mode connection in order, without a fault. -/
theorem lineInOrder_step (life : OutputLife) (action : OutputAction) (invariant : LineInOrder life)
    (clean : FailsCleanly life action) :
    FallibleRun.Outcome LineInOrder (fun _ => False) (outputStep life action) := by
  obtain ⟨connection, destroyed⟩ := life
  obtain ⟨line, order⟩ := invariant
  cases destroyed with
  | true => exact ⟨line, order⟩
  | false =>
      cases action with
      | queue message =>
          obtain ⟨after, queued, later⟩ := queueSingle_line line order clean
          simp only [outputStep, queued]
          exact later
      | broadcast message =>
          rw [outputStep, if_neg Bool.false_ne_true]
          simp only [queueBroadcastTo]
          split
          · exact ⟨line, order⟩
          · obtain ⟨after, queued, later⟩ := queueSingle_line line order clean
            simp only [queued]
            exact later
      | attend =>
          obtain ⟨sent, report, attended, later, kept⟩ := sendOutput_spec order clean true
          simp only [outputStep, attended]
          exact ⟨kept.trans line, later⟩
      | close => exact ⟨line, order⟩

/-- Whatever is queued, sent, refused, lost or closed, in any order: as long as no send fails inside
a message, nothing is sent from outside the front message and the output stays intact. -/
theorem outputIntact_of_run {connection : Connection} (fresh : FreshLine connection)
    {actions : List OutputAction}
    (clean : FallibleRun.Guarded outputStep FailsCleanly ⟨connection, false⟩ actions) :
    ∃ life, FallibleRun.run outputStep ⟨connection, false⟩ actions = .ok life ∧
      OutputIntact life.connection := by
  have initially : LineInOrder ⟨connection, false⟩ := by
    refine ⟨fresh.line, ?_⟩
    rw [fresh.out, fresh.journal]
    exact ⟨IOQueue.wellFormed_empty, balanced_nil⟩
  have outcome := clean.outcome LineInOrder (fun _ => False) lineInOrder_step initially
  cases arrives : FallibleRun.run outputStep ⟨connection, false⟩ actions with
  | error fault =>
      rw [arrives] at outcome
      exact outcome.elim
  | ok life =>
      rw [arrives] at outcome
      exact ⟨life, rfl, outcome.order.intact⟩

/-- An open line-mode connection with the given future of its socket. -/
def sampleLine (sends : List SendResult) : Connection where
  socket := 5
  state := .opened
  greeted := true
  http := false
  encrypted := false
  isFile := false
  request := .none
  assembly := .empty
  out := .empty
  input := ⟨[], 0⟩
  readable := true
  writable := false
  buffering := true
  arrivals := []
  sends := sends
  journal := []
  wasClosing := false

/-- Queue two messages. -/
def sampleOutput : List OutputAction := [.queue (ascii "hello\n"), .queue (ascii "x\n")]

/-- A failure between the two messages does no harm. -/
theorem sampleOutput_intact : ∃ life,
    FallibleRun.run outputStep ⟨sampleLine [.sent 6, .failed], false⟩ sampleOutput = .ok life ∧
      OutputIntact life.connection :=
  outputIntact_of_run ⟨rfl, rfl, rfl⟩
    (.cons (by decide) rfl (.cons (by decide) rfl trivial))

/-- A failure inside the first message leaves its offset with the empty queue, and the next message
is sent from outside its block. -/
theorem sampleOutput_strays :
    (∃ life, FallibleRun.run outputStep ⟨sampleLine [.sent 3, .failed], false⟩
        [.queue (ascii "hello\n")] = .ok life ∧ ¬OutputIntact life.connection) ∧
      FallibleRun.run outputStep ⟨sampleLine [.sent 3, .failed], false⟩ sampleOutput =
        .error .outOfBounds := by
  refine ⟨⟨_, rfl, fun intact => ?_⟩, rfl⟩
  have zero := intact.idle rfl
  cases zero

end Connection

end Football
