import Pianod.Football.EventLoop

/-!
# Closing is final

A connection that starts to close is no longer selected for reading, and its state only moves on.
Everything that sends or receives respects this; so does the event loop, provided no connection
starts to close while an event for it is still expected, and no send fails while a WebSocket client
is greeted.
-/

namespace Football

open Foundation

namespace Connection

/-- The connection is flushing its output or about to be destroyed. -/
def Closing (connection : Connection) : Prop :=
  SocketState.opened.rank < connection.state.rank

/-- Nothing that bears on closing has changed. -/
structure Same (before after : Connection) : Prop where
  socket : after.socket = before.socket
  state : after.state = before.state
  readable : after.readable = before.readable
  buffering : after.buffering = before.buffering
  wasClosing : after.wasClosing = before.wasClosing

/-- Closure was initiated. -/
structure Closed (before after : Connection) : Prop where
  socket : after.socket = before.socket
  state : after.state = before.closeConnection.state
  readable : after.readable = false
  buffering : after.buffering = false
  wasClosing : after.wasClosing = true

/-- A connection either stays as it is or starts to close. -/
def Onward (before after : Connection) : Prop := Same before after ∨ Closed before after

/-- A closing connection is not read from, and none that was closing has come back. -/
structure Calm (connection : Connection) : Prop where
  quiet : connection.Closing → connection.readable = false ∧ connection.buffering = false
  final : connection.wasClosing = true → connection.Closing

theorem Same.refl (connection : Connection) : Same connection connection :=
  ⟨rfl, rfl, rfl, rfl, rfl⟩

theorem Same.trans {before middle after : Connection} (first : Same before middle)
    (second : Same middle after) : Same before after where
  socket := second.socket.trans first.socket
  state := second.state.trans first.state
  readable := second.readable.trans first.readable
  buffering := second.buffering.trans first.buffering
  wasClosing := second.wasClosing.trans first.wasClosing

theorem closed_closeConnection (connection : Connection) :
    Closed connection connection.closeConnection :=
  ⟨rfl, rfl, rfl, rfl, rfl⟩

theorem closing_closeConnection (connection : Connection) : connection.closeConnection.Closing := by
  rw [Closing, closeConnection]
  split
  · exact (by decide : SocketState.opened.rank < SocketState.flushing.rank)
  · rename_i later
    exact Nat.lt_of_not_le later

private theorem closeConnection_state {before after : Connection}
    (closed : after.state = before.closeConnection.state) :
    after.closeConnection.state = before.closeConnection.state := by
  have past : ¬after.state.rank ≤ SocketState.opened.rank := by
    rw [closed]
    exact Nat.not_le.mpr (closing_closeConnection before)
  rw [← closed, closeConnection]
  exact if_neg past

theorem Onward.refl (connection : Connection) : Onward connection connection := .inl (.refl _)

theorem Onward.trans {before middle after : Connection} (first : Onward before middle)
    (second : Onward middle after) : Onward before after := by
  rcases first with same | closed
  · rcases second with later | closing
    · exact .inl (same.trans later)
    · refine .inr ⟨closing.socket.trans same.socket, ?_, closing.readable, closing.buffering,
        closing.wasClosing⟩
      rw [closing.state, closeConnection, closeConnection, same.state]
  · rcases second with later | closing
    · exact .inr ⟨later.socket.trans closed.socket, later.state.trans closed.state,
        later.readable.trans closed.readable, later.buffering.trans closed.buffering,
        later.wasClosing.trans closed.wasClosing⟩
    · exact .inr ⟨closing.socket.trans closed.socket,
        closing.state.trans (closeConnection_state closed.state), closing.readable,
        closing.buffering, closing.wasClosing⟩

theorem Onward.socket {before after : Connection} (onward : Onward before after) :
    after.socket = before.socket :=
  onward.elim Same.socket Closed.socket

theorem Closed.closing {before after : Connection} (closed : Closed before after) :
    after.Closing := by
  rw [Closing, closed.state]
  exact closing_closeConnection before

theorem Onward.calm {before after : Connection} (onward : Onward before after)
    (calm : Calm before) : Calm after := by
  rcases onward with same | closed
  · constructor
    · rw [Closing, same.state, same.readable, same.buffering]
      exact calm.quiet
    · rw [Closing, same.state, same.wasClosing]
      exact calm.final
  · exact ⟨fun _ => ⟨closed.readable, closed.buffering⟩, fun _ => closed.closing⟩

/-- States only move on once a connection is closing. -/
theorem Onward.rank {before after : Connection} (onward : Onward before after)
    (closing : before.Closing) : before.state.rank ≤ after.state.rank := by
  rcases onward with same | closed
  · rw [same.state]
  · rw [closed.state, closeConnection, if_neg (Nat.not_le.mpr closing)]

/-! ## Sending -/

/-- What sending does: the connection starts to close only when a send fails. -/
structure Sent (before after : Connection) : Prop where
  onward : Onward before after
  used : ∃ used, before.sends = used ++ after.sends ∧ (.failed ∉ used → Same before after)

theorem Sent.refl (connection : Connection) : Sent connection connection :=
  ⟨.refl _, [], rfl, fun _ => .refl _⟩

theorem Sent.trans {before middle after : Connection} (first : Sent before middle)
    (second : Sent middle after) : Sent before after := by
  obtain ⟨onward, used, used_eq, healthy⟩ := first
  obtain ⟨later, more, more_eq, still⟩ := second
  refine ⟨onward.trans later, used ++ more, ?_, fun none_failed => ?_⟩
  · rw [used_eq, more_eq, List.append_assoc]
  · exact (healthy fun member => none_failed (List.mem_append_left _ member)).trans
      (still fun member => none_failed (List.mem_append_right _ member))

/-- No result met in an operation was a failure. -/
theorem Sent.same {before after : Connection} (sent : Sent before after)
    (healthy : ∀ used, before.sends = used ++ after.sends → .failed ∉ used) :
    Same before after := by
  obtain ⟨used, used_eq, same⟩ := sent.used
  exact same (healthy used used_eq)

private theorem sendLoop_used {out : IOQueue} {journal : List WireEvent} {sends : List SendResult}
    {sending : Sending} (sent : sendLoop out journal sends = .ok sending) :
    ∃ used, sends = used ++ sending.sends ∧ (.failed ∉ used → sending.failed = false) := by
  induction sends generalizing out journal with
  | nil =>
      rw [sendLoop] at sent
      split at sent
      · cases sent
      · obtain ⟨after, consumed, rfl⟩ := FallibleRun.map_ok_iff.mp sent
        exact ⟨[], rfl, fun _ => rfl⟩
  | cons result sends ih =>
      cases result with
      | wouldBlock =>
          rw [sendLoop] at sent
          split at sent
          · cases sent
          · obtain ⟨after, consumed, rfl⟩ := FallibleRun.map_ok_iff.mp sent
            exact ⟨[.wouldBlock], rfl, fun _ => rfl⟩
      | failed =>
          rw [sendLoop] at sent
          obtain ⟨available, asked, rfl⟩ := FallibleRun.map_ok_iff.mp sent
          exact ⟨[.failed], rfl, fun healthy => absurd List.mem_cons_self healthy⟩
      | sent count =>
          rw [sendLoop] at sent
          split at sent
          · cases sent
          · simp only at sent
            split at sent
            · cases sent
            · split at sent
              · obtain ⟨used, used_eq, healthy⟩ := ih sent
                refine ⟨.sent count :: used, by rw [used_eq, List.cons_append], fun clean => ?_⟩
                exact healthy fun member => clean (List.mem_cons_of_mem _ member)
              · cases sent
                exact ⟨[.sent count], rfl, fun _ => rfl⟩

/-- Asking for write readiness makes no difference. -/
theorem Sent.marked {before after : Connection} (sent : Sent before after) (vacant : Bool) :
    Sent before (if vacant then after else { after with writable := true }) := by
  obtain ⟨onward, used, used_eq, healthy⟩ := sent
  cases vacant with
  | true => exact ⟨onward, used, used_eq, healthy⟩
  | false =>
      have marked : Same after { after with writable := true } := ⟨rfl, rfl, rfl, rfl, rfl⟩
      exact ⟨onward.trans (.inl marked), used, used_eq, fun clean => (healthy clean).trans marked⟩

theorem flushOutput_sent {before after : Connection} (flushed : before.flushOutput = .ok after) :
    Sent before after := by
  rw [flushOutput] at flushed
  split at flushed
  · cases flushed
  · rename_i sending loop
    obtain ⟨used, used_eq, healthy⟩ := sendLoop_used loop
    obtain rfl := Except.ok.inj flushed
    apply Sent.marked
    split
    · rename_i failed
      refine ⟨.inr ⟨rfl, rfl, rfl, rfl, rfl⟩, used, used_eq, fun clean => ?_⟩
      rw [healthy clean] at failed
      cases failed
    · exact ⟨.inl ⟨rfl, rfl, rfl, rfl, rfl⟩, used, used_eq, fun _ => ⟨rfl, rfl, rfl, rfl, rfl⟩⟩

theorem trySend_sent {before after : Connection} (tried : before.trySend = .ok after) :
    Sent before after := by
  rw [trySend, sendOutput] at tried
  split at tried
  · obtain rfl := Except.ok.inj tried
    exact .refl _
  · cases flushed : before.flushOutput with
    | error fault =>
        rw [flushed] at tried
        cases tried
    | ok sent =>
        rw [flushed] at tried
        obtain rfl := Except.ok.inj tried
        exact flushOutput_sent flushed

theorem queueOut_sent {before after : Connection} {message : Text}
    (queued : before.queueOut message = .ok after) : Sent before after := by
  rw [queueOut] at queued
  obtain ⟨out, added, rfl⟩ := FallibleRun.map_ok_iff.mp queued
  exact ⟨.inl ⟨rfl, rfl, rfl, rfl, rfl⟩, [], rfl, fun _ => ⟨rfl, rfl, rfl, rfl, rfl⟩⟩

theorem queueHttp_sent {before after : Connection} {message : Text}
    (sent : before.queueHttp message = .ok after) : Sent before after := by
  rw [queueHttp] at sent
  obtain ⟨middle, queued, sent⟩ := FallibleRun.bind_ok_iff.mp sent
  exact (queueOut_sent queued).trans (trySend_sent sent)

theorem writeMessages_sent {before after : Connection} {messages : List Text}
    (written : before.writeMessages messages = .ok after) : Sent before after := by
  induction messages generalizing before with
  | nil =>
      obtain rfl := Except.ok.inj written
      exact .refl _
  | cons message messages ih =>
      rw [writeMessages] at written
      split at written
      · cases written
      · rename_i middle queued
        exact (queueHttp_sent queued).trans (ih written)

private theorem encodeLines_sent {fuel : Nat} {before after : Connection}
    (encoded : encodeLines fuel before = .ok after) : Sent before after := by
  induction fuel generalizing before with
  | zero =>
      obtain rfl := Except.ok.inj encoded
      exact .refl _
  | succ fuel ih =>
      rw [encodeLines] at encoded
      split at encoded
      · cases encoded
      · cases encoded
      · simp only at encoded
        split at encoded
        · obtain rfl := Except.ok.inj encoded
          exact .refl _
        · split at encoded
          · cases encoded
          · rename_i message assembly taken
            have framed : Sent before { before with assembly := assembly } :=
              ⟨.inl ⟨rfl, rfl, rfl, rfl, rfl⟩, [], rfl, fun _ => ⟨rfl, rfl, rfl, rfl, rfl⟩⟩
            split at encoded
            · cases encoded
            · rename_i sent queued
              have first := framed.trans (queueHttp_sent queued)
              split at encoded
              · obtain rfl := Except.ok.inj encoded
                exact first
              · exact first.trans (ih encoded)

/-- Queueing a message in whatever mode closes the connection only when a send fails. -/
theorem queueSingle_sent {before after : Connection} {message : Text}
    (queued : before.queueSingle message = .ok after) : Sent before after := by
  rw [queueSingle] at queued
  split at queued
  · obtain rfl := Except.ok.inj queued
    exact .refl _
  · split at queued
    · split at queued
      · cases queued
      · rename_i assembly added
        have assembled : Sent before { before with assembly := assembly } :=
          ⟨.inl ⟨rfl, rfl, rfl, rfl, rfl⟩, [], rfl, fun _ => ⟨rfl, rfl, rfl, rfl, rfl⟩⟩
        split at queued
        · cases queued
        · rename_i encoded encoding
          exact assembled.trans ((encodeLines_sent encoding).trans (trySend_sent queued))
    · split at queued
      · cases queued
      · rename_i middle added
        exact (queueOut_sent added).trans (trySend_sent queued)

theorem queueBroadcastTo_sent {before after : Connection} {message : Text}
    (queued : before.queueBroadcastTo message = .ok after) : Sent before after := by
  rw [queueBroadcastTo] at queued
  split at queued
  · obtain rfl := Except.ok.inj queued
    exact .refl _
  · exact queueSingle_sent queued

/-! ## Receiving -/

/-- What receiving does: a connection that delivers something is not closed in the same call. -/
structure Received (before after : Connection) (delivered : Bool) : Prop where
  onward : Onward before after
  same : delivered = true → Same before after

theorem Received.of_same {before after : Connection} {delivered : Bool}
    (same : Same before after) : Received before after delivered :=
  ⟨.inl same, fun _ => same⟩

theorem recvInput_received {before after : Connection} {byteCount : Nat} {complete : Bool}
    (received : before.recvInput byteCount = .ok (complete, after)) :
    Received before after complete := by
  rw [recvInput] at received
  split at received
  · cases received
  · split at received
    · cases received
    · split at received
      · cases received
        exact .of_same (.refl _)
      · cases received
        exact .of_same ⟨rfl, rfl, rfl, rfl, rfl⟩
      · cases received
        exact ⟨.inr (closed_closeConnection _), Bool.noConfusion⟩
      · cases received
        exact ⟨.inr (closed_closeConnection _), Bool.noConfusion⟩
      · cases received
        exact ⟨.inr ⟨rfl, rfl, rfl, rfl, rfl⟩, Bool.noConfusion⟩
      · split at received
        · cases received
          exact .of_same ⟨rfl, rfl, rfl, rfl, rfl⟩
        · cases received
          exact .of_same ⟨rfl, rfl, rfl, rfl, rfl⟩

theorem setInputBufferSize_same {before after : Connection} {size : Nat}
    (grown : before.setInputBufferSize size = .ok after) : Same before after := by
  rw [setInputBufferSize] at grown
  split at grown
  · cases grown
  · obtain rfl := Except.ok.inj grown
    exact ⟨rfl, rfl, rfl, rfl, rfl⟩

theorem Received.after_same {before middle after : Connection} {delivered : Bool}
    (same : Same before middle) (received : Received middle after delivered) :
    Received before after delivered :=
  ⟨Onward.trans (.inl same) received.onward, fun some => same.trans (received.same some)⟩

theorem getHttpBytes_received {before after : Connection} {size : Nat} {complete : Bool}
    (received : before.getHttpBytes size = .ok (complete, after)) :
    Received before after complete := by
  rw [getHttpBytes] at received
  split at received
  · cases received
  · split at received
    · cases received
      exact .of_same (.refl _)
    · split at received
      · split at received
        · cases received
        · rename_i grown larger
          exact (recvInput_received received).after_same (setInputBufferSize_same larger)
      · exact recvInput_received received

private theorem executeFrame_received {before after : Connection} {packet : Text} {size : Nat}
    {line : Option InputLine} (executed : before.executeFrame packet size = .ok (line, after)) :
    Received before after line.isSome := by
  rw [executeFrame] at executed
  split at executed
  · split at executed
    · cases executed
    · rename_i sent queued
      cases executed
      exact ⟨(queueHttp_sent queued).onward.trans (.inr (closed_closeConnection _)),
        Bool.noConfusion⟩
  · split at executed
    · cases executed
    · rename_i sent queued
      cases executed
      exact ⟨(queueHttp_sent queued).onward, Bool.noConfusion⟩
  · cases executed
  · obtain ⟨found, -, extracted⟩ := FallibleRun.map_ok_iff.mp executed
    cases extracted
    exact .of_same (.refl _)
  · obtain ⟨found, -, extracted⟩ := FallibleRun.map_ok_iff.mp executed
    cases extracted
    exact .of_same (.refl _)
  · cases executed
    exact ⟨.inr (closed_closeConnection _), Bool.noConfusion⟩

theorem readWebsocketInput_received {before after : Connection} {line : Option InputLine}
    (read : before.readWebsocketInput = .ok (line, after)) : Received before after line.isSome := by
  rw [readWebsocketInput] at read
  split at read
  · cases read
  · rename_i short asked
    cases read
    exact ⟨(getHttpBytes_received asked).onward, Bool.noConfusion⟩
  · rename_i started asked
    have started_same := (getHttpBytes_received asked).same rfl
    simp only at read
    split at read
    · cases read
      exact ⟨.trans (.inl started_same) (.inr (closed_closeConnection _)), Bool.noConfusion⟩
    · split at read
      · cases read
      · rename_i short header_asked
        cases read
        exact ⟨.trans (.inl started_same) (getHttpBytes_received header_asked).onward,
          Bool.noConfusion⟩
      · rename_i headed header_asked
        have headed_same := started_same.trans ((getHttpBytes_received header_asked).same rfl)
        split at read
        · cases read
          exact .of_same headed_same
        · split at read
          · cases read
          · rename_i short frame_asked
            cases read
            exact ⟨.trans (.inl headed_same) (getHttpBytes_received frame_asked).onward,
              Bool.noConfusion⟩
          · rename_i complete frame_asked
            have complete_same := headed_same.trans ((getHttpBytes_received frame_asked).same rfl)
            have emptied : Same before
                { complete with input := { complete.input with message := [] } } :=
              complete_same.trans ⟨rfl, rfl, rfl, rfl, rfl⟩
            exact (executeFrame_received read).after_same emptied

theorem getLineBytes_received {fuel : Nat} {before after : Connection} {line : Option Text}
    (read : getLineBytes fuel before = .ok (line, after)) : Received before after line.isSome := by
  induction fuel generalizing before with
  | zero =>
      cases read
      exact .of_same (.refl _)
  | succ fuel ih =>
      rw [getLineBytes] at read
      simp only at read
      split at read
      · cases read
      · rename_i roomy grown
        have same : Same before roomy := by
          split at grown
          · exact setInputBufferSize_same grown
          · obtain rfl := Except.ok.inj grown
            exact .refl _
        split at read
        · cases read
        · rename_i short asked
          cases read
          exact ⟨.trans (.inl same) (recvInput_received asked).onward, Bool.noConfusion⟩
        · rename_i longer asked
          have longer_same := same.trans ((recvInput_received asked).same rfl)
          split at read
          · cases read
            exact .of_same (longer_same.trans ⟨rfl, rfl, rfl, rfl, rfl⟩)
          · exact (ih read).after_same longer_same

/-- A connection that yields a line is not closed by reading it. -/
theorem readLineInput_received {before after : Connection} {line : Option InputLine}
    (read : before.readLineInput = .ok (line, after)) : Received before after line.isSome := by
  rw [readLineInput] at read
  split at read
  · cases read
  · rename_i short received
    cases read
    refine ⟨?_, Bool.noConfusion⟩
    split at received
    · rw [getFileLine] at received
      split at received
      · cases received
      · cases received
        exact .inr (closed_closeConnection _)
    · exact (getLineBytes_received received).onward
  · rename_i bytes complete received
    obtain ⟨found, -, created⟩ := FallibleRun.map_ok_iff.mp read
    cases created
    apply Received.of_same
    split at received
    · rw [getFileLine] at received
      split at received
      · cases received
        exact ⟨rfl, rfl, rfl, rfl, rfl⟩
      · cases received
    · exact (getLineBytes_received received).same rfl

end Connection

namespace System

open Connection

/-! ## Reading on a connection that is not closing -/

/-- What reading may lead to: the connection stays calm, and an event comes only from a connection
that is not closing. -/
def ReadOutcome.Orderly (connection : Connection) : ReadOutcome → Prop
  | .goesOn after event _ =>
      after.socket = connection.socket ∧ Calm after ∧ (event.isSome = true → ¬after.Closing)
  | .fallsBack after _ => after.socket = connection.socket ∧ Calm after ∧ ¬after.Closing
  | .destroyed => True

/-- A connection that is not closing may be put into any state before that. -/
theorem calm_of_not_wasClosing {connection : Connection} (never : connection.wasClosing = false)
    (early : connection.state.rank ≤ SocketState.opened.rank) : Calm connection := by
  constructor
  · intro closing
    exact absurd early (Nat.not_le.mpr closing)
  · intro was
    rw [never] at was
    cases was

private theorem readGreeting_orderly {services : List Service} {service : Nat}
    {options : ServiceOptions} {connection : Connection} {line : InputLine} {outcome : ReadOutcome}
    (calm : Calm connection) (open_yet : ¬connection.Closing)
    (read : readGreeting services service options connection line = .ok outcome) :
    outcome.Orderly connection := by
  have never : connection.wasClosing = false := by
    cases was : connection.wasClosing with
    | false => rfl
    | true => exact absurd (calm.final was) open_yet
  have opened : ∀ {after : Connection}, after.wasClosing = connection.wasClosing →
      after.state = .opened → Calm after := by
    intro after kept state
    exact calm_of_not_wasClosing (kept.trans never) (by rw [state])
  rw [readGreeting] at read
  split at read
  · cases read
    exact ⟨rfl, calm, Bool.noConfusion⟩
  · split at read
    · simp only at read
      split at read
      · cases read
        exact ⟨rfl, opened rfl rfl, fun _ => Nat.lt_irrefl _⟩
      · split at read
        · cases read
        · cases read
          trivial
        · cases read
          exact ⟨rfl, opened rfl rfl, fun _ => Nat.lt_irrefl _⟩
    · split at read
      · cases read
        exact ⟨rfl, calm_of_not_wasClosing never
          (by decide : SocketState.gatheringHeader.rank ≤ SocketState.opened.rank),
          Bool.noConfusion⟩
      · split at read
        · cases read
          exact ⟨rfl, opened rfl rfl, Nat.lt_irrefl _⟩
        · cases read
          trivial

/-- A response leaves the connection calm, whether or not it gets through. -/
theorem respond_calm {before after : Connection} {messages : List Text} {tryAgain : Bool}
    (calm : Calm before) (open_yet : ¬before.Closing)
    (responded : before.respond messages tryAgain = .ok after) :
    after.socket = before.socket ∧ Calm after := by
  rw [respond] at responded
  split at responded
  · cases responded
  · rename_i sent written
    have onward := (writeMessages_sent written).onward
    have reset : Onward before { sent with request := .none } :=
      onward.trans (.inl ⟨rfl, rfl, rfl, rfl, rfl⟩)
    simp only at responded
    split at responded
    · split at responded
      · rename_i early
        obtain rfl := Except.ok.inj responded
        refine ⟨onward.socket, calm_of_not_wasClosing ?_
          (by decide : SocketState.greeting.rank ≤ SocketState.opened.rank)⟩
        rcases onward with same | closed
        · cases was : before.wasClosing with
          | false => exact same.wasClosing.trans was
          | true => exact absurd (calm.final was) open_yet
        · exact absurd closed.closing (Nat.not_lt.mpr (Nat.le_of_lt early))
      · obtain rfl := Except.ok.inj responded
        exact ⟨onward.socket, reset.calm calm⟩
    · obtain rfl := Except.ok.inj responded
      have closed := reset.trans (.inr (closed_closeConnection _))
      exact ⟨closed.socket, closed.calm calm⟩

/-- No send result that an operation meets is a failure. -/
def SendsThrough (connection : Connection)
    (operation : Connection → Except Fault Connection) : Prop :=
  ∀ after, operation connection = .ok after →
    ∀ used, connection.sends = used ++ after.sends → .failed ∉ used

private theorem upgradeWebsocket_calm {before after : Connection} {greeting : List Text}
    (calm : Calm before) (open_yet : ¬before.Closing)
    (through : SendsThrough before fun connection => connection.writeMessages greeting)
    (upgraded : before.upgradeWebsocket greeting = .ok after) :
    after.socket = before.socket ∧ Calm after ∧ ¬after.Closing := by
  rw [upgradeWebsocket] at upgraded
  split at upgraded
  · cases upgraded
  · rename_i sent written
    obtain rfl := Except.ok.inj upgraded
    have same := (writeMessages_sent written).same (through sent written)
    refine ⟨same.socket, calm_of_not_wasClosing ?_ (Nat.le_refl _), Nat.lt_irrefl _⟩
    cases was : before.wasClosing with
    | false => exact same.wasClosing.trans was
    | true => exact absurd (calm.final was) open_yet

/-- When a blank line ends a request that is answered by an upgrade, no send fails while the client
is greeted. -/
def GreetsThrough (services : List Service) (site : Site) (service : Nat) (options : ServiceOptions)
    (connection : Connection) : Prop :=
  connection.state = .gatheringHeader →
    ∀ line after, connection.readLineInput = .ok (some line, after) → line.argv = [] →
      ∀ moved executing, executingService services site service options after =
          .ok (moved, executing) →
        ∀ key, httpAnswer site executing after.encrypted after.request = .upgrade key →
          SendsThrough after fun connection =>
            connection.writeMessages (websocketGreeting site key)

private theorem executeAnswer_orderly {site : Site} {connection : Connection} {moved : Option Nat}
    {answer : HttpAnswer} {outcome : ReadOutcome} (calm : Calm connection)
    (open_yet : ¬connection.Closing)
    (through : ∀ key, answer = .upgrade key → SendsThrough connection fun connection =>
      connection.writeMessages (websocketGreeting site key))
    (executed : executeAnswer site connection moved answer = .ok outcome) :
    outcome.Orderly connection := by
  cases answer with
  | respond messages tryAgain =>
      rw [executeAnswer] at executed
      obtain ⟨after, responded, rfl⟩ := FallibleRun.map_ok_iff.mp executed
      obtain ⟨socket, calm_after⟩ := respond_calm calm open_yet responded
      exact ⟨socket, calm_after, Bool.noConfusion⟩
  | elsewhere name =>
      rw [executeAnswer] at executed
      obtain ⟨after, responded, rfl⟩ := FallibleRun.map_ok_iff.mp executed
      obtain ⟨socket, calm_after⟩ := respond_calm calm open_yet responded
      exact ⟨socket, calm_after, Bool.noConfusion⟩
  | upgrade key =>
      rw [executeAnswer] at executed
      obtain ⟨after, upgraded, rfl⟩ := FallibleRun.map_ok_iff.mp executed
      obtain ⟨socket, calm_after, still⟩ :=
        upgradeWebsocket_calm calm open_yet (through key rfl) upgraded
      exact ⟨socket, calm_after, fun _ => still⟩

/-- Receiving leaves an open connection calm, and open if it delivers a line. -/
theorem received_calm {before after : Connection} {delivered : Bool} (calm : Calm before)
    (open_yet : ¬before.Closing) (received : Received before after delivered) :
    after.socket = before.socket ∧ Calm after ∧ (delivered = true → ¬after.Closing) := by
  refine ⟨received.onward.socket, received.onward.calm calm, fun some => ?_⟩
  rw [Closing, (received.same some).state]
  exact open_yet

theorem readSession_orderly {services : List Service} {site : Site} {service : Nat}
    {options : ServiceOptions} {connection : Connection} {outcome : ReadOutcome}
    (calm : Calm connection) (open_yet : ¬connection.Closing)
    (through : GreetsThrough services site service options connection)
    (read : readSession services site service options connection = .ok outcome) :
    outcome.Orderly connection := by
  rw [readSession] at read
  split at read
  · cases read
  · split at read
    · cases read
    · rename_i after line_read
      cases read
      obtain ⟨socket, calm_after, -⟩ :=
        received_calm calm open_yet (readLineInput_received line_read)
      exact ⟨socket, calm_after, Bool.noConfusion⟩
    · rename_i line after line_read
      obtain ⟨socket, calm_after, still⟩ :=
        received_calm calm open_yet (readLineInput_received line_read)
      have orderly := readGreeting_orderly calm_after (still rfl) read
      cases outcome with
      | goesOn final event moved => exact ⟨orderly.1.trans socket, orderly.2⟩
      | fallsBack final line => exact ⟨orderly.1.trans socket, orderly.2⟩
      | destroyed => trivial
  · rename_i gathering
    split at read
    · cases read
    · rename_i after line_read
      cases read
      obtain ⟨socket, calm_after, -⟩ :=
        received_calm calm open_yet (readLineInput_received line_read)
      exact ⟨socket, calm_after, Bool.noConfusion⟩
    · rename_i line after line_read
      obtain ⟨socket, calm_after, still⟩ :=
        received_calm calm open_yet (readLineInput_received line_read)
      split at read
      · rename_i blank
        rw [executeHttpRequest] at read
        split at read
        · cases read
        · rename_i moved executing found
          have orderly := executeAnswer_orderly calm_after (still rfl)
            (fun key upgrade => through gathering line after line_read
              (List.isEmpty_iff.mp blank) moved executing found key upgrade) read
          cases outcome with
          | goesOn final event moved => exact ⟨orderly.1.trans socket, orderly.2⟩
          | fallsBack final line => exact ⟨orderly.1.trans socket, orderly.2⟩
          | destroyed => trivial
      · cases read
        exact ⟨socket, ⟨calm_after.quiet, calm_after.final⟩, Bool.noConfusion⟩
  · simp only at read
    split at read
    · cases read
    · rename_i line after received
      have kept : Received connection after line.isSome := by
        split at received
        · exact readWebsocketInput_received received
        · exact readLineInput_received received
      obtain ⟨socket, calm_after, still⟩ := received_calm calm open_yet kept
      have heard : (line.map fun line => (EventType.input, some line)).isSome = true →
          ¬after.Closing := by
        rw [Option.isSome_map]
        exact still
      split at read
      · cases read
        refine ⟨socket, ⟨calm_after.quiet, calm_after.final⟩, fun some => ?_⟩
        split at some
        · cases some
        · exact heard some
      · cases read
        exact ⟨socket, calm_after, heard⟩
  · cases read
  · cases read

end System

end Football
