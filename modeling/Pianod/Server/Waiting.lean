import Pianod.Server.CommandEffects

/-!
# Waiting for events

An event answers the connections that wait for it.  A command makes no connection wait but its own,
and none when it is executed on behalf of a user, since its connection is closing already.
-/

namespace Pianod

open Foundation

/-! ## Events -/

/-- How often an event answers a connection, always with its own response. -/
def Occurrence.Answers (occurrence : Occurrence) (session times : Nat) : Prop :=
  ∀ code, occurrence.replies.count ⟨.connection session, code⟩ =
    if code = occurrence.response then times else 0

namespace UserContext

/-- Whether an event concerns a connection. -/
def awaits (context : UserContext) (event : WaitEvent) : Bool :=
  context.isOpen && context.waitingFor == some event

end UserContext

namespace Application

variable (app : Application)

theorem context_modifyContext (session other : Nat) (change : UserContext → UserContext) :
    (app.modifyContext session change).context other =
      if other = session ∧ other < app.contexts.length then change (app.context other)
      else app.context other := by
  unfold context modifyContext
  rw [List.getElem?_modify]
  cases known : app.contexts[other]? with
  | none =>
      have missing := List.getElem?_eq_none_iff.mp known
      rw [if_neg (by omega)]
      split <;> rfl
  | some context =>
      have there := (List.getElem?_eq_some_iff.mp known).1
      by_cases same : session = other
      · simp [same, there]
      · simp [same, Ne.symm same]

theorem reception_of_receptions {before after : Application}
    (same : after.receptions = before.receptions) (session : Nat) :
    (after.context session).reception = (before.context session).reception := by
  have there := congrArg (fun receptions => receptions[session]?) same
  unfold receptions at there
  simp only [List.getElem?_map] at there
  unfold context
  cases one : after.contexts[session]? with
  | none =>
      cases other : before.contexts[session]? with
      | none => rfl
      | some context => simp [one, other] at there
  | some context =>
      cases other : before.contexts[session]? with
      | none => simp [one, other] at there
      | some previous => simpa [one, other] using there

end Application

namespace Server

variable (server : Server) (event : WaitEvent) (response : ResponseCode)

private theorem context_eventOccurred (session : Nat) :
    ((server.eventOccurred event response).app.context session) =
      if (server.app.context session).awaits event then
        { server.app.context session with waitingFor := none }.acceptInput true
      else server.app.context session := by
  unfold eventOccurred Application.context
  dsimp only
  rw [withApp_app, List.getElem?_map]
  cases known : server.app.contexts[session]? with
  | none => simp [UserContext.awaits, notify, known]
  | some context => simp [UserContext.awaits, notify, known]

/-- Every connection that waits for an event is answered, once. -/
theorem count_eventOccurred (session : Nat) (code : ResponseCode) :
    (server.eventOccurred event response).sent.count ⟨.connection session, code⟩ =
      server.sent.count ⟨.connection session, code⟩ +
        if code = response ∧ (server.app.context session).awaits event = true then 1 else 0 := by
  have told := countP_zipIdx session server.app.contexts 0 (·.awaits event)
  have answered : (server.app.contexts[session]?.any (·.awaits event)) =
      (server.app.context session).awaits event := by
    unfold Application.context
    cases server.app.contexts[session]? <;> rfl
  unfold eventOccurred
  dsimp only [notify, withApp]
  rw [List.count_append, Nat.add_left_cancel_iff, List.count, List.countP_map, List.countP_filter]
  by_cases same : code = response
  · subst same
    rw [Nat.sub_zero, answered] at told
    simp only [true_and, Nat.zero_le] at told ⊢
    rw [← told]
    congr 1
    funext entry
    rw [Bool.eq_iff_iff]
    simp only [UserContext.awaits, Function.comp_apply, Bool.and_eq_true, beq_iff_eq,
      decide_eq_true_eq, Message.mk.injEq, Recipient.connection.injEq, and_true]
    exact and_comm
  · rw [if_neg (by tauto), List.countP_eq_zero]
    intro entry _
    simp [Ne.symm same]

/-- The record of an event that occurs. -/
def occurrence : Occurrence :=
  ⟨event, response, (server.notify (·.awaits event) response).sent.drop server.sent.length⟩

private theorem occurrences_eventOccurred :
    (server.eventOccurred event response).app.occurrences =
      server.app.occurrences ++ [server.occurrence event response] := rfl

private theorem occurrence_answers (session : Nat) :
    (server.occurrence event response).Answers session
      (if (server.app.context session).awaits event then 1 else 0) := by
  intro code
  have counted := server.count_eventOccurred event response session code
  obtain ⟨replies, sent⟩ : ∃ replies,
      (server.notify (·.awaits event) response).sent = server.sent ++ replies := ⟨_, rfl⟩
  have told : (server.eventOccurred event response).sent = server.sent ++ replies := sent
  rw [told, List.count_append, Nat.add_left_cancel_iff] at counted
  rw [occurrence, sent, List.drop_left, counted, ← ite_and]

end Server

/-! ## How connections are switched -/

namespace UserContext.Reception

def close (reception : Reception) : Reception :=
  { reception with
    isOpen := false
    readable := false
    buffering := false }

def wait (reception : Reception) (event : WaitEvent) : Reception :=
  { reception with
    waitingFor := some event
    readable := false
    buffering := false }

/-- The end of waiting; what TLS has decrypted meanwhile is read without waiting for more. -/
def resume (reception : Reception) : Reception :=
  { reception with
    waitingFor := none
    readable := true
    buffering := reception.recordPending }

/-- Whether an event concerns a connection. -/
def awaits (reception : Reception) (event : WaitEvent) : Bool :=
  reception.isOpen && reception.waitingFor == some event

/-- A waiting connection is not read from. -/
def Disabled (reception : Reception) : Prop :=
  reception.waitingFor ≠ none → reception.readable = false ∧ reception.buffering = false

end UserContext.Reception

open UserContext (Reception)

/-- How a connection is switched while certain events occur, and while a command from the connection
of a given number is executed, or without a command. -/
inductive Switched (giver : Option Nat) (session : Nat) (before : Reception) :
    List Occurrence → Reception → Prop where
  | same : Switched giver session before [] before
  | waits (event : WaitEvent) (own : giver = some session) (idle : before.waitingFor = none)
      (isOpen : before.isOpen = true) : Switched giver session before [] (before.wait event)
  /-- Only a connection that gives a command, and so does not wait, closes while an event occurs. -/
  | closes (occurrences : List Occurrence) (idle : occurrences = [] ∨ before.waitingFor = none)
      (unanswered : ∀ occurrence ∈ occurrences, occurrence.Answers session 0) :
      Switched giver session before occurrences before.close
  /-- An event occurs that the connection waits for. -/
  | told (occurrence : Occurrence) (waiting : before.waitingFor = some occurrence.event)
      (isOpen : before.isOpen = true) (answered : occurrence.Answers session 1) :
      Switched giver session before [occurrence] before.resume
  /-- An event occurs that the connection does not wait for. -/
  | passes (occurrence : Occurrence)
      (other : before.isOpen = true → before.waitingFor ≠ some occurrence.event)
      (unanswered : occurrence.Answers session 0) :
      Switched giver session before [occurrence] before

namespace Switched

variable {giver : Option Nat} {session : Nat} {before after : Reception}
  {occurrences : List Occurrence}

theorem disabled (switched : Switched giver session before occurrences after)
    (disabled : before.Disabled) : after.Disabled := by
  cases switched with
  | same => exact disabled
  | waits event own idle isOpen => exact fun _ => ⟨rfl, rfl⟩
  | closes => exact fun _ => ⟨rfl, rfl⟩
  | told occurrence waiting isOpen answered => exact fun waits => absurd rfl waits
  | passes occurrence other unanswered => exact disabled

theorem idle (switched : Switched giver session before occurrences after)
    (other : giver ≠ some session) (idle : before.waitingFor = none) : after.waitingFor = none := by
  cases switched with
  | same => exact idle
  | waits event own idle isOpen => exact absurd own other
  | closes => exact idle
  | told occurrence waiting isOpen answered => rfl
  | passes occurrence other unanswered => exact idle

private theorem of_close (switched : Switched giver session before.close occurrences after) :
    after = before.close ∧ ∀ occurrence ∈ occurrences, occurrence.Answers session 0 := by
  cases switched with
  | same => exact ⟨rfl, fun _ none => (nomatch none)⟩
  | waits event own idle isOpen => cases isOpen
  | closes _ idle unanswered => exact ⟨rfl, unanswered⟩
  | told occurrence waiting isOpen answered => cases isOpen
  | passes occurrence other unanswered =>
      refine ⟨rfl, fun same member => ?_⟩
      rw [List.mem_singleton.mp member]
      exact unanswered

end Switched

/-- The events that occur between two states switch the connections. -/
def Switches (giver : Option Nat) (before after : Application) : Prop :=
  ∃ occurrences, after.occurrences = before.occurrences ++ occurrences ∧
    ∀ session, Switched giver session (before.context session).reception occurrences
      (after.context session).reception

namespace Application

theorem reception_modifyContext {app : Application} {session other : Nat}
    {change : UserContext → UserContext} :
    ((app.modifyContext session change).context other).reception =
      if other = session ∧ other < app.contexts.length then (change (app.context other)).reception
      else (app.context other).reception := by
  rw [context_modifyContext]
  split <;> rfl

private theorem context_of_length_le {app : Application} {session : Nat}
    (missing : app.contexts.length ≤ session) : app.context session = .gone := by
  unfold context
  rw [List.getElem?_eq_none missing]
  rfl

end Application

section Commands

variable {world : World} {crypt : Text → Text → Text} {giver session : Nat} {own : Option Nat}
  {server after : Server}

/-- Nothing occurs, and no connection is switched. -/
theorem Switches.of_same {before after : Application}
    (receptions : after.receptions = before.receptions)
    (occurrences : after.occurrences = before.occurrences) : Switches own before after := by
  refine ⟨[], occurrences.trans (List.append_nil _).symm, fun session => ?_⟩
  rw [Application.reception_of_receptions receptions session]
  exact .same

theorem Switches.of_undisturbed {before after : Application} (kept : Undisturbed before after) :
    Switches own before after :=
  .of_same kept.receptions kept.occurrences

/-- An event occurs when nothing else has been switched. -/
theorem Switches.of_event {before : Application} {middle : Server}
    (receptions : middle.app.receptions = before.receptions)
    (occurrences : middle.app.occurrences = before.occurrences) (event : WaitEvent)
    (response : ResponseCode) : Switches own before (middle.eventOccurred event response).app := by
  refine ⟨[middle.occurrence event response], ?_, fun session => ?_⟩
  · rw [Server.occurrences_eventOccurred, occurrences]
  rw [← Application.reception_of_receptions receptions session, Server.context_eventOccurred]
  have answers := middle.occurrence_answers event response session
  by_cases awaits : (middle.app.context session).awaits event = true
  · rw [if_pos awaits] at answers ⊢
    obtain ⟨isOpen, waiting⟩ := Bool.and_eq_true_iff.mp awaits
    exact .told _ (beq_iff_eq.mp waiting) isOpen answers
  · rw [if_neg awaits] at answers ⊢
    refine .passes _ (fun isOpen waiting => awaits ?_) answers
    exact Bool.and_eq_true_iff.mpr ⟨isOpen, beq_iff_eq.mpr waiting⟩

/-- Each connection may be closed, and nothing occurs. -/
theorem Switches.of_closing {before after : Application}
    (occurrences : after.occurrences = before.occurrences)
    (closed : ∀ session, (after.context session).reception = (before.context session).reception ∨
      (after.context session).reception = (before.context session).reception.close) :
    Switches own before after := by
  refine ⟨[], occurrences.trans (List.append_nil _).symm, fun session => ?_⟩
  rcases closed session with same | closes
  · rw [same]
    exact .same
  · rw [closes]
    exact .closes [] (.inl rfl) nofun

theorem Server.switches_controlPlayback (command : PlaybackCommand) :
    Switches own server.app (server.controlPlayback world session command).app := by
  have settle (told : Server) (receptions : told.app.receptions = server.app.receptions)
      (occurrences : told.app.occurrences = server.app.occurrences) :
      Switches own server.app (if told.app.playbackState = .paused then
        told.withApp { told.app with
          stalled := false
          stallSample := 0
          stallSampleTime := 0 } else told).app := by
    split <;> exact .of_same receptions occurrences
  unfold Server.controlPlayback
  dsimp only
  split
  · split
    · refine settle _ ?_ ?_ <;> rw [Server.reply_app, Server.sendPlaybackStatus_app] <;> rfl
    · exact settle _ rfl rfl
  · split
    · exact settle _ rfl rfl
    · exact settle _ rfl rfl

theorem Server.reception_closing (server : Server) (giver session : Nat) :
    ((server.closing giver).app.context session).reception =
      if session = giver then (server.app.context session).reception.close
      else (server.app.context session).reception := by
  unfold Server.closing
  rw [Server.withApp_app, Application.reception_modifyContext]
  by_cases own : session = giver
  · rw [if_pos own]
    split
    · rfl
    · rename_i missing
      rw [Application.context_of_length_le (by omega)]
      rfl
  · rw [if_neg own, if_neg (by tauto)]

private theorem Server.switches_userLogoff (user : Option UserRef) :
    Switches own server.app (server.userLogoff user).app := by
  refine .of_closing rfl fun session => ?_
  unfold Server.userLogoff Application.context
  dsimp only
  rw [Server.withApp_app, List.getElem?_map]
  cases known : server.app.contexts[session]? with
  | none =>
      simp only [Server.notify_app, known]
      exact .inl rfl
  | some context =>
      simp only [Server.notify_app, known, Option.map_some, Option.getD_some]
      split
      · exact .inr rfl
      · exact .inl rfl

private theorem Switches.after_undisturbed {first second third : Application}
    (kept : Undisturbed first second) (switches : Switches own second third) :
    Switches own first third := by
  obtain ⟨occurrences, grown, switched⟩ := switches
  refine ⟨occurrences, grown.trans (by rw [kept.occurrences]), fun session => ?_⟩
  rw [← Application.reception_of_receptions kept.receptions session]
  exact switched session

/-- What a command does to the connections: one case for each of its effects. -/
theorem CommandEffect.switches {command : Command}
    (asks : (server.waitCommand giver command).isSome = true → own = some giver)
    (effect : CommandEffect world giver command server after) :
    Switches own server.app after.app := by
  cases effect with
  | undisturbed kept => exact .of_undisturbed kept
  | waits event called waited =>
      obtain ⟨idle, isOpen, rfl⟩ := Server.waitForEvent_eq_ok waited
      refine ⟨[], (List.append_nil _).symm, fun session => ?_⟩
      rw [Server.withApp_app, Application.reception_modifyContext]
      split
      · rename_i there
        obtain ⟨rfl, -⟩ := there
        exact .waits event (asks (Option.isSome_of_eq_some called)) idle isOpen
      · exact .same
  | quits same =>
      refine .of_closing (by rw [same]; rfl) fun session => ?_
      rw [same, Server.reception_closing]
      split
      · exact .inr rfl
      · exact .inl rfl
  | logsOff user same =>
      rw [same]
      exact server.switches_userLogoff user
  | logsIn middle response kept told =>
      rw [told]
      exact .of_event kept.receptions kept.occurrences .authenticated response
  | skips skipped =>
      obtain ⟨told, kept, same | ⟨same, -⟩⟩ :=
        Server.nextSong_cancels bookkeeping_undisturbed world giver skipped
      · rw [same]
        exact .of_same kept.receptions kept.occurrences
      · rw [same]
        exact .of_undisturbed kept
  | selects station automatic plays selected =>
      obtain ⟨told, kept, same | rfl⟩ :=
        Server.selectStation_controls bookkeeping_undisturbed world giver selected
      · rw [same]
        exact .of_undisturbed kept
      · exact .after_undisturbed kept (Server.switches_controlPlayback _)
  | stops now stopped =>
      obtain ⟨told, kept, same⟩ :=
        Server.stopPlayback_cancels bookkeeping_undisturbed world giver stopped
      rw [same]
      split
      · exact .of_same kept.receptions kept.occurrences
      · exact .of_undisturbed kept
  | controls command changed =>
      rw [changed, Server.changePlayback_app]
      exact Server.switches_controlPlayback _

/-- The call of `wait_for_event` that executing a command line comes to, with the state in which it
is made. -/
def Server.waitCall (crypt : Text → Text → Text) (server : Server) (session : Nat) :
    CommandLine → Option (Server × WaitEvent)
  | .plain command => (server.waitCommand session command).map fun event => (server, event)
  | .asUser name password quits line =>
      let closing := server.closing session
      match closing.app.users.authenticateUser crypt name password with
      | .ok (some user) =>
          if quits then none
          else Server.waitCall crypt (closing.setContextUser session (some (.listed user.serial)))
            session line
      | _ => none

theorem Server.undisturbed_setContextUser (server : Server) (session : Nat)
    (user : Option UserRef) : Undisturbed server.app (server.setContextUser session user).app :=
  @Undisturbed.modifyContext server.app session
    (fun context => { context with user := user }) fun _ => rfl

private theorem executePlain_of_waitCommand {command : Command} {event : WaitEvent}
    (called : server.waitCommand session command = some event) :
    server.executePlain world crypt session command = server.waitForEvent session event := by
  unfold Server.waitCommand at called
  split at called
  · cases called
  · rename_i listener
    unfold Server.executePlain
    split at called
    · split at called
      · rename_i playing
        cases called
        simp [Server.executeUnprivileged, Server.executeListener, Command.inOwnerRange, listener,
          playing]
      · cases called
    · cases called
      simp [Server.executeUnprivileged, Server.executeListener, Command.inOwnerRange, listener]
    · split at called
      · rename_i allowed
        cases called
        rw [Bool.and_eq_true] at allowed
        simp [Server.executeUnprivileged, Server.executeListener, Command.inOwnerRange, listener,
          allowed]
      · cases called
    · cases called

/-- A command line that calls `wait_for_event` does nothing else to the connections than to close
its own beforehand. -/
theorem execute_of_waitCall {line : CommandLine} {inner : Server} {event : WaitEvent}
    (called : server.waitCall crypt session line = some (inner, event)) :
    (server.execute world crypt session line).map (·.app.receptions) =
      (inner.waitForEvent session event).map (·.app.receptions) := by
  induction line generalizing server with
  | plain command =>
      obtain ⟨other, asked, same⟩ := Option.map_eq_some_iff.mp called
      obtain ⟨rfl, rfl⟩ := Prod.mk.inj same
      exact congrArg _ (executePlain_of_waitCommand asked)
  | asUser name password quits line ih =>
      unfold Server.waitCall at called
      unfold Server.execute
      dsimp only at called ⊢
      split at called
      · rename_i user entered
        split at called
        · cases called
        · rename_i executes
          rw [entered]
          dsimp only
          rw [if_neg executes, ← ih called]
          cases Server.execute world crypt ((server.closing session).setContextUser session
            (some (.listed user.serial))) session line with
          | error fault => rfl
          | ok left =>
              exact congrArg Except.ok (left.undisturbed_setContextUser session none).receptions
      · cases called

private theorem Switches.of_closing_giver
    (idle : (server.app.context giver).reception.waitingFor = none)
    (switches : Switches own (server.closing giver).app after.app) :
    Switches own server.app after.app := by
  obtain ⟨occurrences, grown, switched⟩ := switches
  refine ⟨occurrences, grown, fun session => ?_⟩
  have closed := switched session
  rw [Server.reception_closing] at closed
  split at closed
  · rename_i same
    obtain ⟨last, unanswered⟩ := closed.of_close
    rw [last]
    exact .closes occurrences (.inr (same ▸ idle)) unanswered
  · exact closed

private theorem Switches.of_entered {user last : Option UserRef} {left : Server}
    (switches : Switches own (server.setContextUser giver user).app left.app) :
    Switches own server.app (left.setContextUser giver last).app := by
  have entered := server.undisturbed_setContextUser giver user
  have leaves := left.undisturbed_setContextUser giver last
  obtain ⟨occurrences, grown, switched⟩ := switches
  refine ⟨occurrences, ?_, fun session => ?_⟩
  · rw [leaves.occurrences, grown, entered.occurrences]
  · rw [Application.reception_of_receptions leaves.receptions,
      ← Application.reception_of_receptions entered.receptions]
    exact switched session

/-- A command line closes its connection beforehand, if it is executed on behalf of a user. -/
theorem switches_execute {line : CommandLine} (inRange : line.InRange)
    (asks : (server.waitCall crypt giver line).isSome = true → own = some giver)
    (idle : (server.app.context giver).reception.waitingFor = none)
    (executed : server.execute world crypt giver line = .ok after) :
    Switches own server.app after.app := by
  induction line generalizing server after with
  | plain command =>
      refine (effect_executePlain inRange executed).switches fun asked => asks ?_
      rw [Server.waitCall, Option.isSome_map, asked]
  | asUser name password quits line ih =>
      unfold Server.execute at executed
      unfold Server.waitCall at asks
      dsimp only at executed asks
      refine .of_closing_giver idle ?_
      split at executed
      · cases executed
      · cases executed
        exact .of_undisturbed (Server.undisturbed_setContextUser _ giver none)
      · rename_i user entered
        rw [entered] at asks
        split at executed
        · cases executed
        · rename_i left executing
          cases executed
          refine Switches.of_entered (?_ : Switches own ((server.closing giver).setContextUser giver
            (some (.listed user.serial))).app left.app)
          split at executing
          · cases executing
            exact .of_undisturbed (.refl _)
          · rename_i executes
            dsimp only at asks
            rw [if_neg executes] at asks
            refine ih inRange asks ?_ executing
            have entered := Application.reception_of_receptions
              ((server.closing giver).undisturbed_setContextUser giver
                (some (.listed user.serial))).receptions giver
            rw [Server.reception_closing, if_pos rfl] at entered
            rw [entered]
            exact idle

end Commands

/-! ## Commands on behalf of a user -/

/-- Whether a command line is executed on behalf of a user. -/
def CommandLine.forUser : CommandLine → Bool
  | .plain _ => false
  | .asUser .. => true

/-- The assertions of `wait_for_event` hold. -/
def Server.CanWait (server : Server) (session : Nat) : Prop :=
  (server.app.context session).waitingFor = none ∧ (server.app.context session).isOpen = true

section Calls

variable {world : World} {crypt : Text → Text → Text} {session : Nat} {server inner after : Server}
  {line : CommandLine} {event : WaitEvent}

/-- Without such a call, a command line makes no connection wait. -/
theorem idle_execute {giver : Nat} (inRange : line.InRange)
    (called : server.waitCall crypt giver line = none)
    (ready : (server.app.context giver).waitingFor = none)
    (executed : server.execute world crypt giver line = .ok after)
    (idle : (server.app.context session).waitingFor = none) :
    (after.app.context session).waitingFor = none := by
  obtain ⟨occurrences, -, switched⟩ := @switches_execute world crypt giver none server after line
    inRange (by simp [called]) ready executed
  exact (switched session).idle nofun idle

private theorem closed_of_waitCall (closed : (server.app.context session).isOpen = false)
    (called : server.waitCall crypt session line = some (inner, event)) :
    (inner.app.context session).isOpen = false := by
  induction line generalizing server with
  | plain command =>
      obtain ⟨other, -, same⟩ := Option.map_eq_some_iff.mp called
      obtain ⟨rfl, -⟩ := Prod.mk.inj same
      exact closed
  | asUser name password quits line ih =>
      unfold Server.waitCall at called
      dsimp only at called
      split at called
      · rename_i user _
        split at called
        · cases called
        · refine ih ?_ called
          have entered := Application.reception_of_receptions
            ((server.closing session).undisturbed_setContextUser session
              (some (.listed user.serial))).receptions session
          rw [Server.reception_closing, if_pos rfl] at entered
          exact congrArg Reception.isOpen entered
      · cases called

/-- A connection that a command comes from can wait, unless the command is executed on behalf of a
user. -/
theorem canWait_iff (idle : (server.app.context session).waitingFor = none)
    (isOpen : (server.app.context session).isOpen = true)
    (called : server.waitCall crypt session line = some (inner, event)) :
    inner.CanWait session ↔ line.forUser = false := by
  cases line with
  | plain command =>
      obtain ⟨other, -, same⟩ := Option.map_eq_some_iff.mp called
      obtain ⟨rfl, -⟩ := Prod.mk.inj same
      exact iff_of_true ⟨idle, isOpen⟩ rfl
  | asUser name password quits line =>
      refine iff_of_false (fun waits => ?_) nofun
      unfold Server.waitCall at called
      dsimp only at called
      split at called
      · rename_i user _
        split at called
        · cases called
        · have entered := Application.reception_of_receptions
            ((server.closing session).undisturbed_setContextUser session
              (some (.listed user.serial))).receptions session
          rw [Server.reception_closing, if_pos rfl] at entered
          have closed := closed_of_waitCall (congrArg Reception.isOpen entered) called
          exact absurd (closed.symm.trans waits.2) Bool.false_ne_true
      · cases called

end Calls

end Pianod
