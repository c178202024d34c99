import Pianod.Server.PlaybackCommands
import Pianod.Server.Verdicts

/-!
# The verdicts of the other commands

The handlers that control playback, settings, credentials and users end the answer exactly once,
but for those that start streaming.  Waiting connections are answered by the event they wait for.
-/

namespace Pianod

open Foundation

namespace Server

variable (world : World) (session : Nat) (server : Server)

/-! ## Playback and settings -/

theorem verdicts_controlPlayback (command : PlaybackCommand) :
    (server.controlPlayback world session command).verdicts session =
      server.verdicts session + 1 := by
  have settle (told : Server) : (if told.app.playbackState = .paused then
      told.withApp { told.app with
        stalled := false
        stallSample := 0
        stallSampleTime := 0 } else told).verdicts session =
        told.verdicts session := by
    split <;> rfl
  unfold controlPlayback
  dsimp only
  split
  · split
    · rw [settle, verdicts_reply, verdicts_sendPlaybackStatus, verdicts_withApp]
      rfl
    · rw [settle, verdicts_reply, verdicts_reply, verdicts_withApp]
      rfl
  · split
    · rw [settle, verdicts_reply]
      rfl
    · rw [settle, verdicts_reply, verdicts_withApp]
      rfl

theorem verdicts_nextSong {server after : Server}
    (skipped : server.nextSong world session = .ok after) :
    after.verdicts session = server.verdicts session + 1 := by
  unfold nextSong at skipped
  split at skipped
  · split at skipped
    · cases skipped
    · rename_i song _
      obtain ⟨told, available, asked⟩ : ∃ told available, (if server.app.doQuit then (server, true)
          else server.skipsAreAvailable world session song.stationId) = (told, available) :=
        ⟨_, _, rfl⟩
      have silent : told.verdicts session = server.verdicts session := by
        obtain rfl := congrArg Prod.fst asked
        split
        · rfl
        · exact verdicts_reply _ session _
      rw [asked] at skipped
      dsimp only at skipped
      split at skipped
      · cases skipped
        rw [verdicts_reply, verdicts_announceAction]
        exact congrArg (· + 1) silent
      · cases skipped
        rw [verdicts_reply, silent]
        rfl
  · cases skipped
    exact server.verdicts_reply session _

theorem verdicts_selectStation {server after : Server} {station : Option StationCell}
    {automatic plays : Bool}
    (selected : server.selectStation world session station automatic plays = .ok after) :
    after.verdicts session = server.verdicts session + 1 := by
  unfold selectStation at selected
  split at selected
  · cases selected
    exact server.verdicts_reply session _
  · dsimp only at selected
    split at selected
    · cases selected
    · rename_i sent
      have told := verdicts_sendSelectedStation session sent
      rw [verdicts_announceAction, verdicts_withApp] at told
      split at selected
      · cases selected
      · rename_i computed
        have tuned := verdicts_recomputeStations world session computed
        split at selected
        · cases selected
          rw [verdicts_controlPlayback, tuned, told]
        · cases selected
          rw [verdicts_reply, tuned, told]
          rfl

theorem verdicts_stopPlayback {server after : Server} {now : Bool}
    (stopped : server.stopPlayback world session now = .ok after) :
    after.verdicts session = server.verdicts session + 1 := by
  unfold stopPlayback at stopped
  dsimp only at stopped
  split at stopped
  · cases stopped
  · rename_i sent
    cases stopped
    have told := verdicts_sendSelectedStation session sent
    rw [verdicts_reply, told, verdicts_announceAction]
    split <;> rfl

theorem verdicts_changePlayback (command : PlaybackCommand) :
    (server.changePlayback world session command).verdicts session =
      server.verdicts session + 1 := by
  unfold changePlayback
  dsimp only
  split
  · exact server.verdicts_controlPlayback world session command
  · rw [verdicts_announceAction]
    exact server.verdicts_controlPlayback world session command

theorem verdicts_setVolume (level : Text) :
    (server.setVolume session level).verdicts session = server.verdicts session + 1 := by
  have change (volume : Int) : (((server.withApp { server.app with
      settings := { server.app.settings with volume := volume } }).reply session .sOk).sendResponse
        .iVolume).verdicts session = server.verdicts session + 1 := by
    rw [verdicts_sendResponse _ session rfl, verdicts_reply, verdicts_withApp]
    rfl
  have refused : (server.reply session .eInvalid).verdicts session = server.verdicts session + 1 :=
    server.verdicts_reply session _
  unfold setVolume
  dsimp only
  split
  · split
    · exact refused
    · exact change _
  · split
    · split
      · exact refused
      · exact change _
    · split
      · split
        · exact refused
        · exact change _
      · exact refused

@[simp]
theorem verdicts_withSettings (settings : Settings) :
    (server.withSettings settings).verdicts session = server.verdicts session := rfl

@[simp]
theorem verdicts_setText (setting : TextSetting) (value : Option Text) :
    (server.setText setting value).verdicts session = server.verdicts session := rfl

theorem verdicts_reportValue {code : ResponseCode} (quiet : code.isFinal = false) :
    (server.reportValue session code).verdicts session = server.verdicts session + 1 := by
  rw [reportValue, verdicts_send, List.countP_cons, List.countP_cons, quiet]
  rfl

theorem verdicts_reportSetting {code : ResponseCode} (quiet : code.isFinal = false)
    (setting : Option Text) : (server.reportSetting session code setting).verdicts session =
      server.verdicts session + 1 := by
  cases setting with
  | none => exact server.verdicts_reply session _
  | some value => exact server.verdicts_reportValue session quiet

@[simp]
theorem verdicts_changeSetting (setting : TextSetting) (value : Option Text) :
    (server.changeSetting session setting value).verdicts session = server.verdicts session + 1 :=
  verdicts_reply _ session _

theorem verdicts_changeNumber {code : ResponseCode} (quiet : code.isFinal = false)
    (settings : Settings) : (server.changeNumber session settings code).verdicts session =
      server.verdicts session + 1 := by
  rw [changeNumber, verdicts_reply, verdicts_sendResponse _ session quiet, verdicts_withSettings]
  rfl

theorem verdicts_changeFingerprint (value : Text) :
    (server.changeFingerprint session value).verdicts session = server.verdicts session + 1 := by
  unfold changeFingerprint
  split <;> exact verdicts_reply _ session _

theorem verdicts_setControlProxy (url : Text) :
    (server.setControlProxy world session url).verdicts session = server.verdicts session + 1 := by
  unfold setControlProxy
  split
  · rw [verdicts_reply, verdicts_sendResponse _ session rfl, verdicts_setText]
    rfl
  · exact verdicts_reply _ session _

theorem verdicts_setProxy (url : Text) :
    (server.setProxy session url).verdicts session = server.verdicts session + 1 := by
  unfold setProxy
  split
  · rw [verdicts_reply, verdicts_sendResponse _ session rfl, verdicts_setText]
    rfl
  · exact verdicts_reply _ session _

theorem verdicts_setCapturePath (off : Bool) (path : Option Text) :
    (server.setCapturePath world session off path).verdicts session =
      server.verdicts session + 1 := by
  unfold setCapturePath
  split
  · exact verdicts_reply _ session _
  · split
    · exact verdicts_reply _ session _
    · split
      · rw [verdicts_reply, verdicts_sendResponse _ session rfl, verdicts_setText]
        rfl
      · exact verdicts_reply _ session _

/-- Streaming does not start, or has no server to use. -/
def FailsToStream (world : World) (app : Application) (command : ShoutcastCommand)
    (connect : Option Text) : Prop :=
  match command with
  | .off => False
  | .on => app.shoutcast = false ∧ world.shoutcastStarts = false
  | .server => connect = none

instance (world : World) (app : Application) (command : ShoutcastCommand)
    (connect : Option Text) : Decidable (FailsToStream world app command connect) := by
  cases command
  · exact inferInstanceAs (Decidable (connect = none))
  · exact inferInstanceAs (Decidable (_ ∧ _))
  · exact inferInstanceAs (Decidable False)

theorem verdicts_setShoutcast (command : ShoutcastCommand) (connect : Option Text) :
    (server.setShoutcast world session command connect).verdicts session =
      server.verdicts session +
        if FailsToStream world server.app command connect then 0 else 1 := by
  unfold setShoutcast
  cases command with
  | off =>
      dsimp only
      rw [verdicts_reply, if_neg (show ¬FailsToStream world server.app .off connect from id)]
      split
      · rw [verdicts_sendResponse _ session rfl]
        rfl
      · rfl
  | on =>
      dsimp only
      cases streaming : server.app.shoutcast with
      | true =>
          have served : ¬FailsToStream world server.app .on connect := by
            simp [FailsToStream, streaming]
          rw [if_pos rfl, if_neg served]
          exact verdicts_reply _ session _
      | false =>
          rw [if_neg Bool.false_ne_true]
          cases starts : world.shoutcastStarts with
          | true =>
              have served : ¬FailsToStream world server.app .on connect := by
                simp [FailsToStream, starts]
              rw [if_pos rfl, if_neg served, verdicts_reply, verdicts_sendResponse _ session rfl]
              rfl
          | false =>
              have fails : FailsToStream world server.app .on connect := ⟨streaming, starts⟩
              rw [if_neg Bool.false_ne_true, if_pos fails]
              exact verdicts_reply _ session _
  | server =>
      cases connect with
      | none => exact verdicts_reply _ session _
      | some connect =>
          have served : ¬FailsToStream world server.app .server (some connect) := nofun
          dsimp only
          rw [if_neg served, verdicts_reply, verdicts_sendResponse _ session rfl]
          rfl

theorem verdicts_generateTestTone :
    (server.generateTestTone world session).verdicts session = server.verdicts session + 1 := by
  unfold generateTestTone
  split <;> exact verdicts_reply _ session _

/-! ## Waiting -/

/-- Only one of a numbered list's entries has a given number. -/
theorem countP_zipIdx {α : Type} (items : List α) (start : Nat) (selects : α → Bool) :
    (items.zipIdx start).countP (fun entry => selects entry.1 && decide (entry.2 = session)) =
      if start ≤ session ∧ items[session - start]?.any selects then 1 else 0 := by
  induction items generalizing start with
  | nil => simp
  | cons item items ih =>
      rw [List.zipIdx_cons, List.countP_cons, ih]
      rcases Nat.lt_trichotomy start session with before | same | after
      · obtain ⟨rest, rfl⟩ := Nat.exists_eq_add_of_lt before
        have later : start + rest + 1 - start = rest + 1 := by omega
        have index : start + rest + 1 - (start + 1) = rest := by omega
        simp [later, index, show start ≠ start + rest + 1 by omega,
          show start + 1 ≤ start + rest + 1 by omega, show start ≤ start + rest + 1 by omega]
      · subst same
        simp
      · simp [show ¬start + 1 ≤ session by omega, show ¬start ≤ session by omega,
          show start ≠ session by omega]

theorem verdicts_notify_eq (selects : UserContext → Bool) (code : ResponseCode) :
    (server.notify selects code).verdicts session = server.verdicts session +
      if server.app.contexts[session]?.any selects ∧ code.isFinal then 1 else 0 := by
  have told := countP_zipIdx session server.app.contexts 0 selects
  simp only [verdicts, notify, verdicts_append, Nat.add_left_cancel_iff]
  simp only [Pianod.verdicts, List.countP_map, List.countP_filter, Function.comp_def,
    Recipient.reaches]
  cases final : code.isFinal with
  | false => simp
  | true => simpa [Bool.and_comm] using told

variable {session}

/-- An event is told to the connections that wait for it, and to no others. -/
theorem verdicts_eventOccurred_of_waiting {event : WaitEvent} {response : ResponseCode}
    (waits : (server.app.context session).waitingFor = some event)
    (isOpen : (server.app.context session).isOpen = true) (final : response.isFinal = true) :
    (server.eventOccurred event response).verdicts session = server.verdicts session + 1 := by
  unfold eventOccurred
  dsimp only
  rw [verdicts_withApp, verdicts_notify_eq, if_pos]
  refine ⟨?_, final⟩
  unfold Application.context at waits isOpen
  cases known : server.app.contexts[session]? with
  | none => simp [known] at waits
  | some context =>
      rw [known, Option.getD_some] at waits isOpen
      simp [waits, isOpen]

theorem verdicts_eventOccurred_of_idle {event : WaitEvent} {response : ResponseCode}
    (idle : (server.app.context session).waitingFor = none) :
    (server.eventOccurred event response).verdicts session = server.verdicts session := by
  unfold eventOccurred
  dsimp only
  rw [verdicts_withApp, verdicts_notify_eq, if_neg]
  · rfl
  · rintro ⟨waits, -⟩
    unfold Application.context at idle
    cases known : server.app.contexts[session]? with
    | none => simp [known] at waits
    | some context =>
        rw [known, Option.getD_some] at idle
        simp [known, idle] at waits

/-! ## Credentials -/

theorem verdicts_setPandoraUser {server after : Server}
    (idle : (server.app.context session).waitingFor = none)
    (switched : server.setPandoraUser world session = .ok after) :
    after.verdicts session = server.verdicts session + 1 := by
  unfold setPandoraUser at switched
  dsimp only at switched
  split at switched
  · cases switched
  · cases switched
  · rename_i login changed _ _
    have asked : (if changed then ((server.sendResponse .iServerStatus).barUiPianoCall world
        .login).1 else server).verdicts session = server.verdicts session ∧
          (if changed then ((server.sendResponse .iServerStatus).barUiPianoCall world
            .login).1 else server).app.contexts = server.app.contexts := by
      split
      · refine ⟨?_, ?_⟩
        · rw [verdicts_barUiPianoCall, verdicts_sendResponse _ session rfl]
        · unfold barUiPianoCall
          split <;> rfl
      · exact ⟨rfl, rfl⟩
    generalize (if changed then ((server.sendResponse .iServerStatus).barUiPianoCall world
      .login).1 else server) = told at switched asked
    obtain ⟨silent, same⟩ := asked
    have idle_of {other : Server} (contexts : other.app.contexts = server.app.contexts) :
        (other.app.context session).waitingFor = none := by
      unfold Application.context at idle ⊢
      rw [contexts]
      exact idle
    split at switched
    · cases switched
      rw [verdicts_reply, verdicts_withApp, silent]
      rfl
    · cases switched
      rw [verdicts_eventOccurred_of_idle _ (idle_of (by exact same)), verdicts_reply,
        verdicts_withApp, silent]
      rfl
    · split at switched
      · cases switched
      · rename_i updated
        cases switched
        obtain ⟨listed, contexts⟩ := verdicts_updateStationList world session updated
        have kept : (if changed then ((told.withApp (told.app.withLogin login)).reply session
            .sOk).sendResponse .iServerStatus else (told.withApp (told.app.withLogin login)).reply
              session .sOk).app.contexts = server.app.contexts := by
          split <;> exact same
        rw [verdicts_eventOccurred_of_idle _ (idle_of (by exact contexts.trans kept)),
          verdicts_withApp,
          listed, verdicts_withApp, verdicts_announcePrivileges]
        split
        · rw [verdicts_sendResponse _ session rfl, verdicts_reply, verdicts_withApp, silent]
          rfl
        · rw [verdicts_reply, verdicts_withApp, silent]
          rfl

theorem verdicts_acceptNewCredentials {server after : Server} {remember : Bool}
    {username password : Text} {ownership : Ownership} {manager : Option Text}
    (idle : (server.app.context session).waitingFor = none)
    (accepted : server.acceptNewCredentials world session remember username password ownership
      manager = .ok after) : after.verdicts session = server.verdicts session + 1 := by
  unfold acceptNewCredentials at accepted
  dsimp only at accepted
  split at accepted
  · cases accepted
    exact server.verdicts_reply session _
  · split at accepted
    · split at accepted
      · cases accepted
      · have answered := verdicts_setPandoraUser world (by exact idle) accepted
        exact answered
    · split at accepted
      · rename_i found
        cases accepted
        exact verdicts_getUserByName session found
      · split at accepted
        · cases accepted
        · have answered := verdicts_setPandoraUser world (by exact idle) accepted
          exact answered

theorem verdicts_restoreCredentials {server after : Server} {name : Text}
    (idle : (server.app.context session).waitingFor = none)
    (restored : server.restoreCredentials world session name = .ok after) :
    after.verdicts session = server.verdicts session + 1 := by
  unfold restoreCredentials at restored
  split at restored
  · rename_i found
    cases restored
    exact verdicts_getUserByName session found
  · rename_i asked user found
    have silent := verdicts_getUserByName session found
    have same : asked.app = server.app := by
      unfold getUserByName at found
      split at found <;> cases found
      rfl
    split at restored
    · cases restored
    · cases restored
      rw [verdicts_reply, silent]
      rfl
    · split at restored
      · cases restored
      · rename_i switched
        cases restored
        rw [← same] at idle
        have answered := verdicts_setPandoraUser world (by exact idle) switched
        rw [verdicts_announceAction, answered, verdicts_withSettings, silent]
        rfl

/-! ## Users -/

variable (session)

@[simp]
theorem verdicts_withUsers (users : UserDatabase) :
    (server.withUsers users).verdicts session = server.verdicts session := rfl

theorem verdicts_sendSelectUsers (which : UserSelection) (details : Bool) :
    (server.sendSelectUsers session which details).verdicts session =
      server.verdicts session + 1 := by
  rw [sendSelectUsers, verdicts_reply, verdicts_sendUsers]
  rfl

theorem verdicts_sendUserList (who : Option Text) :
    (server.sendUserList session who).verdicts session = server.verdicts session + 1 := by
  unfold sendUserList
  dsimp only
  rw [verdicts_reply, verdicts_sendUsers]
  split <;> rfl

@[simp]
theorem verdicts_userLogoff (user : Option UserRef) :
    (server.userLogoff user).verdicts session = server.verdicts session := by
  unfold userLogoff
  dsimp only
  rw [verdicts_withApp, verdicts_notify _ session rfl]

theorem verdicts_kickUser (name : Text) :
    (server.kickUser session name).verdicts session = server.verdicts session + 1 := by
  unfold kickUser
  split
  · rename_i found
    exact verdicts_getUserByName session found
  · rename_i found
    have silent := verdicts_getUserByName session found
    split
    · rw [verdicts_announceAction, verdicts_reply, verdicts_userLogoff, silent]
      rfl
    · rw [verdicts_reply, silent]
      rfl

theorem verdicts_sendStationList (includes : Station → Bool) :
    (server.sendStationList session includes).verdicts session = server.verdicts session + 1 := by
  unfold sendStationList
  dsimp only
  rw [verdicts_reply, verdicts_send_of_quiet _ session _ (.map rfl),
    verdicts_send_of_quiet _ session _ (by split <;> decide)]
  rfl

theorem verdicts_sendStationRatings {server after : Server} {name : Option Text}
    (sent : server.sendStationRatings session name = .ok after) :
    after.verdicts session = server.verdicts session + 1 := by
  unfold sendStationRatings at sent
  split at sent
  · cases sent
    rw [verdicts_reply, verdicts_send_of_quiet _ session _ (.flatMap fun _ => by decide)]
    rfl
  · split at sent
    · cases sent
    · rename_i found
      cases sent
      exact verdicts_getStationByNameOrCurrent session found
    · rename_i found
      cases sent
      rw [verdicts_send, verdicts_getStationByNameOrCurrent session found]
      rfl

theorem verdicts_queryStatus {server after : Server}
    (sent : server.queryStatus session = .ok after) :
    after.verdicts session = server.verdicts session + 1 := by
  unfold queryStatus at sent
  rw [verdicts_sendSelectedStation session sent, verdicts_sendPlaybackStatus, verdicts_reply]
  split
  · rfl
  · rw [verdicts_sendStationRating, verdicts_sendSongInfo, verdicts_reply]
    rfl

theorem verdicts_rateStation {server after : Server} {user : UserRef} {rating : StationRating}
    {name : Option Text} (rated : server.rateStation world session user rating name = .ok after) :
    after.verdicts session = server.verdicts session + 1 := by
  unfold rateStation at rated
  split at rated
  · cases rated
  · rename_i found
    cases rated
    exact verdicts_getStationByNameOrCurrent session found
  · rename_i found
    have silent := verdicts_getStationByNameOrCurrent session found
    split at rated
    · cases rated
    · cases rated
    · dsimp only at rated
      have told (rated : Server) (playing : Bool) : (if playing then
          rated.notify (fun context => context.user == some user) .iUserRating
            else rated).verdicts session = rated.verdicts session := by
        split
        · exact verdicts_notify _ session rfl
        · rfl
      rw [verdicts_recomputeStations world session rated, verdicts_notify _ session rfl, told,
        verdicts_reply, verdicts_withUsers, silent]
      rfl

theorem verdicts_changePassword {crypt : Text → Text → Text} {server after : Server}
    {user : UserRef} {old : Text}
    (changed : server.changePassword world crypt session user old = .ok after) :
    after.verdicts session = server.verdicts session + 1 := by
  unfold changePassword at changed
  split at changed
  · cases changed
  · split at changed
    · cases changed
    · cases changed
    · cases changed
      exact server.verdicts_reply session _
    · cases changed
      exact verdicts_reply _ session _

theorem verdicts_autotune {server after : Server} {clears consider : Bool} {names : List Text}
    (tuned : server.autotune world session clears consider names = .ok after) :
    after.verdicts session = server.verdicts session + 1 := by
  unfold autotune at tuned
  split at tuned
  · rename_i checked
    cases tuned
    exact verdicts_validUserList session checked
  · rename_i checked
    have silent := verdicts_validUserList session checked
    dsimp only at tuned
    split at tuned
    · cases tuned
    · rw [verdicts_recomputeStations world session tuned, verdicts_reply, verdicts_withUsers,
        silent]
      rfl

theorem verdicts_setPrivileges {server after : Server} {privilege : Privilege} {setting : Bool}
    {names : List Text}
    (changed : server.setPrivileges world session privilege setting names = .ok after) :
    after.verdicts session = server.verdicts session + 1 := by
  unfold setPrivileges at changed
  split at changed
  · rename_i checked
    cases changed
    exact verdicts_validUserList session checked
  · rename_i checked
    have silent := verdicts_validUserList session checked
    split at changed
    · cases changed
    · dsimp only at changed
      split at changed
      · cases changed
      · rename_i tuned
        cases changed
        rw [verdicts_reply, verdicts_announcePrivileges]
        split at tuned
        · rw [verdicts_recomputeStations world session tuned, verdicts_withUsers, silent]
          rfl
        · cases tuned
          rw [verdicts_withUsers, silent]
          rfl

theorem verdicts_createUser {server after : Server} {rank : UserRank} {name : Text}
    (created : server.createUser world session rank name = .ok after) :
    after.verdicts session = server.verdicts session + 1 := by
  unfold createUser at created
  split at created
  · cases created
    exact server.verdicts_reply session _
  · split at created
    · cases created
    · cases created
      exact verdicts_reply _ session _

theorem verdicts_setUserRank {server after : Server} {name : Text} {rank : UserRank}
    (changed : server.setUserRank session name rank = .ok after) :
    after.verdicts session = server.verdicts session + 1 := by
  unfold setUserRank at changed
  split at changed
  · rename_i found
    cases changed
    exact verdicts_getUserByName session found
  · rename_i found
    split at changed
    · cases changed
    · cases changed
      rw [verdicts_reply, verdicts_announcePrivileges, verdicts_withUsers,
        verdicts_getUserByName session found]
      rfl

theorem verdicts_deleteUser {server after : Server} {name : Text}
    (deleted : server.deleteUser session name = .ok after) :
    after.verdicts session = server.verdicts session + 1 := by
  unfold deleteUser at deleted
  split at deleted
  · rename_i found
    cases deleted
    exact verdicts_getUserByName session found
  · rename_i found
    have silent := verdicts_getUserByName session found
    split at deleted
    · cases deleted
      rw [verdicts_reply, silent]
      rfl
    · split at deleted
      · cases deleted
      · cases deleted
        rw [verdicts_reply, verdicts_withSettings, verdicts_withUsers, silent]
        rfl

theorem verdicts_authenticate {crypt : Text → Text → Text} {server after : Server}
    {name password : Text}
    (entered : server.authenticate world crypt session name password = .ok after) :
    after.verdicts session = server.verdicts session + 1 := by
  unfold authenticate at entered
  dsimp only at entered
  split at entered
  · cases entered
  · cases entered
    exact verdicts_reply _ session _
  · split at entered
    · cases entered
    · rename_i computed
      cases entered
      rw [verdicts_sendPrivileges, verdicts_reply,
        verdicts_recomputeStations world session computed]
      split
      · rw [verdicts_sendStationRating, verdicts_announceAction, verdicts_withApp]
        rfl
      · rw [verdicts_announceAction, verdicts_withApp]
        rfl

end Server

end Pianod
