import Pianod.Server.LoopSections
import Pianod.Server.LoopSongs

/-!
# Pausing and cancelling

The wanted state of playback is kept beside the flags that the player thread looks at.  The flags
follow the wanted state from the start of the thread to its cleanup, whatever happens in between,
and a thread that has been cancelled does not wait any longer.
-/

namespace Pianod

open Foundation

/-- What the player thread does after a look at its flags. -/
inductive PauseCheck where
  | quits
  | continues
  | waits
deriving DecidableEq, Repr

namespace Application

/-- Wait until the pause flag is cleared; do not quit before the player is fully initialized. -/
def checkPauseQuit (app : Application) : PauseCheck :=
  if app.doQuit then
    if PlayerMode.samplesizeInitialized.level ≤ app.playerMode.level then .quits else .continues
  else if app.doPause then .waits
  else .continues

/-- The player thread has something to play. -/
def threadPlays (app : Application) : Bool :=
  decide (PlayerMode.starting.level ≤ app.playerMode.level ∧
    app.playerMode.level < PlayerMode.finishedPlayback.level)

theorem threadPlays_congr {before after : Application}
    (same : after.playerMode = before.playerMode) : after.threadPlays = before.threadPlays := by
  unfold threadPlays
  rw [same]

/-- The flag that the player thread looks at is the wanted state, if there is a thread. -/
def PauseAgrees (app : Application) : Prop :=
  app.playerMode ≠ .freed → (app.doPause = true ↔ app.playbackState = .paused)

end Application

/-- The commands that end the current song early: skipping, and stopping now. -/
def CommandLine.cancels : CommandLine → Bool
  | .plain .nextSong => true
  | .plain (.stopPlayback now) => now
  | .plain _ => false
  | .asUser _ _ quits line => !quits && line.cancels

/-- The mutex can be locked. -/
def LoopAction.Locks : LoopAction → Prop
  | .proceed world => world.world.mutexLocks = true
  | _ => True

namespace LoopState

/-- The pause timeout, a shutdown signal, or a successful command is about to cancel playback. -/
def cancels (crypt : Text → Text → Text) (state : LoopState) : LoopAction → Bool
  | .proceed world =>
      match state.point with
      | .monitor =>
          !state.broadcastStatus && state.app.playbackState = .paused &&
            PlayerMode.samplesizeInitialized.level ≤ state.app.playerMode.level &&
            state.app.pausedSince ≠ 0 &&
            state.app.settings.pauseTimeout < world.world.now - state.app.pausedSince
      | .service =>
          state.shutdownSignalled ||
            match world.event with
            | .input session line _ =>
                match Server.execute world.world crypt ⟨state.app, []⟩ session line with
                | .error _ => false
                | .ok server => line.cancels && server.sent.contains ⟨.connection session, .sOk⟩
            | _ => false
      | _ => false
  | _ => false

end LoopState

/-- The loop, and whether the player thread that is about has been cancelled. -/
structure WatchedLoop where
  loop : LoopState
  cancelled : Bool

namespace WatchedLoop

def step (crypt : Text → Text → Text) (watched : WatchedLoop) (action : LoopAction) :
    Except LoopFault WatchedLoop :=
  (watched.loop.step crypt action).map fun after =>
    { loop := after
      cancelled := decide (after.app.playerMode ≠ .freed) &&
        (watched.cancelled || watched.loop.app.threadPlays && watched.loop.cancels crypt action) }

def initial (app : Application) : WatchedLoop := ⟨.initial app, false⟩

end WatchedLoop

/-- The state of playback, the answers and the flags agree. -/
structure PauseCoherent (crypt : Text → Text → Text) (watched : WatchedLoop) : Prop where
  agrees : watched.loop.app.PauseAgrees
  /-- A command that is refused as out of place changes nothing about playback. -/
  refused : ∀ world session line after, line.InRange →
    Server.execute world crypt ⟨watched.loop.app, []⟩ session line = .ok after →
    (∃ recipient, ⟨recipient, .eWrongState⟩ ∈ after.sent) →
    after.app.playbackState = watched.loop.app.playbackState
  cancelled : watched.cancelled = true →
    watched.loop.app.doQuit = true ∧ watched.loop.app.checkPauseQuit ≠ .waits

/-! ## Commands -/

/-- A change that leaves the thread where it is, its flags with the wanted state, and a cancelled
thread cancelled. -/
structure PauseKept (before after : Application) : Prop where
  playerMode : after.playerMode = before.playerMode
  agrees : before.PauseAgrees → after.PauseAgrees
  doQuit : before.doQuit = true → after.doQuit = true

namespace PauseKept

variable {before after : Application}

theorem refl (app : Application) : PauseKept app app := ⟨rfl, id, id⟩

theorem trans {first second third : Application} (one : PauseKept first second)
    (two : PauseKept second third) : PauseKept first third where
  playerMode := two.playerMode.trans one.playerMode
  agrees := fun agrees => two.agrees (one.agrees agrees)
  doQuit := fun quit => two.doQuit (one.doQuit quit)

/-- What leaves the player and its controls alone. -/
theorem of_controls (playerMode : after.playerMode = before.playerMode)
    (controls : after.controls = before.controls) : PauseKept before after := by
  obtain ⟨state, flags⟩ := Prod.ext_iff.mp controls
  obtain ⟨pause, quit⟩ := Prod.ext_iff.mp flags
  refine ⟨playerMode, fun agrees active => ?_, fun cancelled => quit.trans cancelled⟩
  have same := agrees (playerMode ▸ active)
  rw [← show after.doPause = before.doPause from pause,
    ← show after.playbackState = before.playbackState from state] at same
  exact same

theorem of_undisturbed (kept : Undisturbed before after) : PauseKept before after :=
  of_controls kept.playerMode kept.controls

end PauseKept

namespace Server

variable {world : World} {session : Nat} {server after : Server}

/-- The player thread is told the wanted state that is taken over. -/
theorem pauseKept_controlPlayback (locks : world.mutexLocks = true) (command : PlaybackCommand) :
    PauseKept server.app (server.controlPlayback world session command).app := by
  have settle (told : Server) : PauseKept told.app (if told.app.playbackState = .paused then
      told.withApp { told.app with
        stalled := false
        stallSample := 0
        stallSampleTime := 0 } else told).app := by
    split
    · exact .of_controls rfl rfl
    · exact .refl _
  unfold controlPlayback
  dsimp only
  rw [if_pos locks]
  split
  · refine .trans ?_ (settle _)
    rw [reply_app, sendPlaybackStatus_app]
    exact ⟨rfl, fun _ _ => decide_eq_true_iff, id⟩
  · rename_i inactive
    have freed : server.app.playerMode = .freed := by
      cases mode : server.app.playerMode with
      | freed => rfl
      | _ =>
          rw [mode] at inactive
          exact absurd (by decide) inactive
    split
    · exact settle (server.reply session .eWrongState)
    · refine .trans ?_ (settle _)
      exact ⟨rfl, fun _ active => absurd freed active, id⟩

theorem pauseKept_cancelPlayback : PauseKept server.app (server.cancelPlayback world).app :=
  ⟨rfl, id, fun quit => Bool.or_eq_true_iff.mpr (.inl quit)⟩

theorem doQuit_cancelPlayback (locks : world.mutexLocks = true)
    (plays : server.app.threadPlays = true) :
    (server.cancelPlayback world).app.doQuit = true := by
  obtain ⟨started, unfinished⟩ := of_decide_eq_true plays
  exact Bool.or_eq_true_iff.mpr (.inr (decide_eq_true ⟨started, unfinished, locks⟩))

end Server

theorem CommandEffect.pauseKept {world : World} {session : Nat} {command : Command}
    {server after : Server} (locks : world.mutexLocks = true)
    (effect : CommandEffect world session command server after) :
    PauseKept server.app after.app := by
  cases effect with
  | undisturbed kept => exact .of_undisturbed kept
  | waits event called waited =>
      obtain ⟨-, -, rfl⟩ := Server.waitForEvent_eq_ok waited
      exact .of_controls rfl rfl
  | quits same =>
      rw [same]
      exact .of_controls rfl rfl
  | logsOff user same =>
      rw [same]
      exact .of_controls rfl rfl
  | logsIn middle response kept told =>
      rw [told]
      exact (PauseKept.of_undisturbed kept).trans (.of_controls rfl rfl)
  | skips skipped =>
      obtain ⟨told, kept, same | ⟨same, -⟩⟩ :=
        Server.nextSong_cancels bookkeeping_undisturbed world session skipped
      · rw [same]
        exact (PauseKept.of_undisturbed kept).trans Server.pauseKept_cancelPlayback
      · rw [same]
        exact .of_undisturbed kept
  | selects station automatic plays selected =>
      obtain ⟨told, kept, same | rfl⟩ :=
        Server.selectStation_controls bookkeeping_undisturbed world session selected
      · rw [same]
        exact .of_undisturbed kept
      · exact (PauseKept.of_undisturbed kept).trans (Server.pauseKept_controlPlayback locks .play)
  | stops now stopped =>
      obtain ⟨told, kept, same⟩ :=
        Server.stopPlayback_cancels bookkeeping_undisturbed world session stopped
      rw [same]
      split
      · exact (PauseKept.of_undisturbed kept).trans Server.pauseKept_cancelPlayback
      · exact .of_undisturbed kept
  | controls command changed =>
      rw [changed, Server.changePlayback_app]
      exact Server.pauseKept_controlPlayback locks command

private theorem pauseKept_execute {world : World} {crypt : Text → Text → Text} {session : Nat}
    {server after : Server} {line : CommandLine} (locks : world.mutexLocks = true)
    (inRange : line.InRange) (executed : server.execute world crypt session line = .ok after) :
    PauseKept server.app after.app :=
  relates_of_execute inRange .trans .of_undisturbed (fun _ => .of_controls rfl rfl)
    (CommandEffect.pauseKept locks) executed

/-! ## Refusals -/

/-- None of the lines that are added refuses a command as out of place. -/
def Obliges (before after : Server) : Prop :=
  ∀ message ∈ after.sent, message ∈ before.sent ∨ message.code ≠ .eWrongState

namespace Obliges

variable {world : World} {session : Nat}

theorem refl (server : Server) : Obliges server server := fun _ member => .inl member

theorem trans {first second third : Server} (one : Obliges first second)
    (two : Obliges second third) : Obliges first third := fun message member =>
  (two message member).elim (one message) .inr

theorem withApp (server : Server) (app : Application) : Obliges server (server.withApp app) :=
  .refl server

theorem send (server : Server) (recipient : Recipient) {codes : List ResponseCode}
    (others : ∀ code ∈ codes, code ≠ .eWrongState) :
    Obliges server (server.send recipient codes) := by
  intro message member
  obtain old | new := List.mem_append.mp member
  · exact .inl old
  · obtain ⟨code, there, rfl⟩ := List.mem_map.mp new
    exact .inr (others code there)

theorem reply (server : Server) {code : ResponseCode} (other : code ≠ .eWrongState) :
    Obliges server (server.reply session code) :=
  .send server _ (by simpa using other)

theorem sendResponse (server : Server) {code : ResponseCode} (other : code ≠ .eWrongState) :
    Obliges server (server.sendResponse code) :=
  .send server _ (by simpa using other)

theorem announceAction (server : Server) : Obliges server server.announceAction := by
  unfold Server.announceAction
  split
  · exact .sendResponse server nofun
  · exact .refl server

theorem sendPlaybackStatus (server : Server) (there : Recipient) :
    Obliges server (server.sendPlaybackStatus there) := by
  unfold Server.sendPlaybackStatus
  dsimp only
  split_ifs <;> exact .send server there (by decide)

theorem sendSelectedStation {server after : Server} {there : Recipient}
    (sent : server.sendSelectedStation there = .ok after) : Obliges server after := by
  unfold Server.sendSelectedStation at sent
  split at sent
  · cases sent
  · cases sent
    exact .send server there (by decide)
  · cases sent
    exact .send server there (by decide)

theorem tunerNotice (server : Server) (notice : TunerNotice) :
    Obliges server (Server.tunerNotice world server notice) := by
  cases notice with
  | status text => exact .sendResponse server nofun
  | mixChanged => exact .sendResponse server nofun
  | setQuickmix =>
      unfold Server.tunerNotice Server.pianoTransaction Server.barUiPianoCall
      cases world.failure .setQuickmix with
      | none => exact .refl server
      | some failure => cases failure <;> exact .sendResponse server nofun

theorem recomputeStations {server after : Server}
    (computed : server.recomputeStations world = .ok after) : Obliges server after := by
  have told (notices : List TunerNotice) (server : Server) :
      Obliges server (notices.foldl (Server.tunerNotice world) server) := by
    induction notices generalizing server with
    | nil => exact .refl server
    | cons notice notices ih => exact (tunerNotice server notice).trans (ih _)
  unfold Server.recomputeStations at computed
  split at computed
  · cases computed
  · cases computed
    exact .trans (withApp server _) (told _ _)

/-- A playback command that is refused leaves the wanted state alone. -/
theorem controlPlayback (server : Server) (command : PlaybackCommand) :
    (server.controlPlayback world session command).app.playbackState = server.app.playbackState ∨
      Obliges server (server.controlPlayback world session command) := by
  have settle (told : Server) : Obliges told (if told.app.playbackState = .paused then
      told.withApp { told.app with
        stalled := false
        stallSample := 0
        stallSampleTime := 0 } else told) := by
    split
    · exact .withApp told _
    · exact .refl told
  unfold Server.controlPlayback
  dsimp only
  split
  · split
    · refine .inr (.trans ?_ (settle _))
      exact .trans (withApp server _) ((sendPlaybackStatus _ .service).trans (reply _ (by decide)))
    · refine .inr (.trans ?_ (settle _))
      exact .trans (withApp server _) ((reply _ (by decide)).trans (reply _ (by decide)))
  · split
    · refine .inl ?_
      split <;> rfl
    · refine .inr (.trans ?_ (settle _))
      exact .trans (withApp server _) (reply _ (by decide))

theorem selectStation {server after : Server} {station : Option StationCell}
    {automatic plays : Bool}
    (selected : server.selectStation world session station automatic plays = .ok after) :
    after.app.playbackState = server.app.playbackState ∨ Obliges server after := by
  unfold Server.selectStation at selected
  split at selected
  · cases selected
    exact .inl rfl
  · dsimp only at selected
    split at selected
    · cases selected
    · rename_i told sent
      have announced :=
        (withApp server _).trans ((announceAction _).trans (sendSelectedStation sent))
      have same := Server.sendSelectedStation_app sent
      rw [Server.announceAction_app] at same
      split at selected
      · cases selected
      · rename_i tuned computed
        have obliged := announced.trans (recomputeStations computed)
        have controls :=
          (Server.related_recomputeStations bookkeeping_undisturbed world computed).controls
        rw [same] at controls
        have state : tuned.app.playbackState = server.app.playbackState :=
          congrArg Prod.fst controls
        split at selected
        · cases selected
          obtain kept | more := @controlPlayback world session tuned .play
          · exact .inl (kept.trans state)
          · exact .inr (obliged.trans more)
        · cases selected
          exact .inl state

end Obliges

theorem CommandEffect.refuses {world : World} {session : Nat} {command : Command}
    {server after : Server} (effect : CommandEffect world session command server after) :
    after.app.playbackState = server.app.playbackState ∨ Obliges server after := by
  have kept {before after : Application} (same : after.controls = before.controls) :
      after.playbackState = before.playbackState := congrArg Prod.fst same
  cases effect with
  | undisturbed undisturbed => exact .inl (kept undisturbed.controls)
  | waits event called waited =>
      obtain ⟨-, -, rfl⟩ := Server.waitForEvent_eq_ok waited
      exact .inl rfl
  | quits same =>
      rw [same]
      exact .inl rfl
  | logsOff user same =>
      rw [same]
      exact .inl rfl
  | logsIn middle response undisturbed told =>
      rw [told]
      exact .inl (kept undisturbed.controls)
  | skips skipped =>
      refine .inl ?_
      obtain ⟨told, undisturbed, same | ⟨same, -⟩⟩ :=
        Server.nextSong_cancels bookkeeping_undisturbed world session skipped
      · rw [same]
        exact @kept server.app told.app undisturbed.controls
      · rw [same]
        exact kept undisturbed.controls
  | selects station automatic plays selected => exact Obliges.selectStation selected
  | stops now stopped =>
      refine .inl ?_
      obtain ⟨told, undisturbed, same⟩ :=
        Server.stopPlayback_cancels bookkeeping_undisturbed world session stopped
      rw [same]
      split
      · exact @kept server.app told.app undisturbed.controls
      · exact kept undisturbed.controls
  | controls command changed =>
      rw [changed]
      obtain same | obliges := @Obliges.controlPlayback world session server command
      · exact .inl (by rw [Server.changePlayback_app, same])
      · refine .inr ?_
        unfold Server.changePlayback
        dsimp only
        split
        · exact obliges
        · exact obliges.trans (.announceAction _)

/-- A command line that is refused as out of place leaves the wanted state of playback alone. -/
theorem refuses_execute {world : World} {crypt : Text → Text → Text} {session : Nat}
    {server after : Server} {line : CommandLine} (inRange : line.InRange)
    (executed : server.execute world crypt session line = .ok after) :
    after.app.playbackState = server.app.playbackState ∨ Obliges server after := by
  induction line generalizing server after with
  | plain command => exact (effect_executePlain inRange executed).refuses
  | asUser name password quits line ih =>
      unfold Server.execute at executed
      dsimp only at executed
      split at executed
      · cases executed
      · cases executed
        exact .inl rfl
      · split at executed
        · cases executed
        · rename_i left executing
          cases executed
          split at executing
          · cases executing
            exact .inl rfl
          · obtain same | obliges := ih inRange executing
            · exact .inl same
            · exact .inr obliges

/-! ## Cancelling -/

/-- Skipping and stopping now are refused by a line, or they are executed. -/
theorem cancels_executePlain {world : World} {crypt : Text → Text → Text} {session : Nat}
    {server after : Server} {command : Command} (locks : world.mutexLocks = true)
    (plays : server.app.threadPlays = true) (cancels : (CommandLine.plain command).cancels = true)
    (executed : server.executePlain world crypt session command = .ok after)
    (answered : ⟨.connection session, .sOk⟩ ∈ after.sent) :
    after.app.doQuit = true ∨ ⟨.connection session, .sOk⟩ ∈ server.sent := by
  have refused : after = server.reply session .eUnauthorized →
      after.app.doQuit = true ∨ ⟨.connection session, .sOk⟩ ∈ server.sent := by
    rintro rfl
    exact .inr (by simpa using answered)
  have quit {told : Server} (kept : Undisturbed server.app told.app) :
      (told.cancelPlayback world).app.doQuit = true :=
    Server.doQuit_cancelPlayback locks
      ((Application.threadPlays_congr kept.playerMode).trans plays)
  cases command with
  | nextSong =>
      simp only [Server.executePlain, Server.executeUnprivileged, Command.inOwnerRange,
        Server.executeListener, Server.executeStandard, Bool.false_eq_true, if_false] at executed
      split at executed
      · exact refused (Except.ok.inj executed).symm
      · split at executed
        · exact refused (Except.ok.inj executed).symm
        · obtain ⟨told, kept, same | ⟨-, only⟩⟩ :=
            Server.nextSong_cancels bookkeeping_undisturbed world session executed
          · exact .inl (by rw [same, quit kept])
          · exact .inr (only answered)
  | stopPlayback now =>
      obtain rfl : now = true := cancels
      simp only [Server.executePlain, Server.executeUnprivileged, Command.inOwnerRange,
        Server.executeListener, Server.executeStandard, Bool.false_eq_true, if_false] at executed
      split at executed
      · exact refused (Except.ok.inj executed).symm
      · split at executed
        · exact refused (Except.ok.inj executed).symm
        · obtain ⟨told, kept, same⟩ :=
            Server.stopPlayback_cancels bookkeeping_undisturbed world session executed
          exact .inl (by rw [same, if_pos rfl, quit kept])
  | _ => cases cancels

private theorem cancels_execute {world : World} {crypt : Text → Text → Text} {session : Nat}
    {server after : Server} {line : CommandLine} (locks : world.mutexLocks = true)
    (plays : server.app.threadPlays = true) (cancels : line.cancels = true)
    (executed : server.execute world crypt session line = .ok after)
    (answered : ⟨.connection session, .sOk⟩ ∈ after.sent) :
    after.app.doQuit = true ∨ ⟨.connection session, .sOk⟩ ∈ server.sent := by
  induction line generalizing server after with
  | plain command => exact cancels_executePlain locks plays cancels executed answered
  | asUser name password quits line ih =>
      simp only [CommandLine.cancels, Bool.and_eq_true, Bool.not_eq_true'] at cancels
      unfold Server.execute at executed
      dsimp only at executed
      split at executed
      · cases executed
      · cases executed
        refine .inr ?_
        simpa [Server.closing, Server.setContextUser] using answered
      · split at executed
        · cases executed
        · rename_i left executing
          cases executed
          rw [cancels.1, if_neg Bool.false_ne_true] at executing
          obtain quit | old := ih (by exact plays) cancels.2 executing answered
          · exact .inl quit
          · exact .inr old

/-! ## The loop -/

theorem ControlsKept.pauseKept {before after : LoopState} (kept : ControlsKept before after) :
    PauseKept before.app after.app := .of_controls kept.playerMode kept.controls

namespace LoopState

/-- A song is only fetched and launched while there is no player thread and playback is wanted. -/
def LaunchesPlaying (state : LoopState) : Prop :=
  match state.point with
  | .fetch | .launch _ => state.app.playerMode = .freed ∧ state.app.playbackState = .playing
  | _ => True

/-- What a section of the loop does to the player. -/
structure PlayerKept (before after : LoopState) : Prop where
  agrees : after.app.PauseAgrees
  launches : after.LaunchesPlaying
  doQuit : before.app.playerMode ≠ .freed → after.app.playerMode ≠ .freed →
    before.app.doQuit = true → after.app.doQuit = true

variable {state after : LoopState}

theorem launchesPlaying_of_point (elsewhere : state.point ≠ .fetch ∧
    ∀ newList, state.point ≠ .launch newList) : state.LaunchesPlaying := by
  unfold LaunchesPlaying
  cases point : state.point with
  | fetch => exact absurd point elsewhere.1
  | launch newList => exact absurd point (elsewhere.2 newList)
  | _ => trivial

theorem PlayerKept.of_kept (agrees : state.app.PauseAgrees) (kept : PauseKept state.app after.app)
    (launches : after.LaunchesPlaying) : PlayerKept state after :=
  ⟨kept.agrees agrees, launches, fun _ _ => kept.doQuit⟩

/-- Without a player thread, there are no flags to look at. -/
theorem PlayerKept.of_freed (freed : after.app.playerMode = .freed)
    (launches : after.LaunchesPlaying) : PlayerKept state after :=
  ⟨fun active => absurd freed active, launches, fun _ active => absurd freed active⟩

/-- A pause that lasts too long cancels playback. -/
theorem pauseKept_checkPlayerStatus {world : LoopWorld}
    (checked : state.checkPlayerStatus world = .ok after) :
    PauseKept state.app after.app ∧ after.point = state.point := by
  cases announcing : state.broadcastStatus with
  | true =>
      unfold checkPlayerStatus at checked
      rw [if_pos announcing] at checked
      split at checked
      · cases checked
      · obtain ⟨server, handled, rfl⟩ := serve_ok checked
        cases handled
        exact ⟨.of_controls rfl rfl, rfl⟩
  | false =>
      cases wanted : state.app.playbackState with
      | playing =>
          have kept := controlsKept_watch wanted announcing checked
          exact ⟨kept.pauseKept, kept.point⟩
      | paused =>
          unfold checkPlayerStatus at checked
          rw [announcing, if_neg Bool.false_ne_true, wanted] at checked
          dsimp only at checked
          split at checked
          · obtain ⟨server, handled, rfl⟩ := serve_ok checked
            cases handled
            exact ⟨@Server.pauseKept_cancelPlayback world.world ⟨state.app, []⟩, rfl⟩
          · cases checked
            exact ⟨.refl _, rfl⟩

theorem pauseKept_checkSignal {world : World} (checked : state.checkSignal world = .ok after) :
    PauseKept state.app after.app ∧ after.point = state.point := by
  unfold checkSignal at checked
  split at checked
  · obtain ⟨server, handled, rfl⟩ := serve_ok checked
    cases handled
    exact ⟨⟨rfl, id, fun quit => Bool.or_eq_true_iff.mpr (.inl quit)⟩, rfl⟩
  · cases checked
    exact ⟨.refl _, rfl⟩

/-- Whatever the service reports, the flags follow the wanted state. -/
theorem pauseKept_runService {world : World} {crypt : Text → Text → Text} {event : ServiceEvent}
    (locks : world.mutexLocks = true) (served : state.runService world crypt event = .ok after) :
    PauseKept state.app after.app ∧ (after.point = state.point ∨ after.point = .stopped) := by
  unfold runService at served
  cases event with
  | connect =>
      dsimp only at served
      split at served
      · cases served
      · cases served
        exact ⟨.of_controls rfl rfl, .inl rfl⟩
  | close session =>
      obtain ⟨server, handled, rfl⟩ := serve_ok served
      have tuned := PauseKept.of_undisturbed
        (Server.related_recomputeStations bookkeeping_undisturbed world handled)
      refine ⟨.trans ?_ tuned, .inl rfl⟩
      exact .of_controls rfl rfl
  | input session line inRange =>
      obtain ⟨server, handled, rfl⟩ := serve_ok served
      exact ⟨pauseKept_execute locks inRange handled, .inl rfl⟩
  | stopped =>
      cases served
      exact ⟨.refl _, .inr rfl⟩
  | timeout =>
      cases served
      exact ⟨.refl _, .inl rfl⟩

private theorem shutdownSignalled_runService {world : World} {crypt : Text → Text → Text}
    {event : ServiceEvent} (served : state.runService world crypt event = .ok after) :
    after.shutdownSignalled = state.shutdownSignalled := by
  unfold runService at served
  cases event with
  | connect =>
      dsimp only at served
      split at served <;> cases served
      rfl
  | close session | input session line inRange =>
      obtain ⟨server, handled, rfl⟩ := serve_ok served
      rfl
  | stopped | timeout =>
      cases served
      rfl

/-- The thread starts with the flags of a player that is not paused, and so it was wanted. -/
theorem playerKept_launch {streams newList : Bool} (launches : state.app.playerMode = .freed ∧
    state.app.playbackState = .playing) (launched : state.launch streams newList = .ok after) :
    PlayerKept state after := by
  unfold launch playbackStart at launched
  dsimp only [withApp] at launched
  split at launched
  · cases launched
  · rename_i started starting
    cases launched
    split at starting
    · cases starting
    · split at starting
      · cases starting
      · split at starting
        · cases starting
          exact .of_freed launches.1 (launchesPlaying_of_point (by simp [goto]))
        · cases starting
          refine ⟨fun _ => ?_, launchesPlaying_of_point (by simp [goto]), fun active =>
            absurd launches.1 active⟩
          simp [goto, launches.2]

/-- Fetching songs touches only the songs. -/
theorem playerKept_fetch {world : LoopWorld} (agrees : state.app.PauseAgrees)
    (launches : state.app.playerMode = .freed ∧ state.app.playbackState = .playing)
    (fetched : state.fetch world = .ok after) : PlayerKept state after := by
  have arrives (last : LoopState) (kept : ControlsKept state last) : PlayerKept state
      (last.goto (if last.app.playlist.isEmpty then .monitor
        else .launch state.app.playlist.isEmpty)) := by
    refine .of_kept agrees kept.pauseKept ?_
    split
    · exact trivial
    · exact ⟨kept.playerMode.trans launches.1, (congrArg Prod.fst kept.controls).trans launches.2⟩
  unfold fetch at fetched
  dsimp only at fetched
  split at fetched
  · cases fetched
  · rename_i last fetching
    cases fetched
    refine arrives last ?_
    split at fetching
    · split at fetching
      · cases fetching
      · rename_i updated
        refine (controlsKept_updateStationList updated).trans ?_
        split at fetching
        · exact controlsKept_getPlayList fetching
        · cases fetching
          exact .refl _
    · cases fetching
      exact .refl _

private theorem playerKept_startUp (agrees : state.app.PauseAgrees)
    (started : state.startUp = .ok after) : PlayerKept state after := by
  have monitor (app : Application) (kept : PauseKept state.app app) :
      PlayerKept state ((state.withApp app).goto .monitor) :=
    .of_kept agrees kept trivial
  unfold startUp at started
  dsimp only at started
  split at started
  · cases started
    exact monitor state.app (.refl _)
  · rename_i freed
    split at started
    · cases started
      exact .of_kept agrees (.refl _) trivial
    · split at started
      · cases started
        exact .of_freed (not_not.mp freed) trivial
      · split at started
        · cases started
          exact monitor state.app (.refl _)
        · split at started
          · rename_i playing
            split at started
            · cases started
            · rename_i last purged
              cases started
              have kept := controlsKept_purgeUnselectedSongs purged
              refine .of_kept agrees kept.pauseKept ?_
              exact ⟨kept.playerMode.trans (not_not.mp freed),
                (congrArg Prod.fst kept.controls).trans playing⟩
          · cases started
            exact monitor state.app (.refl _)

private theorem playbackCleanup_ok {ret : PlayerReturn}
    (cleaned : state.playbackCleanup ret = .ok after) :
    after.app.playerMode = .freed ∧ after.point = state.point := by
  unfold playbackCleanup at cleaned
  split at cleaned
  · cases cleaned
  · obtain ⟨server, handled, rfl⟩ := serve_ok cleaned
    cases handled
    unfold prependHistory
    dsimp only
    split <;> exact ⟨rfl, rfl⟩

/-- One case for each section: the flags follow the wanted state through all of them. -/
theorem playerKept_proceed {crypt : Text → Text → Text} {world : LoopWorld}
    (locks : world.world.mutexLocks = true) (agrees : state.app.PauseAgrees)
    (launches : state.LaunchesPlaying) (proceeded : state.proceed crypt world = .ok after) :
    PlayerKept state after := by
  have elsewhere {point : LoopSection} (same : after.point = point)
      (other : point ≠ .fetch ∧ ∀ newList, point ≠ .launch newList) : after.LaunchesPlaying :=
    launchesPlaying_of_point (by rw [same]; exact other)
  unfold proceed at proceeded
  unfold LaunchesPlaying at launches
  cases point : state.point with
  | cleanup =>
      rw [point] at proceeded
      dsimp only at proceeded
      split at proceeded
      · obtain ⟨freed, same⟩ := playbackCleanup_ok proceeded
        exact .of_freed freed (elsewhere same (by simp [goto]))
      · cases proceeded
        exact .of_kept agrees (.refl _) trivial
  | settings =>
      rw [point] at proceeded
      dsimp only at proceeded
      split at proceeded
      · cases proceeded
        have changed := (@controlsKept_changePianoSettings (state.withApp { state.app with
          pianoparamChangePending := false }) world.initialises).pauseKept
        refine .of_kept agrees (.trans ?_ changed) trivial
        exact .of_controls rfl rfl
      · cases proceeded
        exact .of_kept agrees (.refl _) trivial
  | login =>
      rw [point] at proceeded
      dsimp only at proceeded
      split at proceeded
      · obtain ⟨server, switched, rfl⟩ := serve_ok proceeded
        have login := @HandlerEffect.of_login _ bookkeeping_undisturbed world.world
          state.app.contexts.length ⟨state.app, []⟩ ⟨state.app, []⟩ server .nop server (.refl _)
          switched rfl
        have effect := CommandEffect.of_handler (show Command.nop.InRange from trivial) login
        exact .of_kept agrees (effect.pauseKept locks) trivial
      · cases proceeded
        exact .of_kept agrees (.refl _) trivial
  | ready =>
      rw [point] at proceeded
      exact playerKept_startUp agrees proceeded
  | fetch =>
      rw [point] at proceeded launches
      exact playerKept_fetch agrees launches proceeded
  | launch newList =>
      rw [point] at proceeded launches
      exact playerKept_launch launches proceeded
  | announce newList =>
      rw [point] at proceeded
      dsimp only [announce] at proceeded
      split at proceeded
      · cases proceeded
      · split at proceeded
        · have kept := controlsKept_applyStationInfo proceeded
          exact .of_kept agrees kept.pauseKept (elsewhere kept.point (by simp [goto]))
        · cases proceeded
          exact .of_kept agrees (.refl _) trivial
  | monitor =>
      rw [point] at proceeded
      dsimp only at proceeded
      split at proceeded
      · obtain ⟨kept, same⟩ := pauseKept_checkPlayerStatus proceeded
        exact .of_kept agrees kept (elsewhere same (by simp [goto]))
      · cases proceeded
        exact .of_kept agrees (.refl _) trivial
  | expire =>
      rw [point] at proceeded
      cases proceeded
      exact .of_kept agrees (controlsKept_expire world.world.now).pauseKept trivial
  | service =>
      rw [point] at proceeded
      dsimp only at proceeded
      split at proceeded
      · cases proceeded
      · rename_i middle served
        obtain ⟨kept, there⟩ := pauseKept_runService locks served
        obtain ⟨signalled, same⟩ := pauseKept_checkSignal proceeded
        refine .of_kept agrees (kept.trans signalled) ?_
        obtain cleanup | stopped := there
        · exact elsewhere (same.trans cleanup) (by simp [goto])
        · exact elsewhere (same.trans stopped) (by simp)
  | stopped =>
      rw [point] at proceeded
      cases proceeded
      exact .of_kept agrees (.refl _) (elsewhere point (by simp))

private theorem playerKept_advance (agrees : state.app.PauseAgrees)
    (launches : state.LaunchesPlaying)
    (mode : PlayerMode) : PlayerKept state (state.advance mode) := by
  unfold advance
  split
  · rename_i later
    refine ⟨fun _ => agrees later.1, ?_, fun _ _ => id⟩
    unfold LaunchesPlaying at launches ⊢
    dsimp only [withApp]
    split
    · rename_i point
      rw [point] at launches
      exact absurd launches.1 later.1
    · rename_i point
      rw [point] at launches
      exact absurd launches.1 later.1
    · trivial
  · exact .of_kept agrees (.refl _) launches

private theorem playerKept_step {crypt : Text → Text → Text} {action : LoopAction}
    (locks : action.Locks) (agrees : state.app.PauseAgrees) (launches : state.LaunchesPlaying)
    (stepped : state.step crypt action = .ok after) : PlayerKept state after := by
  cases action with
  | proceed world => exact playerKept_proceed locks agrees launches stepped
  | advance mode =>
      cases stepped
      exact playerKept_advance agrees launches mode
  | signal =>
      cases stepped
      exact .of_kept agrees (.refl _) launches

/-- A thread that plays when playback is cancelled is told so. -/
theorem doQuit_of_cancels {crypt : Text → Text → Text} {action : LoopAction}
    (locks : action.Locks) (plays : state.app.threadPlays = true)
    (cancels : state.cancels crypt action = true)
    (stepped : state.step crypt action = .ok after) : after.app.doQuit = true := by
  cases action with
  | advance mode => cases cancels
  | signal => cases cancels
  | proceed world =>
      dsimp only [step, proceed] at stepped
      dsimp only [LoopState.cancels] at cancels
      cases point : state.point with
      | monitor =>
          rw [point] at cancels stepped
          dsimp only at cancels stepped
          simp only [Bool.and_eq_true, Bool.not_eq_true', decide_eq_true_eq] at cancels
          obtain ⟨⟨⟨⟨announced, paused⟩, ready⟩, since⟩, late⟩ := cancels
          have unfinished := (of_decide_eq_true plays).2
          rw [if_pos ⟨ready, unfinished⟩] at stepped
          unfold checkPlayerStatus at stepped
          rw [if_neg (by simp [goto, announced])] at stepped
          rw [show (state.goto .expire).app.playbackState = .paused from paused] at stepped
          dsimp only at stepped
          split at stepped
          · obtain ⟨server, handled, rfl⟩ := serve_ok stepped
            cases handled
            exact @Server.doQuit_cancelPlayback world.world ⟨state.app, []⟩ locks plays
          · rename_i early
            exact absurd ⟨since, late⟩ early
      | service =>
          rw [point] at cancels stepped
          dsimp only at cancels stepped
          split at stepped
          · cases stepped
          · rename_i middle served
            obtain ⟨kept, -⟩ := pauseKept_runService locks served
            obtain ⟨signalled, -⟩ := pauseKept_checkSignal stepped
            obtain shutdown | commanded := Bool.or_eq_true_iff.mp cancels
            · have signal := (shutdownSignalled_runService served).trans shutdown
              unfold checkSignal at stepped
              rw [if_pos signal] at stepped
              obtain ⟨server, handled, rfl⟩ := serve_ok stepped
              cases handled
              exact @Server.doQuit_cancelPlayback world.world ⟨_, []⟩ locks
                ((Application.threadPlays_congr (by exact kept.playerMode)).trans plays)
            · split at commanded
              · rename_i session line inRange reported
                rw [reported] at served
                dsimp only [runService] at served
                obtain ⟨server, executed, rfl⟩ := serve_ok served
                rw [show Server.execute world.world crypt ⟨state.app, []⟩ session line = .ok server
                  from executed] at commanded
                simp only [Bool.and_eq_true, List.contains_iff_mem] at commanded
                obtain quit | old := cancels_execute locks plays commanded.1 executed commanded.2
                · exact signalled.doQuit quit
                · cases old
              · cases commanded
      | _ =>
          rw [point] at cancels
          cases cancels

end LoopState

namespace WatchedLoop

/-- The invariant of the watched loop. -/
structure Kept (watched : WatchedLoop) : Prop where
  agrees : watched.loop.app.PauseAgrees
  launches : watched.loop.LaunchesPlaying
  cancelled : watched.cancelled = true →
    watched.loop.app.playerMode ≠ .freed ∧ watched.loop.app.doQuit = true

variable {crypt : Text → Text → Text} {watched after : WatchedLoop}

theorem kept_step {action : LoopAction} (kept : watched.Kept) (locks : action.Locks)
    (stepped : watched.step crypt action = .ok after) : after.Kept := by
  obtain ⟨last, moved, rfl⟩ := FallibleRun.map_ok_iff.mp stepped
  have player := LoopState.playerKept_step locks kept.agrees kept.launches moved
  refine ⟨player.agrees, player.launches, fun cancelled => ?_⟩
  simp only [Bool.and_eq_true, Bool.or_eq_true, decide_eq_true_eq] at cancelled
  obtain ⟨active, earlier | ⟨plays, now⟩⟩ := cancelled
  · obtain ⟨started, quit⟩ := kept.cancelled earlier
    exact ⟨active, player.doQuit started active quit⟩
  · exact ⟨active, LoopState.doQuit_of_cancels locks plays now moved⟩

theorem kept_initial (app : Application) : (initial app).Kept :=
  ⟨fun active => absurd rfl active, trivial, nofun⟩

private theorem Kept.coherent (kept : watched.Kept) : PauseCoherent crypt watched where
  agrees := kept.agrees
  refused := by
    intro world session line after inRange executed ⟨recipient, refusal⟩
    obtain same | obliges := refuses_execute inRange executed
    · exact same
    · obtain old | other := obliges _ refusal
      · cases old
      · exact absurd rfl other
  cancelled := by
    intro cancelled
    have quit := (kept.cancelled cancelled).2
    refine ⟨quit, ?_⟩
    unfold Application.checkPauseQuit
    rw [if_pos quit]
    split <;> nofun

end WatchedLoop

/-- In every state that is reached, the pause flag is the wanted state while there is a player
thread, a command that is refused as out of place leaves the wanted state alone, and a thread that
was cancelled or skipped is told to quit. -/
theorem pauseCoherent_of_run {crypt : Text → Text → Text} {app : Application}
    {actions : List LoopAction} {watched : WatchedLoop} (locks : ∀ action ∈ actions, action.Locks)
    (arrives : FallibleRun.run (WatchedLoop.step crypt) (.initial app) actions = .ok watched) :
    PauseCoherent crypt watched := by
  have guarded : FallibleRun.Guarded (WatchedLoop.step crypt) (fun _ action => action.Locks)
      (.initial app) actions := FallibleRun.guarded_of_mem locks _
  exact (guarded.invariant WatchedLoop.Kept
    (fun _ _ _ kept admitted stepped => WatchedLoop.kept_step kept admitted stepped)
    (WatchedLoop.kept_initial app) arrives).coherent

/-! ## A skipped pause -/

/-- The world of a section in which a command is given, or none. -/
def sampleEvent (event : ServiceEvent) : LoopAction :=
  .proceed { sampleLoopWorld (some (ascii "http")) with event := event }

/-- Playback is started, and paused before the player thread reads data; then the song
is skipped. -/
def samplePauses : List LoopAction :=
  List.replicate 7 (sampleEvent (.input 0 (.plain .play) trivial)) ++
    List.replicate 10 (sampleEvent (.input 0 (.plain .pausePlayback) trivial)) ++
    [.advance .recvData] ++ List.replicate 7 (sampleEvent (.input 0 (.plain .nextSong) trivial))

theorem samplePauses_coherent : ∃ watched,
    FallibleRun.run (WatchedLoop.step fun _ salt => salt) (.initial (sampleApplication .standard))
      samplePauses = .ok watched ∧
      PauseCoherent (fun _ salt => salt) watched ∧ watched.cancelled = true ∧
      watched.loop.app.playbackState = .paused := by
  have locks : ∀ action ∈ samplePauses, action.Locks := by
    intro action member
    simp only [samplePauses, List.mem_append, List.mem_replicate, List.mem_singleton] at member
    obtain ((⟨-, rfl⟩ | ⟨-, rfl⟩) | rfl) | ⟨-, rfl⟩ := member
    · rfl
    · rfl
    · trivial
    · rfl
  obtain ⟨watched, arrives, cancelled, paused⟩ : ∃ watched,
      FallibleRun.run (WatchedLoop.step fun _ salt => salt)
        (.initial (sampleApplication .standard)) samplePauses = .ok watched ∧
      watched.cancelled = true ∧ watched.loop.app.playbackState = .paused := ⟨_, rfl, rfl, rfl⟩
  exact ⟨watched, arrives, pauseCoherent_of_run locks arrives, cancelled, paused⟩

end Pianod
