import Pianod.Server.SongsKept

/-!
# What a command comes to

Nearly all commands leave the songs, the player and the connections alone.  The others either
control the player, or start or end the waiting and the sessions of connections.
-/

namespace Pianod

open Foundation

/-- What executing a command comes to, with regard to the songs, the player and the connections. -/
inductive CommandEffect (world : World) (session : Nat) (command : Command)
    (before after : Server) : Prop where
  | undisturbed (kept : Undisturbed before.app after.app)
  | waits (event : WaitEvent) (called : before.waitCommand session command = some event)
      (waited : before.waitForEvent session event = .ok after)
  | quits (same : after.app = (before.closing session).app)
  | logsOff (user : Option UserRef) (same : after.app = (before.userLogoff user).app)
  /-- Credentials were accepted or rejected. -/
  | logsIn (middle : Server) (response : ResponseCode) (kept : Undisturbed before.app middle.app)
      (told : after.app = (middle.eventOccurred .authenticated response).app)
  | skips (skipped : before.nextSong world session = .ok after)
  | selects (station : Option StationCell) (automatic plays : Bool)
      (selected : before.selectStation world session station automatic plays = .ok after)
  | stops (now : Bool) (stopped : before.stopPlayback world session now = .ok after)
  | controls (command : PlaybackCommand)
      (changed : after = before.changePlayback world session command)

namespace CommandEffect

variable {world : World} {session : Nat} {command : Command} {before after : Server}

theorem of_handler (inRange : command.InRange)
    (effect : HandlerEffect Undisturbed world session command before after) :
    CommandEffect world session command before after := by
  cases effect with
  | bookkeeping kept => exact .undisturbed kept
  | waits event called waited => exact .waits event called waited
  | quits same => exact .quits same
  | logsOff user same => exact .logsOff user same
  | logsIn middle response kept told => exact .logsIn middle response kept told
  | skips skipped => exact .skips skipped
  | selects station automatic plays selected => exact .selects station automatic plays selected
  | stops now stopped => exact .stops now stopped
  | controls command changed => exact .controls command changed
  | adjusts settings given kept =>
      have set : Undisturbed before.app { before.app with settings := settings } := by
        refine ⟨⟨rfl, rfl, rfl, rfl, fun positive => ?_⟩, rfl, rfl, rfl⟩
        cases command with
        | setHistorySize length =>
            cases given
            exact inRange.1
        | setVolume level =>
            obtain ⟨volume, -, rfl⟩ := given
            exact positive
        | setPauseTimeout | setPlaylistTimeout | setPandoraRetry | autotuneSetMode =>
            cases given
            exact positive
        | _ => exact given.elim
      exact .undisturbed (set.trans kept)

end CommandEffect

section Commands

variable {world : World} {crypt : Text → Text → Text} {session : Nat} {server after : Server}

/-- What a command comes to, whoever gives it. -/
theorem effect_executePlain {command : Command} (inRange : command.InRange)
    (executed : server.executePlain world crypt session command = .ok after) :
    CommandEffect world session command server after :=
  .of_handler inRange (handlerEffect_executePlain bookkeeping_undisturbed executed)

/-- What holds across every command holds across a command line, if it holds when a connection is
closed beforehand, whoever is logged in there. -/
theorem relates_of_execute {relates : Application → Application → Prop} {line : CommandLine}
    (inRange : line.InRange)
    (trans : ∀ {first second third}, relates first second → relates second third →
      relates first third)
    (undisturbed : ∀ {before after}, Undisturbed before after → relates before after)
    (closes : ∀ server : Server, relates server.app (server.closing session).app)
    (effect : ∀ {command : Command} {before after : Server},
      CommandEffect world session command before after → relates before.app after.app)
    (executed : server.execute world crypt session line = .ok after) :
    relates server.app after.app := by
  have enters (server : Server) (user : Option UserRef) :
      relates server.app (server.setContextUser session user).app :=
    undisturbed (.modifyContext server.app session fun _ => rfl)
  induction line generalizing server after with
  | plain command => exact effect (effect_executePlain inRange executed)
  | asUser name password quits line ih =>
      have closed := closes server
      unfold Server.execute at executed
      dsimp only at executed
      split at executed
      · cases executed
      · cases executed
        exact trans closed (enters _ none)
      · rename_i user entered
        split at executed
        · cases executed
        · rename_i left executing
          cases executed
          refine trans closed (trans (enters _ (some (.listed user.serial))) (trans ?_
            (enters left none)))
          split at executing
          · cases executing
            exact undisturbed (.refl _)
          · exact ih inRange executing

namespace CommandEffect

/-- A command leaves the songs where they are. -/
theorem songsKept {command : Command} (effect : CommandEffect world session command server after) :
    SongsKept server.app after.app := by
  cases effect with
  | undisturbed kept => exact kept.toSongsKept
  | waits event called waited =>
      obtain ⟨-, -, rfl⟩ := Server.waitForEvent_eq_ok waited
      exact ⟨rfl, rfl, rfl, rfl, id⟩
  | quits same =>
      rw [same]
      exact ⟨rfl, rfl, rfl, rfl, id⟩
  | logsOff user same =>
      rw [same]
      exact ⟨rfl, rfl, rfl, rfl, id⟩
  | logsIn middle response kept told =>
      rw [told]
      exact kept.toSongsKept.trans (middle.songsKept_eventOccurred .authenticated response)
  | skips skipped =>
      obtain ⟨told, kept, same | ⟨same, -⟩⟩ :=
        Server.nextSong_cancels bookkeeping_undisturbed world session skipped
      · rw [same]
        exact kept.toSongsKept.trans (told.songsKept_cancelPlayback world)
      · rw [same]
        exact kept.toSongsKept
  | selects station automatic plays selected =>
      obtain ⟨told, kept, same | rfl⟩ :=
        Server.selectStation_controls bookkeeping_undisturbed world session selected
      · rw [same]
        exact kept.toSongsKept
      · exact kept.toSongsKept.trans (told.songsKept_controlPlayback world session .play)
  | stops now stopped =>
      obtain ⟨told, kept, same⟩ :=
        Server.stopPlayback_cancels bookkeeping_undisturbed world session stopped
      rw [same]
      split
      · exact kept.toSongsKept.trans (told.songsKept_cancelPlayback world)
      · exact kept.toSongsKept
  | controls command changed =>
      rw [changed, Server.changePlayback_app]
      exact server.songsKept_controlPlayback world session command

end CommandEffect

/-- A command line leaves the songs where they are, however many users it is executed on behalf
of. -/
theorem songsKept_execute {line : CommandLine} (inRange : line.InRange)
    (executed : server.execute world crypt session line = .ok after) :
    SongsKept server.app after.app :=
  relates_of_execute inRange .trans Undisturbed.toSongsKept (fun _ => ⟨rfl, rfl, rfl, rfl, id⟩)
    CommandEffect.songsKept executed

end Commands

end Pianod
