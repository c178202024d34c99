import Pianod.Server.Bookkeeping

/-!
# What handlers come to

Nearly all commands only write to the records that handlers keep.  The others control the player,
start or end the waiting and the sessions of connections, or set a number.
-/

namespace Pianod

open Foundation

/-- The event that a command makes its connection wait for, as far as the command gets to that. -/
def Server.waitCommand (server : Server) (session : Nat) (command : Command) : Option WaitEvent :=
  if !server.app.haveRank session .listener then none
  else
    match command with
    | .waitForEndOfSong => if server.app.currentSong.isSome then some .trackEnded else none
    | .waitForNextSong => some .trackStarted
    | .waitForAuthentication =>
        if server.app.havePrivilege session .service &&
            server.app.settings.pending.username.isSome then some .authenticated
        else none
    | _ => none

/-- The commands that set a number, and what they make of the settings. -/
def Command.Adjusts (before : Settings) : Command → Settings → Prop
  | .setVolume level, after =>
      ∃ volume, Server.newVolume before.volume level = some volume ∧
        after = { before with volume := volume }
  | .setHistorySize length, after => after = { before with historyLength := length }
  | .setPauseTimeout duration, after => after = { before with pauseTimeout := duration }
  | .setPlaylistTimeout duration, after => after = { before with playlistExpiration := duration }
  | .setPandoraRetry duration, after => after = { before with pandoraRetry := duration }
  | .autotuneSetMode mode, after => after = { before with automaticMode := mode }
  | _, _ => False

/-- What executing a command comes to, up to a relation that holds across the writing of records. -/
inductive HandlerEffect (relates : Application → Application → Prop) (world : World)
    (session : Nat) (command : Command) (before after : Server) : Prop where
  | bookkeeping (kept : relates before.app after.app)
  | waits (event : WaitEvent) (called : before.waitCommand session command = some event)
      (waited : before.waitForEvent session event = .ok after)
  | quits (same : after.app = (before.closing session).app)
  | logsOff (user : Option UserRef) (same : after.app = (before.userLogoff user).app)
  /-- Credentials were accepted or rejected. -/
  | logsIn (middle : Server) (response : ResponseCode) (kept : relates before.app middle.app)
      (told : after.app = (middle.eventOccurred .authenticated response).app)
  | skips (skipped : before.nextSong world session = .ok after)
  | selects (station : Option StationCell) (automatic plays : Bool)
      (selected : before.selectStation world session station automatic plays = .ok after)
  | stops (now : Bool) (stopped : before.stopPlayback world session now = .ok after)
  | controls (command : PlaybackCommand)
      (changed : after = before.changePlayback world session command)
  | adjusts (settings : Settings) (given : command.Adjusts before.app.settings settings)
      (kept : relates { before.app with settings := settings } after.app)

section Commands

variable {relates : Application → Application → Prop} (kept : Bookkeeping relates)
  {world : World} {crypt : Text → Text → Text} {session : Nat} {server middle after : Server}

include kept

theorem HandlerEffect.of_eq {command : Command} (same : after.app = server.app) :
    HandlerEffect relates world session command server after :=
  .bookkeeping (kept.of_eq same)

/-- A login that was tried, whatever else is answered then. -/
theorem HandlerEffect.of_login {command : Command} {last : Server}
    (changed : relates server.app middle.app)
    (switched : middle.setPandoraUser world session = .ok last) (same : after.app = last.app) :
    HandlerEffect relates world session command server after := by
  obtain quiet | ⟨told, response, quiet, rfl⟩ :=
    Server.setPandoraUser_tells kept world session switched
  · rw [← same] at quiet
    exact .bookkeeping (kept.trans changed quiet)
  · exact .logsIn told response (kept.trans changed quiet) same

private theorem related_executeOwner {command : Command}
    (executed : server.executeOwner world session command = .ok after) :
    relates server.app after.app := by
  cases command with
  | stationInfo name =>
      simp only [Server.executeOwner] at executed
      split at executed
      · cases executed
      · rename_i found
        cases executed
        exact Server.related_getStationByNameOrCurrent kept session found
      · rename_i found
        cases executed
        exact kept.trans (Server.related_getStationByNameOrCurrent kept session found)
          (Server.related_sendStationInfo kept world session _ _)
  | stationRename name newName => exact Server.related_renameStation kept world session executed
  | stationDelete name =>
      cases executed
      exact Server.related_deleteStation kept world session server name
  | stationCreateBySong | stationCreateBySongWName =>
      cases executed
      exact Server.related_createStationFromSong kept world session server _ _
  | stationCreate | stationCreateWName =>
      cases executed
      exact Server.related_createStationFromSuggestion kept world session server _ _
  | stationCreateById | stationCreateByIdWName =>
      cases executed
      exact Server.related_createStationFromShared kept world session server _ _
  | getSuggestions kind term =>
      cases executed
      exact Server.related_performQuery kept world session server kind term
  | rateLove | rateHate | rateNeutral | rateOverplayed =>
      cases executed
      exact Server.related_rateSong kept world session server _ _
  | seedAdd | seedAddWStation => exact Server.related_addSeed kept world session executed
  | seedDeleteBySong artist songId =>
      cases executed
      exact Server.related_removeSongSeed kept world session server artist songId
  | seedDeleteById seedId =>
      cases executed
      exact Server.related_removeSeed kept world session server seedId
  | seedAddBySong | seedAddBySongWStation =>
      cases executed
      exact Server.related_addSongSeed kept world session server _ _ _
  | explainSongChoice songId =>
      cases executed
      exact Server.related_explainSongChoice kept world session server songId
  | createBookmark artist songId =>
      cases executed
      exact Server.related_createBookmark kept world session server artist songId
  | _ =>
      cases executed
      exact kept.refl _

private theorem handlerEffect_executeListener {command : Command}
    (listener : server.app.haveRank session .listener = true)
    (executed : server.executeListener world crypt session command = some (.ok after)) :
    HandlerEffect relates world session command server after := by
  cases command with
  | stationRate rating name =>
      simp only [Server.executeListener, Option.some.injEq] at executed
      split at executed
      · cases executed
        exact .of_eq kept rfl
      · exact .bookkeeping (Server.related_rateStation kept world session executed)
  | setMyPassword old new =>
      simp only [Server.executeListener, Option.some.injEq] at executed
      split at executed
      · cases executed
        exact .of_eq kept rfl
      · exact .bookkeeping (Server.related_changePassword kept world session executed)
  | waitForEndOfSong =>
      simp only [Server.executeListener, Option.some.injEq] at executed
      split at executed
      · rename_i playing
        exact .waits .trackEnded (by simp [Server.waitCommand, listener, playing]) executed
      · cases executed
        exact .of_eq kept rfl
  | parseFailure | parseIncomplete | parseInvalidKeyword | parseNumeric | parseRange
  | parseExtraTerms | nop | yell | getVolume | autotuneGetMode | getHistorySize
  | getAudioQuality | timeStatus | queryHistory | queryQueue | quickMixIncluded
  | quickMixExcluded | stationList =>
      simp only [Server.executeListener, Option.some.injEq, Except.ok.injEq] at executed
      subst executed
      exact .of_eq kept (by simp)
  | queryStatus =>
      simp only [Server.executeListener, Option.some.injEq] at executed
      exact .of_eq kept (Server.queryStatus_app executed)
  | stationRatings name =>
      simp only [Server.executeListener, Option.some.injEq] at executed
      split at executed
      · cases executed
        exact .of_eq kept rfl
      · exact .of_eq kept (Server.sendStationRatings_app executed)
  | waitForNextSong =>
      simp only [Server.executeListener, Option.some.injEq] at executed
      exact .waits .trackStarted (by simp [Server.waitCommand, listener]) executed
  | waitForAuthentication =>
      simp only [Server.executeListener, Option.some.injEq] at executed
      split at executed
      · rename_i service
        split at executed
        · rename_i pending
          exact .waits .authenticated (by simp [Server.waitCommand, listener, service, pending])
            executed
        · cases executed
          exact .of_eq kept rfl
      · cases executed
        exact .of_eq kept rfl
  | usersOnline | userListPandora | autotuneUsersList =>
      simp only [Server.executeListener, Option.some.injEq, Except.ok.injEq] at executed
      subst executed
      split <;> exact .of_eq kept (by simp)
  | pandoraUser | pandoraUserSpecify =>
      simp only [Server.executeListener, Option.some.injEq] at executed
      split at executed
      · have announced := kept.of_eq server.announceAction_app
        obtain refused | ⟨middle, changed, switched⟩ :=
          Server.acceptNewCredentials_tries kept world session executed
        · exact .bookkeeping (kept.trans announced refused)
        · exact .of_login kept (kept.trans announced changed) switched rfl
      · cases executed
        exact .of_eq kept rfl
  | pandoraExisting name =>
      simp only [Server.executeListener, Option.some.injEq] at executed
      split at executed
      · obtain refused | ⟨middle, last, changed, switched, same⟩ :=
          Server.restoreCredentials_tries kept world session executed
        · exact .bookkeeping refused
        · exact .of_login kept changed switched same
      · cases executed
        exact .of_eq kept rfl
  | autotuneUsers | autotuneAddRemove =>
      simp only [Server.executeListener, Option.some.injEq] at executed
      split at executed
      · exact .bookkeeping (Server.related_autotune kept world session executed)
      · cases executed
        exact .of_eq kept rfl
  | _ => cases executed

private theorem handlerEffect_executeUnprivileged {command : Command}
    (executed : server.executeUnprivileged world crypt session command = some (.ok after)) :
    HandlerEffect relates world session command server after := by
  cases command with
  | help | getUserRank =>
      simp only [Server.executeUnprivileged, Option.some.injEq, Except.ok.injEq] at executed
      subst executed
      exact .of_eq kept (by simp)
  | quit =>
      simp only [Server.executeUnprivileged, Option.some.injEq, Except.ok.injEq] at executed
      subst executed
      exact .quits rfl
  | authenticate name password =>
      simp only [Server.executeUnprivileged, Option.some.injEq] at executed
      exact .bookkeeping (Server.related_authenticate kept world session executed)
  | _ => cases executed

private theorem handlerEffect_executeStandard {command : Command}
    (executed : server.executeStandard world session command = some (.ok after)) :
    HandlerEffect relates world session command server after := by
  cases command with
  | setVolume level =>
      simp only [Server.executeStandard, Option.some.injEq, Except.ok.injEq] at executed
      subst executed
      rw [Server.setVolume_eq]
      split
      · exact .of_eq kept rfl
      · rename_i volume accepted
        exact .adjusts { server.app.settings with volume := volume } ⟨volume, accepted, rfl⟩
          (kept.refl _)
  | nextSong =>
      simp only [Server.executeStandard, Option.some.injEq] at executed
      exact .skips executed
  | playStation | playQuickMix | selectStation | selectQuickMix =>
      simp only [Server.executeStandard, Option.some.injEq] at executed
      exact .selects _ _ _ executed
  | stopPlayback now =>
      simp only [Server.executeStandard, Option.some.injEq] at executed
      exact .stops now executed
  | play | pausePlayback | playPause =>
      simp only [Server.executeStandard, Option.some.injEq, Except.ok.injEq] at executed
      exact .controls _ executed.symm
  | quickMixSet | quickMixAdd | quickMixDrop | quickMixToggle =>
      simp only [Server.executeStandard, Option.some.injEq] at executed
      exact .bookkeeping (Server.related_changeMix kept world session executed)
  | _ => cases executed

private theorem handlerEffect_executeAdministrator {command : Command}
    (executed : server.executeAdministrator world session command = .ok after) :
    HandlerEffect relates world session command server after := by
  cases command with
  | autotuneSetMode mode =>
      exact .adjusts { server.app.settings with automaticMode := mode } rfl
        (Server.related_recomputeStations kept world executed)
  | setHistorySize length =>
      cases executed
      exact .adjusts { server.app.settings with historyLength := length } rfl (kept.refl _)
  | setPauseTimeout duration =>
      cases executed
      exact .adjusts { server.app.settings with pauseTimeout := duration } rfl (kept.refl _)
  | setPlaylistTimeout duration =>
      cases executed
      exact .adjusts { server.app.settings with playlistExpiration := duration } rfl (kept.refl _)
  | setPandoraRetry duration =>
      cases executed
      exact .adjusts { server.app.settings with pandoraRetry := duration } rfl (kept.refl _)
  | setShoutcast command connect =>
      cases executed
      exact .bookkeeping (Server.related_setShoutcast kept world session server command connect)
  | setCapturePath off path =>
      cases executed
      exact .bookkeeping (Server.related_setCapturePath kept world session server off path)
  | setControlProxy url =>
      cases executed
      exact .bookkeeping (Server.related_setControlProxy kept world session server url)
  | setProxy url =>
      cases executed
      exact .bookkeeping (Server.related_setProxy kept session server url)
  | setTlsFingerprint value =>
      cases executed
      exact .bookkeeping (Server.related_changeFingerprint kept session server value)
  | getCapturePath | getControlProxy | getProxy | getRpcHost | getRpcTlsPort | getPandoraDevice
  | getEncryptPassword | getDecryptPassword | getOutputDriver | getOutputDevice | getOutputId
  | getOutputServer =>
      cases executed
      unfold Server.reportSetting
      split <;> exact .of_eq kept rfl
  | setOutputDriver value =>
      cases executed
      split
      · exact .of_eq kept rfl
      · exact .bookkeeping (Server.related_changeSetting kept session server .outputDriver value)
  | testAudioOutput =>
      cases executed
      split
      · exact .of_eq kept rfl
      · unfold Server.generateTestTone
        split <;> exact .of_eq kept rfl
  | getPandoraUser =>
      cases executed
      split
      · exact .of_eq kept rfl
      · split <;> exact .of_eq kept rfl
  | userCreate rank name password =>
      exact .bookkeeping (Server.related_createUser kept world session executed)
  | userSetPassword name password =>
      simp only [Server.executeAdministrator] at executed
      split at executed
      · rename_i found
        cases executed
        exact .of_eq kept (Server.getUserByName_app session found)
      · rename_i found
        cases executed
        exact .bookkeeping (kept.trans (kept.of_eq (Server.getUserByName_app session found))
          (kept.users (.rewritten (.of_edited (.setUserPassword _ _ _)))))
  | userSetRank name rank =>
      exact .bookkeeping (Server.related_setUserRank kept session executed)
  | userGrant | userRevoke =>
      exact .bookkeeping (Server.related_setPrivileges kept world session executed)
  | userKick name =>
      cases executed
      obtain refused | ⟨user, same⟩ := Server.kickUser_closes kept session server name
      · exact .bookkeeping refused
      · exact .logsOff user same
  | userKickVisitors =>
      cases executed
      exact .logsOff none rfl
  | userDelete name =>
      exact .bookkeeping (Server.related_deleteUser kept session executed)
  | setAudioQuality quality =>
      cases executed
      exact .bookkeeping (Server.related_withSettings kept server rfl)
  | setRpcHost | setRpcTlsPort | setPandoraDevice | setEncryptPassword | setDecryptPassword
  | setOutputDevice | setOutputId | setOutputServer =>
      cases executed
      exact .bookkeeping (Server.related_changeSetting kept session server _ _)
  | setPartner user password =>
      cases executed
      exact .bookkeeping (kept.trans (Server.related_changeSetting kept session server
        .partnerPassword (some password)) (Server.related_setText kept _ _ _))
  | showUserActions on =>
      cases executed
      exact .bookkeeping (Server.related_withSettings kept server rfl)
  | shutdown =>
      cases executed
      exact .bookkeeping (kept.records rfl)
  | setVisitorRank rank =>
      cases executed
      exact .bookkeeping (kept.users (.rewritten ⟨rfl, rfl, rfl, rfl⟩))
  | _ =>
      cases executed
      exact .of_eq kept rfl

/-- What a command comes to, whoever gives it. -/
theorem handlerEffect_executePlain {command : Command}
    (executed : server.executePlain world crypt session command = .ok after) :
    HandlerEffect relates world session command server after := by
  unfold Server.executePlain at executed
  split at executed
  · rename_i result unprivileged
    rw [executed] at unprivileged
    exact handlerEffect_executeUnprivileged kept unprivileged
  · split at executed
    · cases executed
      exact .of_eq kept rfl
    · rename_i listener
      split at executed
      · split at executed
        · exact .bookkeeping (related_executeOwner kept executed)
        · cases executed
          exact .of_eq kept rfl
      · split at executed
        · rename_i result reached
          rw [executed] at reached
          exact handlerEffect_executeListener kept (by simpa using listener) reached
        · split at executed
          · cases executed
            exact .of_eq kept rfl
          · split at executed
            · rename_i result reached
              rw [executed] at reached
              exact handlerEffect_executeStandard kept reached
            · split at executed
              · cases executed
                exact .of_eq kept rfl
              · exact handlerEffect_executeAdministrator kept executed

end Commands

end Pianod
