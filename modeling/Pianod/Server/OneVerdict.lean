import Pianod.Server.Commands
import Pianod.Server.PlaybackVerdicts

/-!
# One verdict for each command

A client that has sent a command reads until its final status.  Here the commands are found that
leave the client waiting, or answer it twice.
-/

namespace Pianod

open Foundation

/-- The session's user may change the account. -/
def Application.mayManage (app : Application) (session : Nat) : Bool :=
  app.haveRank session .listener && app.havePrivilege session .manager

namespace Command

/-- The commands that wait for an event. -/
def isWait : Command → Bool
  | .waitForAuthentication | .waitForEndOfSong | .waitForNextSong => true
  | _ => false

/-- The handler of the command answers with no final status, or with two. -/
def Miscounted (world : World) (app : Application) (session : Nat) : Command → Prop
  | .nop | .timeStatus | .parseFailure => app.haveRank session .listener
  | .rateLove songId => app.mayManage session ∧ Server.LacksStation app .love songId
  | .rateHate songId => app.mayManage session ∧ Server.LacksStation app .hate songId
  | .stationCreateBySongWName name songId => app.mayManage session ∧
      (Server.requestedSong app songId).isSome ∧ Server.FailsToName world app (some name)
  | .stationCreateWName name suggestionId => app.mayManage session ∧
      Server.isSuggestion suggestionId ∧ Server.FailsToName world app (some name)
  | .stationCreateByIdWName name stationId => app.mayManage session ∧
      stationId.all isdigit ∧ Server.FailsToName world app (some name)
  | .setShoutcast command connect => app.haveRank session .administrator ∧
      Server.FailsToStream world app command connect
  | .setLoggingFlags => app.haveRank session .administrator
  | _ => False

end Command

namespace CommandLine

/-- The null command and comments have no answer. -/
def Exempt : CommandLine → Prop
  | .plain .timeStatus | .plain .nop => True
  | _ => False

def isWait : CommandLine → Bool
  | .plain command => command.isWait
  | .asUser _ _ _ line => line.isWait

/-- The command is miscounted in the state it is executed in; on behalf of a user, that is the state
once the user is authenticated. -/
def Miscounted (world : World) (crypt : Text → Text → Text) (app : Application) (session : Nat) :
    CommandLine → Prop
  | .plain command => command.Miscounted world app session
  | .asUser name password quits line => ∃ user, quits = false ∧
      app.users.authenticateUser crypt name password = .ok (some user) ∧
        line.Miscounted world crypt (((Server.mk app []).closing session).setContextUser session
          (some (.listed user.serial))).app session

end CommandLine

/-- The property claimed of a command line: unless there is none to expect, or not yet, the
connection gets one final status. -/
def OneVerdict (session : Nat) (line : CommandLine) (after : Server) : Prop :=
  line.Exempt ∨ line.isWait ∧ (after.app.context session).waitingFor ≠ none ∨
    after.verdicts session = 1

/-- The final statuses that a command adds. -/
structure Tally (isWait : Bool) (miscounts : Prop) (session : Nat) (before after : Server) :
    Prop where
  /-- A connection has to wait, or it is answered and need not. -/
  waiting : isWait = true →
    (after.app.context session).waitingFor ≠ none ∧
      after.verdicts session = before.verdicts session ∨
    (after.app.context session).waitingFor = none ∧
      after.verdicts session = before.verdicts session + 1
  miscounted : miscounts → isWait = false ∧
    after.verdicts session ≠ before.verdicts session + 1
  answered : isWait = false → ¬miscounts →
    after.verdicts session = before.verdicts session + 1

namespace Tally

variable {miscounts : Prop} {session : Nat} {before after : Server}

theorem of_answered (answered : after.verdicts session = before.verdicts session + 1) :
    Tally false False session before after :=
  ⟨fun waits => absurd waits Bool.false_ne_true, False.elim, fun _ _ => answered⟩

/-- A refusal ends the answer. -/
theorem of_refusal (isWait : Bool) (counted : ¬miscounts)
    (idle : (before.app.context session).waitingFor = none) {code : ResponseCode}
    (final : code.isFinal = true) :
    Tally isWait miscounts session before (before.reply session code) := by
  have answered : (before.reply session code).verdicts session = before.verdicts session + 1 := by
    rw [Server.verdicts_reply, if_pos final]
  exact ⟨fun _ => .inr ⟨idle, answered⟩, fun counts => absurd counts counted, fun _ _ => answered⟩

theorem of_miscount (miscount : miscounts)
    (off : after.verdicts session ≠ before.verdicts session + 1) :
    Tally false miscounts session before after :=
  ⟨fun waits => absurd waits Bool.false_ne_true, fun _ => ⟨rfl, off⟩,
    fun _ counted => absurd miscount counted⟩

/-- A handler that sends one final status, or none where it is miscounted. -/
theorem of_missing [Decidable miscounts] (counts : after.verdicts session =
    before.verdicts session + if miscounts then 0 else 1) :
    Tally false miscounts session before after := by
  by_cases miscount : miscounts
  · rw [if_pos miscount] at counts
    exact of_miscount miscount (by omega)
  · rw [if_neg miscount] at counts
    exact ⟨fun waits => absurd waits Bool.false_ne_true,
      fun missing => absurd missing miscount, fun _ _ => counts⟩

/-- A handler that sends one final status, or two where it is miscounted. -/
theorem of_repeated [Decidable miscounts] (counts : after.verdicts session =
    before.verdicts session + 1 + if miscounts then 1 else 0) :
    Tally false miscounts session before after := by
  by_cases miscount : miscounts
  · rw [if_pos miscount] at counts
    exact of_miscount miscount (by omega)
  · rw [if_neg miscount] at counts
    exact ⟨fun waits => absurd waits Bool.false_ne_true,
      fun repeated => absurd repeated miscount, fun _ _ => counts⟩

theorem congr {isWait : Bool} {others : Prop} (tally : Tally isWait miscounts session before after)
    (same : others ↔ miscounts) : Tally isWait others session before after := by
  rw [propext same]
  exact tally

/-- Logging a user in or out, or closing the connection, plays no part. -/
theorem of_around {isWait : Bool} {first last : Server}
    (tally : Tally isWait miscounts session before after)
    (unsent : before.verdicts session = first.verdicts session)
    (sent : last.verdicts session = after.verdicts session)
    (waits : (last.app.context session).waitingFor = (after.app.context session).waitingFor) :
    Tally isWait miscounts session first last := by
  obtain ⟨waiting, miscounted, answered⟩ := tally
  rw [unsent] at waiting miscounted answered
  constructor
  · rw [waits, sent]
    exact waiting
  · rw [sent]
    exact miscounted
  · rw [sent]
    exact answered

end Tally

/-- What a connection waits for is not changed by other changes. -/
theorem waitingFor_modifyContext (app : Application) (session : Nat)
    {change : UserContext → UserContext}
    (keeps : ∀ context, (change context).waitingFor = context.waitingFor) :
    ((app.modifyContext session change).context session).waitingFor =
      (app.context session).waitingFor := by
  unfold Application.context Application.modifyContext
  cases known : app.contexts[session]? with
  | none => simp [known]
  | some context => simp [known, keeps]

section Handlers

variable {world : World} {crypt : Text → Text → Text} {session : Nat} {server after : Server}

/-- The commands of the owner's range, given by someone who may manage the account. -/
theorem tally_executeOwner {command : Command} (manages : server.app.mayManage session = true)
    (inRange : command.inOwnerRange = true)
    (executed : server.executeOwner world session command = .ok after) :
    Tally command.isWait (command.Miscounted world server.app session) session server after := by
  cases command with
  | stationInfo name =>
      simp only [Server.executeOwner] at executed
      split at executed
      · cases executed
      · rename_i found
        cases executed
        exact .of_answered (Server.verdicts_getStationByNameOrCurrent session found)
      · rename_i found
        cases executed
        refine .of_answered ?_
        rw [Server.verdicts_sendStationInfo,
          Server.verdicts_getStationByNameOrCurrent session found]
        rfl
  | stationRename name newName =>
      exact .of_answered (Server.verdicts_renameStation world session executed)
  | stationDelete name =>
      cases executed
      exact .of_answered (server.verdicts_deleteStation world session name)
  | stationCreateBySong songId =>
      cases executed
      refine .of_answered ?_
      rw [Server.verdicts_createStationFromSong, if_neg fun fails => nomatch fails.2.1]
  | stationCreateBySongWName name songId =>
      cases executed
      refine (Tally.of_repeated (server.verdicts_createStationFromSong world session (some name)
        songId)).congr ?_
      simp [Command.Miscounted, manages]
  | stationCreate suggestionId =>
      cases executed
      refine .of_answered ?_
      rw [Server.verdicts_createStationFromSuggestion, if_neg fun fails => nomatch fails.2.1]
  | stationCreateWName name suggestionId =>
      cases executed
      refine (Tally.of_repeated (server.verdicts_createStationFromSuggestion world session
        (some name) suggestionId)).congr ?_
      simp [Command.Miscounted, manages]
  | stationCreateById stationId =>
      cases executed
      refine .of_answered ?_
      rw [Server.verdicts_createStationFromShared, if_neg fun fails => nomatch fails.2.1]
  | stationCreateByIdWName name stationId =>
      cases executed
      refine (Tally.of_repeated (server.verdicts_createStationFromShared world session
        (some name) stationId)).congr ?_
      simp [Command.Miscounted, manages]
  | getSuggestions kind term =>
      cases executed
      exact .of_answered (server.verdicts_performQuery world session kind term)
  | rateLove songId =>
      cases executed
      refine (Tally.of_missing (server.verdicts_rateSong world session .love songId)).congr ?_
      simp [Command.Miscounted, manages]
  | rateHate songId =>
      cases executed
      refine (Tally.of_missing (server.verdicts_rateSong world session .hate songId)).congr ?_
      simp [Command.Miscounted, manages]
  | rateNeutral songId =>
      cases executed
      refine .of_answered ?_
      rw [Server.verdicts_rateSong, if_neg fun lacks => by simp [Server.LacksStation] at lacks]
  | rateOverplayed songId =>
      cases executed
      refine .of_answered ?_
      rw [Server.verdicts_rateSong, if_neg fun lacks => by simp [Server.LacksStation] at lacks]
  | seedAdd suggestionId =>
      exact .of_answered (Server.verdicts_addSeed world session executed)
  | seedAddWStation suggestionId name =>
      exact .of_answered (Server.verdicts_addSeed world session executed)
  | seedDeleteBySong artist songId =>
      cases executed
      exact .of_answered (server.verdicts_removeSongSeed world session artist songId)
  | seedDeleteById seedId =>
      cases executed
      exact .of_answered (server.verdicts_removeSeed world session seedId)
  | seedAddBySong artist songId =>
      cases executed
      exact .of_answered (server.verdicts_addSongSeed world session none artist songId)
  | seedAddBySongWStation artist name songId =>
      cases executed
      exact .of_answered (server.verdicts_addSongSeed world session (some name) artist songId)
  | explainSongChoice songId =>
      cases executed
      exact .of_answered (server.verdicts_explainSongChoice world session songId)
  | createBookmark artist songId =>
      cases executed
      exact .of_answered (server.verdicts_createBookmark world session artist songId)
  | _ => cases inRange

private theorem tally_executeUnprivileged {command : Command}
    (executed : server.executeUnprivileged world crypt session command = some (.ok after)) :
    Tally command.isWait (command.Miscounted world server.app session) session server after := by
  cases command with
  | help topic =>
      simp only [Server.executeUnprivileged, Option.some.injEq, Except.ok.injEq] at executed
      subst executed
      refine .of_answered ?_
      unfold Server.sendStatementList
      dsimp only
      rw [Server.verdicts_send_of_quiet _ session _ (.map rfl), Server.verdicts_reply]
      rfl
  | quit =>
      simp only [Server.executeUnprivileged, Option.some.injEq, Except.ok.injEq] at executed
      subst executed
      exact .of_answered (server.verdicts_reply session .sSignoff)
  | authenticate name password =>
      simp only [Server.executeUnprivileged, Option.some.injEq] at executed
      exact .of_answered (Server.verdicts_authenticate world session executed)
  | getUserRank =>
      simp only [Server.executeUnprivileged, Option.some.injEq, Except.ok.injEq] at executed
      subst executed
      refine .of_answered ?_
      rw [Server.verdicts_sendPrivileges, Server.verdicts_reply]
      rfl
  | _ => cases executed

/-- A connection that did not wait before can start to. -/
theorem tally_waitForEvent {event : WaitEvent} {miscounts : Prop} (counted : ¬miscounts)
    (waits : server.waitForEvent session event = .ok after)
    (known : session < server.app.contexts.length) :
    Tally true miscounts session server after := by
  obtain ⟨-, -, rfl⟩ := Server.waitForEvent_eq_ok waits
  refine ⟨fun _ => .inl ⟨?_, rfl⟩, fun counts => absurd counts counted, nofun⟩
  simp [Application.context, Application.modifyContext, UserContext.acceptInput, known]

/-- The commands that wait make the connection wait, or are refused. -/
private theorem tally_isWait {command : Command} (waits : command.isWait = true)
    (idle : (server.app.context session).waitingFor = none)
    (known : session < server.app.contexts.length)
    (executed : server.executeListener world crypt session command = some (.ok after)) :
    Tally command.isWait (command.Miscounted world server.app session) session server after := by
  cases command with
  | waitForEndOfSong =>
      simp only [Server.executeListener, Option.some.injEq] at executed
      split at executed
      · exact tally_waitForEvent id executed known
      · cases executed
        exact .of_refusal true id idle rfl
  | waitForNextSong =>
      simp only [Server.executeListener, Option.some.injEq] at executed
      exact tally_waitForEvent id executed known
  | waitForAuthentication =>
      simp only [Server.executeListener, Option.some.injEq] at executed
      split at executed
      · split at executed
        · exact tally_waitForEvent id executed known
        · cases executed
          exact .of_refusal true id idle rfl
      · cases executed
        exact .of_refusal true id idle rfl
  | _ => cases waits

/-- The commands a listener can reach. -/
theorem tally_executeListener {command : Command}
    (idle : (server.app.context session).waitingFor = none)
    (listener : server.app.haveRank session .listener = true)
    (known : session < server.app.contexts.length)
    (executed : server.executeListener world crypt session command = some (.ok after)) :
    Tally command.isWait (command.Miscounted world server.app session) session server after := by
  cases command with
  | parseFailure =>
      simp only [Server.executeListener, Option.some.injEq, Except.ok.injEq] at executed
      subst executed
      refine .of_miscount listener ?_
      rw [Server.verdicts_reply]
      exact Nat.ne_of_lt (Nat.lt_succ_self _)
  | nop =>
      simp only [Server.executeListener, Option.some.injEq, Except.ok.injEq] at executed
      subst executed
      exact .of_miscount listener (Nat.ne_of_lt (Nat.lt_succ_self _))
  | timeStatus =>
      simp only [Server.executeListener, Option.some.injEq, Except.ok.injEq] at executed
      subst executed
      refine .of_miscount listener ?_
      rw [Server.verdicts_sendPlaybackStatus]
      exact Nat.ne_of_lt (Nat.lt_succ_self _)
  | parseIncomplete | parseInvalidKeyword | parseNumeric | parseRange | parseExtraTerms =>
      simp only [Server.executeListener, Option.some.injEq, Except.ok.injEq] at executed
      subst executed
      exact .of_answered (server.verdicts_reply session .eBadCommand)
  | yell =>
      simp only [Server.executeListener, Option.some.injEq, Except.ok.injEq] at executed
      subst executed
      refine .of_answered ?_
      rw [Server.verdicts_reply, Server.verdicts_sendResponse _ session rfl]
      rfl
  | getVolume | autotuneGetMode | getHistorySize | getAudioQuality =>
      simp only [Server.executeListener, Option.some.injEq, Except.ok.injEq] at executed
      subst executed
      exact .of_answered (server.verdicts_reportValue session rfl)
  | queryHistory index =>
      simp only [Server.executeListener, Option.some.injEq, Except.ok.injEq] at executed
      subst executed
      exact .of_answered (server.verdicts_sendSongLists session true index)
  | queryQueue index =>
      simp only [Server.executeListener, Option.some.injEq, Except.ok.injEq] at executed
      subst executed
      exact .of_answered (server.verdicts_sendSongLists session false index)
  | quickMixIncluded | quickMixExcluded | stationList =>
      simp only [Server.executeListener, Option.some.injEq, Except.ok.injEq] at executed
      subst executed
      exact .of_answered (server.verdicts_sendStationList session _)
  | queryStatus =>
      simp only [Server.executeListener, Option.some.injEq] at executed
      exact .of_answered (Server.verdicts_queryStatus session executed)
  | stationRatings name =>
      simp only [Server.executeListener, Option.some.injEq] at executed
      split at executed
      · cases executed
        exact .of_answered (server.verdicts_reply session .eLoginRequired)
      · exact .of_answered (Server.verdicts_sendStationRatings session executed)
  | stationRate rating name =>
      simp only [Server.executeListener, Option.some.injEq] at executed
      split at executed
      · cases executed
        exact .of_answered (server.verdicts_reply session .eLoginRequired)
      · exact .of_answered (Server.verdicts_rateStation world session executed)
  | setMyPassword old new =>
      simp only [Server.executeListener, Option.some.injEq] at executed
      split at executed
      · cases executed
        exact .of_answered (server.verdicts_reply session .eLoginRequired)
      · exact .of_answered (Server.verdicts_changePassword world session executed)
  | waitForEndOfSong | waitForNextSong | waitForAuthentication =>
      exact tally_isWait rfl idle known executed
  | usersOnline | userListPandora | autotuneUsersList =>
      simp only [Server.executeListener, Option.some.injEq, Except.ok.injEq] at executed
      subst executed
      split
      · exact .of_answered (server.verdicts_sendSelectUsers session _ _)
      · exact .of_answered (server.verdicts_reply session .eUnauthorized)
  | pandoraUser | pandoraUserSpecify =>
      simp only [Server.executeListener, Option.some.injEq] at executed
      split at executed
      · have announced : (server.announceAction.app.context session).waitingFor = none := by
          rw [Server.announceAction_app]
          exact idle
        refine .of_answered ?_
        rw [Server.verdicts_acceptNewCredentials world announced executed,
          Server.verdicts_announceAction]
      · cases executed
        exact .of_answered (server.verdicts_reply session .eUnauthorized)
  | pandoraExisting =>
      simp only [Server.executeListener, Option.some.injEq] at executed
      split at executed
      · exact .of_answered (Server.verdicts_restoreCredentials world idle executed)
      · cases executed
        exact .of_answered (server.verdicts_reply session .eUnauthorized)
  | autotuneUsers | autotuneAddRemove =>
      simp only [Server.executeListener, Option.some.injEq] at executed
      split at executed
      · exact .of_answered (Server.verdicts_autotune world session executed)
      · cases executed
        exact .of_answered (server.verdicts_reply session .eUnauthorized)
  | _ => cases executed

private theorem tally_executeStandard {command : Command}
    (executed : server.executeStandard world session command = some (.ok after)) :
    Tally command.isWait (command.Miscounted world server.app session) session server after := by
  cases command with
  | setVolume level =>
      simp only [Server.executeStandard, Option.some.injEq, Except.ok.injEq] at executed
      subst executed
      exact .of_answered (server.verdicts_setVolume session level)
  | nextSong =>
      simp only [Server.executeStandard, Option.some.injEq] at executed
      exact .of_answered (Server.verdicts_nextSong world session executed)
  | playStation | playQuickMix | selectStation | selectQuickMix =>
      simp only [Server.executeStandard, Option.some.injEq] at executed
      exact .of_answered (Server.verdicts_selectStation world session executed)
  | stopPlayback now =>
      simp only [Server.executeStandard, Option.some.injEq] at executed
      exact .of_answered (Server.verdicts_stopPlayback world session executed)
  | play | pausePlayback | playPause =>
      simp only [Server.executeStandard, Option.some.injEq, Except.ok.injEq] at executed
      subst executed
      exact .of_answered (server.verdicts_changePlayback world session _)
  | quickMixSet | quickMixAdd | quickMixDrop | quickMixToggle =>
      simp only [Server.executeStandard, Option.some.injEq] at executed
      exact .of_answered (Server.verdicts_changeMix world session executed)
  | _ => cases executed

/-- The commands that show a setting. -/
private def Command.showsSetting : Command → Bool
  | .getCapturePath | .getControlProxy | .getProxy | .getRpcHost | .getRpcTlsPort
  | .getPandoraDevice | .getEncryptPassword | .getDecryptPassword | .getPartner
  | .getTlsFingerprint | .getOutputDriver | .getOutputDevice | .getOutputId | .getOutputServer
  | .getPauseTimeout | .getPlaylistTimeout | .getPandoraRetry | .getVisitorRank
  | .getPandoraUser => true
  | _ => false

/-- The commands that change a setting and say so. -/
private def Command.changesSetting : Command → Bool
  | .autotuneSetMode _ | .setHistorySize _ | .setAudioQuality _ | .setPauseTimeout _
  | .setPlaylistTimeout _ | .setPandoraRetry _ | .setCapturePath .. | .setControlProxy _
  | .setProxy _ | .setRpcHost _ | .setRpcTlsPort _ | .setPandoraDevice _ | .setEncryptPassword _
  | .setDecryptPassword _ | .setPartner .. | .setTlsFingerprint _ | .setOutputDriver _
  | .setOutputDevice _ | .setOutputId _ | .setOutputServer _ | .showUserActions _
  | .setVisitorRank _ => true
  | _ => false

/-- The commands for the user records. -/
private def Command.managesUsers : Command → Bool
  | .userCreate .. | .userSetPassword .. | .userSetRank .. | .userGrant .. | .userRevoke ..
  | .userListByPrivilege _ | .userKickVisitors | .userKick _ | .userDelete _
  | .userList _ => true
  | _ => false

private theorem tally_showsSetting {command : Command} (shows : command.showsSetting = true)
    (executed : server.executeAdministrator world session command = .ok after) :
    Tally command.isWait (command.Miscounted world server.app session) session server after := by
  cases command with
  | getCapturePath | getControlProxy | getProxy | getRpcHost | getRpcTlsPort | getPandoraDevice
  | getEncryptPassword | getDecryptPassword | getOutputDriver | getOutputDevice | getOutputId
  | getOutputServer =>
      cases executed
      exact .of_answered (server.verdicts_reportSetting session rfl _)
  | getPauseTimeout | getPlaylistTimeout | getPandoraRetry | getTlsFingerprint =>
      cases executed
      exact .of_answered (server.verdicts_reportValue session rfl)
  | getPartner =>
      cases executed
      exact .of_answered (server.verdicts_send session _)
  | getVisitorRank =>
      cases executed
      refine .of_answered ?_
      rw [Server.verdicts_reply, Server.verdicts_sendPrivileges]
      rfl
  | getPandoraUser =>
      cases executed
      split
      · exact .of_answered (server.verdicts_reply session .sDataEnd)
      · split
        · exact .of_answered (server.verdicts_send session _)
        · exact .of_answered (server.verdicts_reply session .eUnauthorized)
  | _ => cases shows

private theorem tally_changesSetting {command : Command} (changes : command.changesSetting = true)
    (executed : server.executeAdministrator world session command = .ok after) :
    Tally command.isWait (command.Miscounted world server.app session) session server after := by
  cases command with
  | autotuneSetMode mode =>
      refine .of_answered ?_
      have computed := Server.verdicts_recomputeStations world session executed
      rw [computed, Server.verdicts_reply, Server.verdicts_withSettings]
      rfl
  | setHistorySize | setAudioQuality | setPauseTimeout | setPlaylistTimeout | setPandoraRetry =>
      cases executed
      exact .of_answered (server.verdicts_changeNumber session rfl _)
  | setCapturePath off path =>
      cases executed
      exact .of_answered (server.verdicts_setCapturePath world session off path)
  | setControlProxy url =>
      cases executed
      exact .of_answered (server.verdicts_setControlProxy world session url)
  | setProxy url =>
      cases executed
      exact .of_answered (server.verdicts_setProxy session url)
  | setRpcHost | setRpcTlsPort | setPandoraDevice | setEncryptPassword | setDecryptPassword
  | setPartner | setOutputDevice | setOutputId | setOutputServer =>
      cases executed
      exact .of_answered (server.verdicts_changeSetting session _ _)
  | setTlsFingerprint value =>
      cases executed
      exact .of_answered (server.verdicts_changeFingerprint session value)
  | setOutputDriver value =>
      cases executed
      split
      · exact .of_answered (server.verdicts_reply session .eNotFound)
      · exact .of_answered (server.verdicts_changeSetting session _ _)
  | showUserActions =>
      cases executed
      exact .of_answered (Server.verdicts_reply _ session .sOk)
  | setVisitorRank rank =>
      cases executed
      refine .of_answered ?_
      rw [Server.verdicts_reply, Server.verdicts_announcePrivileges, Server.verdicts_withUsers]
      rfl
  | _ => cases changes

private theorem tally_managesUsers {command : Command} (manages : command.managesUsers = true)
    (executed : server.executeAdministrator world session command = .ok after) :
    Tally command.isWait (command.Miscounted world server.app session) session server after := by
  cases command with
  | userCreate rank name password =>
      exact .of_answered (Server.verdicts_createUser world session executed)
  | userSetPassword name password =>
      simp only [Server.executeAdministrator] at executed
      split at executed
      · rename_i found
        cases executed
        exact .of_answered (Server.verdicts_getUserByName session found)
      · rename_i found
        cases executed
        refine .of_answered ?_
        rw [Server.verdicts_reply, Server.verdicts_withUsers,
          Server.verdicts_getUserByName session found]
        rfl
  | userSetRank name rank =>
      exact .of_answered (Server.verdicts_setUserRank session executed)
  | userGrant | userRevoke =>
      exact .of_answered (Server.verdicts_setPrivileges world session executed)
  | userListByPrivilege privilege =>
      cases executed
      exact .of_answered (server.verdicts_sendSelectUsers session _ true)
  | userKickVisitors =>
      cases executed
      refine .of_answered ?_
      rw [Server.verdicts_reply, Server.verdicts_userLogoff]
      rfl
  | userKick name =>
      cases executed
      exact .of_answered (server.verdicts_kickUser session name)
  | userDelete name =>
      exact .of_answered (Server.verdicts_deleteUser session executed)
  | userList name =>
      cases executed
      exact .of_answered (server.verdicts_sendUserList session name)
  | _ => cases manages

/-- The commands that only an administrator can reach. -/
theorem tally_executeAdministrator {command : Command}
    (administrator : server.app.haveRank session .administrator = true)
    (beyond : server.executeListener world crypt session command = none)
    (outside : command.inOwnerRange = false)
    (executed : server.executeAdministrator world session command = .ok after) :
    Tally command.isWait (command.Miscounted world server.app session) session server after := by
  by_cases shows : command.showsSetting = true
  · exact tally_showsSetting shows executed
  by_cases changes : command.changesSetting = true
  · exact tally_changesSetting changes executed
  by_cases manages : command.managesUsers = true
  · exact tally_managesUsers manages executed
  cases command with
  | setShoutcast command connect =>
      cases executed
      refine (Tally.of_missing (server.verdicts_setShoutcast world session command
        connect)).congr ?_
      simp [Command.Miscounted, administrator]
  | testAudioOutput =>
      cases executed
      split
      · exact .of_answered (server.verdicts_reply session .eWrongState)
      · exact .of_answered (server.verdicts_generateTestTone world session)
  | setLoggingFlags =>
      cases executed
      exact .of_miscount administrator (Nat.ne_of_lt (Nat.lt_succ_self _))
  | shutdown =>
      cases executed
      exact .of_answered (Server.verdicts_reply _ session .sOk)
  | help | quit | authenticate | getUserRank | setVolume | nextSong | playStation | playQuickMix
  | selectStation | selectQuickMix | stopPlayback | play | pausePlayback | playPause | quickMixSet
  | quickMixAdd | quickMixDrop | quickMixToggle =>
      cases executed
      exact .of_answered (server.verdicts_reply session .eNotImplemented)
  | parseFailure | parseIncomplete | parseInvalidKeyword | parseNumeric | parseRange
  | parseExtraTerms | nop | timeStatus | yell | getVolume | autotuneGetMode | getHistorySize
  | getAudioQuality | queryStatus | queryHistory | queryQueue | quickMixIncluded
  | quickMixExcluded | stationList | stationRatings | stationRate | setMyPassword
  | waitForEndOfSong | waitForNextSong | waitForAuthentication | usersOnline | userListPandora
  | pandoraUser | pandoraUserSpecify | pandoraExisting | autotuneUsersList | autotuneUsers
  | autotuneAddRemove => cases beyond
  | _ =>
      -- Of the groups above, or for the owner.
      first
      | exact absurd rfl shows
      | exact absurd rfl changes
      | exact absurd rfl manages
      | cases outside

theorem haveRank_of_le {app : Application} {lower higher : UserRank}
    (below : lower.level ≤ higher.level) (ranked : app.haveRank session higher = true) :
    app.haveRank session lower = true := by
  simp only [Application.haveRank, UserDatabase.haveRank, decide_eq_true_eq] at ranked ⊢
  exact below.trans ranked

/-- Only those who may give a command can have it miscounted. -/
theorem Command.Miscounted.entitled {command : Command}
    (miscounted : command.Miscounted world server.app session) :
    server.app.haveRank session .listener = true ∧
      (command.inOwnerRange = true → server.app.havePrivilege session .manager = true) ∧
        (command.inOwnerRange = false →
          server.executeListener world crypt session command = none →
            server.app.haveRank session .administrator = true) := by
  have listener_of_administrator (administrator : server.app.haveRank session .administrator) :
      server.app.haveRank session .listener := haveRank_of_le (by decide) administrator
  have managing (manages : server.app.mayManage session = true) :
      server.app.haveRank session .listener = true ∧
        server.app.havePrivilege session .manager = true := by
    simpa [Application.mayManage] using manages
  cases command with
  | nop | timeStatus | parseFailure => exact ⟨miscounted, nofun, nofun⟩
  | rateLove | rateHate | stationCreateBySongWName | stationCreateWName | stationCreateByIdWName =>
      have manages := managing miscounted.1
      exact ⟨manages.1, fun _ => manages.2, nofun⟩
  | setShoutcast =>
      exact ⟨listener_of_administrator miscounted.1, nofun, fun _ _ => miscounted.1⟩
  | setLoggingFlags =>
      exact ⟨listener_of_administrator miscounted, nofun, fun _ _ => miscounted⟩
  | _ => exact miscounted.elim

/-- Every command ends the answer once, unless it is miscounted or makes the connection wait. -/
theorem tally_executePlain {command : Command}
    (idle : (server.app.context session).waitingFor = none)
    (known : session < server.app.contexts.length)
    (executed : server.executePlain world crypt session command = .ok after) :
    Tally command.isWait (command.Miscounted world server.app session) session server after := by
  unfold Server.executePlain at executed
  split at executed
  · rename_i result unprivileged
    rw [executed] at unprivileged
    exact tally_executeUnprivileged unprivileged
  · split at executed
    · rename_i refused
      cases executed
      refine .of_refusal _ (fun miscounted => ?_) idle rfl
      have listener := (@Command.Miscounted.entitled world crypt _ _ _ miscounted).1
      simp [listener] at refused
    · rename_i listener
      rw [Bool.not_eq_true', Bool.not_eq_false] at listener
      split at executed
      · rename_i inRange
        split at executed
        · rename_i manager
          exact tally_executeOwner (by simp [Application.mayManage, listener, manager]) inRange
            executed
        · rename_i refused
          cases executed
          refine .of_refusal _ (fun miscounted => ?_) idle rfl
          exact refused ((@Command.Miscounted.entitled world crypt _ _ _ miscounted).2.1 inRange)
      · rename_i outside
        rw [Bool.not_eq_true] at outside
        split at executed
        · rename_i result reached
          rw [executed] at reached
          exact tally_executeListener idle listener known reached
        · rename_i beyond
          have administrates (miscounted : command.Miscounted world server.app session) :
              server.app.haveRank session .administrator = true :=
            (@Command.Miscounted.entitled world crypt _ _ _ miscounted).2.2 outside beyond
          split at executed
          · rename_i refused
            cases executed
            refine .of_refusal _ (fun miscounted => ?_) idle rfl
            have standard : server.app.haveRank session .standard = true :=
              haveRank_of_le (by decide) (administrates miscounted)
            simp [standard] at refused
          · split at executed
            · rename_i result reached
              rw [executed] at reached
              exact tally_executeStandard reached
            · split at executed
              · rename_i refused
                cases executed
                refine .of_refusal _ (fun miscounted => ?_) idle rfl
                simp [administrates miscounted] at refused
              · rename_i administrator
                rw [Bool.not_eq_true', Bool.not_eq_false] at administrator
                exact tally_executeAdministrator administrator beyond outside executed

/-- On behalf of a user, too, a command is answered as it is executed. -/
theorem tally_execute {line : CommandLine} (idle : (server.app.context session).waitingFor = none)
    (known : session < server.app.contexts.length)
    (executed : server.execute world crypt session line = .ok after) :
    Tally line.isWait (line.Miscounted world crypt server.app session) session server after := by
  induction line generalizing server after with
  | plain command => exact tally_executePlain idle known executed
  | asUser name password quits line ih =>
      have entered (user : Option UserRef) :
          (((server.closing session).setContextUser session user).app.context
            session).waitingFor = none := by
        have closed := @waitingFor_modifyContext server.app session
          (fun context => context.closeConnection) fun _ => rfl
        have logged_in := @waitingFor_modifyContext (server.closing session).app session
          (fun context => { context with user := user }) fun _ => rfl
        exact logged_in.trans (closed.trans idle)
      have left (other : Server) : ((other.setContextUser session none).app.context
          session).waitingFor = (other.app.context session).waitingFor :=
        @waitingFor_modifyContext other.app session (fun context => { context with user := none })
          fun _ => rfl
      unfold Server.execute at executed
      dsimp only at executed
      split at executed
      · cases executed
      · rename_i refused
        cases executed
        have counted : ¬(CommandLine.asUser name password quits line).Miscounted world crypt
            server.app session := by
          rintro ⟨user, -, accepted, -⟩
          exact nomatch refused.symm.trans accepted
        exact (Tally.of_refusal line.isWait counted (entered none) rfl).of_around rfl rfl rfl
      · rename_i user accepted
        cases quits with
        | true =>
            cases executed
            have counted : ¬(CommandLine.asUser name password true line).Miscounted world crypt
                server.app session := by
              rintro ⟨user, running, -⟩
              cases running
            exact (Tally.of_refusal line.isWait counted (entered _) rfl).of_around rfl rfl (left _)
        | false =>
            simp only [Bool.false_eq_true, if_false] at executed
            split at executed
            · cases executed
            · rename_i between inner
              cases executed
              have there : session < ((server.closing session).setContextUser session
                  (some (.listed user.serial))).app.contexts.length := by
                simpa [Server.setContextUser, Server.closing, Application.modifyContext] using known
              refine ((ih (entered _) there inner).congr ?_).of_around rfl rfl (left between)
              constructor
              · rintro ⟨other, -, same, miscounted⟩
                cases same.symm.trans accepted
                exact miscounted
              · exact fun miscounted => ⟨user, rfl, accepted, miscounted⟩

end Handlers

/-- Every command line that is executed to completion gives its connection one final status exactly
if it is not miscounted, and a connection that has to wait for it gets it with the event. -/
theorem oneVerdict_iff {world : World} {crypt : Text → Text → Text} {app : Application}
    {session : Nat} {line : CommandLine} {after : Server}
    (connected : session < app.contexts.length)
    (idle : (app.context session).waitingFor = none)
    (executed : Server.execute world crypt ⟨app, []⟩ session line = .ok after) :
    (OneVerdict session line after ↔
      line.Exempt ∨ ¬line.Miscounted world crypt app session) ∧
    (line.isWait → ∀ event, (after.app.context session).waitingFor = some event →
      (after.app.context session).isOpen → ∀ response : ResponseCode, response.isFinal →
        (after.eventOccurred event response).verdicts session = 1) := by
  obtain ⟨waiting, miscounted, answered⟩ := tally_execute idle connected executed
  have unsent : (Server.mk app []).verdicts session = 0 := rfl
  rw [unsent] at waiting miscounted answered
  constructor
  · constructor
    · rintro (exempt | ⟨waits, -⟩ | one)
      · exact .inl exempt
      · refine .inr fun miscounts => ?_
        rw [(miscounted miscounts).1] at waits
        cases waits
      · exact .inr fun miscounts => (miscounted miscounts).2 one
    · rintro (exempt | counted)
      · exact .inl exempt
      · cases waits : line.isWait with
        | false => exact .inr (.inr (answered waits counted))
        | true =>
            rcases waiting waits with ⟨still, -⟩ | ⟨-, one⟩
            · exact .inr (.inl ⟨waits, still⟩)
            · exact .inr (.inr one)
  · intro waits event told isOpen response final
    have silent : after.verdicts session = 0 := by
      rcases waiting waits with ⟨-, silent⟩ | ⟨still, -⟩
      · exact silent
      · rw [told] at still
        cases still
    rw [Server.verdicts_eventOccurred_of_waiting _ told isOpen final, silent]

/-- An administrator adds a shared station under a name. -/
def sampleCreation : CommandLine := .plain (.stationCreateByIdWName (ascii "Folk") (ascii "42"))

theorem sampleCreation_counted : ∃ after, Server.execute (sampleWorld []) (fun _ salt => salt)
    ⟨sampleApplication .administrator, []⟩ 0 sampleCreation = .ok after ∧
      OneVerdict 0 sampleCreation after := by
  obtain ⟨after, executed⟩ : ∃ after, Server.execute (sampleWorld []) (fun _ salt => salt)
      ⟨sampleApplication .administrator, []⟩ 0 sampleCreation = .ok after := ⟨_, rfl⟩
  have counted : ¬sampleCreation.Miscounted (sampleWorld []) (fun _ salt => salt)
      (sampleApplication .administrator) 0 := by
    rintro ⟨-, -, -, -, -, fails⟩
    cases fails
  exact ⟨after, executed, (oneVerdict_iff (by decide) rfl executed).1.mpr (.inr counted)⟩

/-- When the new station cannot be taken possession of, the success is followed by a failure. -/
theorem sampleCreation_repeated : ∃ after,
    Server.execute (sampleWorld [.transformStation]) (fun _ salt => salt)
      ⟨sampleApplication .administrator, []⟩ 0 sampleCreation = .ok after ∧
        after.sent = [⟨.connection 0, .sOk⟩, ⟨.service, .eNetworkFailure⟩,
          ⟨.connection 0, .eTransformFailed⟩, ⟨.service, .iStationsChanged⟩, ⟨.service, .iInfo⟩] ∧
          ¬OneVerdict 0 sampleCreation after := by
  refine ⟨_, rfl, rfl, ?_⟩
  rintro (exempt | ⟨waits, -⟩ | one)
  · exact exempt
  · cases waits
  · exact absurd one (by decide)

end Pianod
