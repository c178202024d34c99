import Pianod.Server.PlaybackCommands

/-!
# Executing commands

A command line is interpreted first and authorised afterwards.  The commands that need no rank come
before the first check; those that change the account lie in a range of their own; the others are
handled by an ordered cascade of checks and switches.  The arguments of a command are the terms
that its handler reads.
-/

namespace Pianod

open Foundation

/-- The commands, in the order of their numbers, after the parser's errors. -/
inductive Command where
  | parseFailure
  | parseIncomplete
  | parseInvalidKeyword
  | parseNumeric
  | parseRange
  | parseExtraTerms
  | nop
  | timeStatus
  | help (topic : Option Text)
  | queryStatus
  | queryHistory (index : Option Int)
  | queryQueue (index : Option Int)
  | nextSong
  | pausePlayback
  | stopPlayback (now : Bool)
  | play
  | playPause
  | playStation (name : Text)
  | playQuickMix (auto : Bool)
  | quickMixIncluded
  | quickMixExcluded
  | quickMixSet (names : List Text)
  | quickMixAdd (names : List Text)
  | quickMixDrop (names : List Text)
  | quickMixToggle (names : List Text)
  | selectQuickMix (auto : Bool)
  | selectStation (name : Text)
  | stationList
  | stationRatings (name : Option Text)
  | stationRate (rating : StationRating) (name : Option Text)
  | autotuneSetMode (mode : UInt32)
  | autotuneGetMode
  | autotuneUsers (names : List Text)
  | autotuneUsersList
  | autotuneAddRemove (consider : Bool) (names : List Text)
  -- From here on, commands for the owner of the account.
  | stationInfo (name : Option Text)
  | stationRename (name newName : Text)
  | stationDelete (name : Text)
  | stationCreateBySong (songId : Option Text)
  | stationCreateBySongWName (name : Text) (songId : Option Text)
  | stationCreate (suggestionId : Text)
  | stationCreateWName (name suggestionId : Text)
  | stationCreateById (stationId : Text)
  | stationCreateByIdWName (name stationId : Text)
  | getSuggestions (kind : SuggestionKind) (term : Option Text)
  | rateLove (songId : Option Text)
  | rateHate (songId : Option Text)
  | rateNeutral (songId : Option Text)
  | rateOverplayed (songId : Option Text)
  | seedAdd (suggestionId : Text)
  | seedAddWStation (suggestionId name : Text)
  | seedDeleteBySong (artist : Bool) (songId : Option Text)
  | seedDeleteById (seedId : Text)
  | seedAddBySong (artist : Bool) (songId : Option Text)
  | seedAddBySongWStation (artist : Bool) (name : Text) (songId : Option Text)
  | explainSongChoice (songId : Option Text)
  | createBookmark (artist : Bool) (songId : Option Text)
  -- The range of the owner's commands ends here.
  | getVolume
  | setVolume (level : Text)
  | getProxy
  | setProxy (url : Text)
  | getControlProxy
  | setControlProxy (url : Text)
  | getHistorySize
  | setHistorySize (length : Nat)
  | getAudioQuality
  | setAudioQuality (quality : AudioQuality)
  | getCapturePath
  | setCapturePath (off : Bool) (path : Option Text)
  | setShoutcast (command : ShoutcastCommand) (connect : Option Text)
  | getRpcHost
  | setRpcHost (value : Text)
  | getRpcTlsPort
  | setRpcTlsPort (value : Option Text)
  | getPartner
  | setPartner (user password : Text)
  | getPandoraDevice
  | setPandoraDevice (value : Text)
  | getEncryptPassword
  | setEncryptPassword (value : Text)
  | getDecryptPassword
  | setDecryptPassword (value : Text)
  | getTlsFingerprint
  | setTlsFingerprint (value : Text)
  | getOutputDriver
  | setOutputDriver (value : Option Text)
  | getOutputDevice
  | setOutputDevice (value : Option Text)
  | getOutputId
  | setOutputId (value : Option Text)
  | getOutputServer
  | setOutputServer (value : Option Text)
  | testAudioOutput
  | setLoggingFlags
  | showUserActions (on : Bool)
  | getVisitorRank
  | setVisitorRank (rank : UserRank)
  | getPauseTimeout
  | setPauseTimeout (duration : Nat)
  | getPlaylistTimeout
  | setPlaylistTimeout (duration : Nat)
  | getPandoraRetry
  | setPandoraRetry (duration : Nat)
  | getUserRank
  | getPandoraUser
  | pandoraUser (remember : Bool) (username password : Text) (ownership : Ownership)
  | pandoraUserSpecify (username password manager : Text)
  | pandoraExisting (name : Text)
  | waitForAuthentication
  | waitForEndOfSong
  | waitForNextSong
  | authenticate (name password : Text)
  | setMyPassword (old new : Text)
  | userCreate (rank : UserRank) (name password : Text)
  | userSetPassword (name password : Text)
  | userSetRank (name : Text) (rank : UserRank)
  | userDelete (name : Text)
  | userGrant (privilege : Privilege) (names : List Text)
  | userRevoke (privilege : Privilege) (names : List Text)
  | userListByPrivilege (privilege : Privilege)
  | userList (name : Option Text)
  | userListPandora
  | userKick (name : Text)
  | userKickVisitors
  | usersOnline
  | yell
  | shutdown
  | quit

/-- A command, or a command to be executed on behalf of a user, of which the first word may be
`quit`. -/
inductive CommandLine where
  | plain (command : Command)
  | asUser (name password : Text) (quits : Bool) (line : CommandLine)

/-- The grammar admits numbers in a range only: here, that of `set history length`. -/
def Command.InRange : Command → Prop
  | .setHistorySize length => 1 ≤ length ∧ length ≤ 50
  | _ => True

def CommandLine.InRange : CommandLine → Prop
  | .plain command => command.InRange
  | .asUser _ _ _ line => line.InRange

/-- The commands between the markers of the owner's range. -/
def Command.inOwnerRange : Command → Bool
  | .stationInfo _ | .stationRename .. | .stationDelete _ | .stationCreateBySong _
  | .stationCreateBySongWName .. | .stationCreate _ | .stationCreateWName ..
  | .stationCreateById _ | .stationCreateByIdWName .. | .getSuggestions .. | .rateLove _
  | .rateHate _ | .rateNeutral _ | .rateOverplayed _ | .seedAdd _ | .seedAddWStation ..
  | .seedDeleteBySong .. | .seedDeleteById _ | .seedAddBySong .. | .seedAddBySongWStation ..
  | .explainSongChoice _ | .createBookmark .. => true
  | _ => false

namespace Server

variable (world : World) (crypt : Text → Text → Text)

/-- Display help. -/
def sendStatementList (server : Server) (session : Nat) (topic : Option Text) : Server :=
  let app := server.app
  let shown := world.allStatements.filter fun set =>
    set.userType.any (app.haveRank session) || set.privilege.any (app.havePrivilege session)
  let matching := shown.flatMap fun set => set.statements.filter fun statement =>
    topic.all fun topic => (Text.foldCase topic).isPrefixOf (Text.foldCase statement)
  server.send (.connection session) (matching.map fun _ => .iInfo)

/-- Commands that need not be authorised; not even the parser's errors are reported before the
first check. -/
def executeUnprivileged (server : Server) (session : Nat) :
    Command → Option (Except Fault Server)
  | .help topic => some (.ok ((server.reply session .sOk).sendStatementList world session topic))
  | .quit =>
      let closed := (server.reply session .sSignoff).app.modifyContext session fun context =>
        context.closeConnection
      some (.ok ((server.reply session .sSignoff).withApp closed))
  | .authenticate name password => some (server.authenticate world crypt session name password)
  | .getUserRank => some (.ok ((server.reply session .sOk).sendPrivileges session))
  | _ => none

/-- Commands of the owner's range. -/
def executeOwner (server : Server) (session : Nat) : Command → Except Fault Server
  | .stationInfo name =>
      match server.getStationByNameOrCurrent session name with
      | .error fault => .error fault
      | .ok (server, none) => .ok server
      | .ok (server, some station) => .ok (server.sendStationInfo world session station)
  | .stationRename name newName => server.renameStation world session name newName
  | .stationDelete name => .ok (server.deleteStation world session name)
  | .stationCreateBySong songId => .ok (server.createStationFromSong world session none songId)
  | .stationCreateBySongWName name songId =>
      .ok (server.createStationFromSong world session (some name) songId)
  | .stationCreateById stationId =>
      .ok (server.createStationFromShared world session none stationId)
  | .stationCreateByIdWName name stationId =>
      .ok (server.createStationFromShared world session (some name) stationId)
  | .stationCreate suggestionId =>
      .ok (server.createStationFromSuggestion world session none suggestionId)
  | .stationCreateWName name suggestionId =>
      .ok (server.createStationFromSuggestion world session (some name) suggestionId)
  | .getSuggestions kind term => .ok (server.performQuery world session kind term)
  | .rateLove songId => .ok (server.rateSong world session .love songId)
  | .rateHate songId => .ok (server.rateSong world session .hate songId)
  | .rateNeutral songId => .ok (server.rateSong world session .neutral songId)
  | .rateOverplayed songId => .ok (server.rateSong world session .overplayed songId)
  | .seedAdd suggestionId => server.addSeed world session none suggestionId
  | .seedAddWStation suggestionId name => server.addSeed world session (some name) suggestionId
  | .seedDeleteBySong artist songId => .ok (server.removeSongSeed world session artist songId)
  | .seedDeleteById seedId => .ok (server.removeSeed world session seedId)
  | .seedAddBySong artist songId => .ok (server.addSongSeed world session none artist songId)
  | .seedAddBySongWStation artist name songId =>
      .ok (server.addSongSeed world session (some name) artist songId)
  | .explainSongChoice songId => .ok (server.explainSongChoice world session songId)
  | .createBookmark artist songId => .ok (server.createBookmark world session artist songId)
  | _ => .ok (server.reply session .eNotImplemented)

/-- The first switch after the check for a listener: commands for listeners, and commands that
check for privileges themselves. -/
def executeListener (server : Server) (session : Nat) : Command → Option (Except Fault Server)
  | .parseFailure => some (.ok (server.reply session .eFailure))
  | .parseIncomplete => some (.ok (server.reply session .eBadCommand))
  | .parseInvalidKeyword => some (.ok (server.reply session .eBadCommand))
  | .parseNumeric => some (.ok (server.reply session .eBadCommand))
  | .parseRange => some (.ok (server.reply session .eBadCommand))
  | .parseExtraTerms => some (.ok (server.reply session .eBadCommand))
  | .nop => some (.ok server)
  | .yell => some (.ok ((server.sendResponse .iYell).reply session .sOk))
  | .getVolume => some (.ok (server.reportValue session .iVolume))
  | .autotuneGetMode => some (.ok (server.reportValue session .iAutotuneMode))
  | .getHistorySize => some (.ok (server.reportValue session .iHistorySize))
  | .getAudioQuality => some (.ok (server.reportValue session .iAudioQuality))
  | .timeStatus => some (.ok (server.sendPlaybackStatus (.connection session)))
  | .queryStatus => some (server.queryStatus session)
  | .queryHistory index => some (.ok (server.sendSongLists session true index))
  | .queryQueue index => some (.ok (server.sendSongLists session false index))
  | .quickMixIncluded => some (.ok (server.sendStationList session (·.useQuickMix)))
  | .quickMixExcluded => some (.ok (server.sendStationList session (!·.useQuickMix)))
  | .stationList => some (.ok (server.sendStationList session fun _ => true))
  | .stationRatings name =>
      some (match (server.app.context session).user with
        | none => .ok (server.reply session .eLoginRequired)
        | some _ => server.sendStationRatings session name)
  | .stationRate rating name =>
      some (match (server.app.context session).user with
        | none => .ok (server.reply session .eLoginRequired)
        | some user => server.rateStation world session user rating name)
  | .setMyPassword old _ =>
      some (match (server.app.context session).user with
        | none => .ok (server.reply session .eLoginRequired)
        | some user => server.changePassword world crypt session user old)
  | .waitForEndOfSong =>
      some (if server.app.currentSong.isSome then server.waitForEvent session .trackEnded
        else .ok (server.reply session .eWrongState))
  | .waitForNextSong => some (server.waitForEvent session .trackStarted)
  | .usersOnline =>
      let administrator := server.app.haveRank session .administrator
      some (.ok (if administrator || server.app.settings.broadcastUserActions then
        server.sendSelectUsers session .online administrator
      else server.reply session .eUnauthorized))
  | .userListPandora =>
      some (.ok (if server.app.havePrivilege session .service then
        server.sendSelectUsers session .rememberingCredentials
          (server.app.haveRank session .administrator)
      else server.reply session .eUnauthorized))
  | .pandoraUser remember username password ownership =>
      some (if server.app.havePrivilege session .service then
        server.announceAction.acceptNewCredentials world session remember username password
          ownership none
      else .ok (server.reply session .eUnauthorized))
  | .pandoraUserSpecify username password manager =>
      some (if server.app.havePrivilege session .service then
        server.announceAction.acceptNewCredentials world session false username password
          .unspecified (some manager)
      else .ok (server.reply session .eUnauthorized))
  | .pandoraExisting name =>
      some (if server.app.havePrivilege session .service then
        server.restoreCredentials world session name
      else .ok (server.reply session .eUnauthorized))
  | .waitForAuthentication =>
      some (if server.app.havePrivilege session .service then
        if server.app.settings.pending.username.isSome then
          server.waitForEvent session .authenticated
        else .ok (server.reply session .eWrongState)
      else .ok (server.reply session .eUnauthorized))
  | .autotuneUsersList =>
      some (.ok (if server.app.havePrivilege session .tuner ||
          server.app.settings.broadcastUserActions then
        server.sendSelectUsers session .autotune (server.app.haveRank session .administrator)
      else server.reply session .eUnauthorized))
  | .autotuneUsers names =>
      some (if server.app.havePrivilege session .tuner then
        server.autotune world session true true names
      else .ok (server.reply session .eUnauthorized))
  | .autotuneAddRemove consider names =>
      some (if server.app.havePrivilege session .tuner then
        server.autotune world session false consider names
      else .ok (server.reply session .eUnauthorized))
  | _ => none

/-- The switch after the check for a standard user: commands that control playback. -/
def executeStandard (server : Server) (session : Nat) : Command → Option (Except Fault Server)
  | .setVolume level => some (.ok (server.setVolume session level))
  | .nextSong => some (server.nextSong world session)
  | .playStation name =>
      some (server.selectStation world session
        (pianoFindStationByName server.app.stationState.stations name) false true)
  | .playQuickMix auto =>
      some (server.selectStation world session
        (pianoFindQuickMixStation server.app.stationState.stations) auto true)
  | .selectStation name =>
      some (server.selectStation world session
        (pianoFindStationByName server.app.stationState.stations name) false false)
  | .selectQuickMix auto =>
      some (server.selectStation world session
        (pianoFindQuickMixStation server.app.stationState.stations) auto false)
  | .stopPlayback now => some (server.stopPlayback world session now)
  | .play => some (.ok (server.changePlayback world session .play))
  | .pausePlayback => some (.ok (server.changePlayback world session .pause))
  | .playPause => some (.ok (server.changePlayback world session .toggle))
  | .quickMixSet names => some (server.changeMix world session .set names)
  | .quickMixAdd names => some (server.changeMix world session .add names)
  | .quickMixDrop names => some (server.changeMix world session .drop names)
  | .quickMixToggle names => some (server.changeMix world session .toggle names)
  | _ => none

/-- The switch after the check for an administrator. -/
def executeAdministrator (server : Server) (session : Nat) : Command → Except Fault Server :=
  let settings := server.app.settings
  fun
  | .autotuneSetMode mode =>
      ((server.withSettings { settings with automaticMode := mode }).reply session
        .sOk).recomputeStations world
  | .setHistorySize length =>
      .ok (server.changeNumber session { settings with historyLength := length } .iHistorySize)
  | .setAudioQuality quality =>
      .ok (server.changeNumber session { settings with audioQuality := quality } .iAudioQuality)
  | .setShoutcast command connect => .ok (server.setShoutcast world session command connect)
  | .getCapturePath =>
      .ok (server.reportSetting session .iCapturePath
        (some ((settings.text .capturePath).getD (ascii "capture off"))))
  | .setCapturePath off path => .ok (server.setCapturePath world session off path)
  | .getControlProxy =>
      .ok (server.reportSetting session .iControlProxy (settings.text .controlProxy))
  | .setControlProxy url => .ok (server.setControlProxy world session url)
  | .getPauseTimeout => .ok (server.reportValue session .iPauseTimeout)
  | .setPauseTimeout duration =>
      .ok (server.changeNumber session { settings with pauseTimeout := duration } .iPauseTimeout)
  | .getPlaylistTimeout => .ok (server.reportValue session .iPlaylistTimeout)
  | .setPlaylistTimeout duration =>
      .ok (server.changeNumber session { settings with playlistExpiration := duration }
        .iPlaylistTimeout)
  | .getPandoraRetry => .ok (server.reportValue session .iPandoraRetry)
  | .setPandoraRetry duration =>
      .ok (server.changeNumber session { settings with pandoraRetry := duration } .iPandoraRetry)
  | .getProxy => .ok (server.reportSetting session .iProxy (settings.text .proxy))
  | .setProxy url => .ok (server.setProxy session url)
  | .getRpcHost => .ok (server.reportSetting session .iRpcHost (settings.text .rpcHost))
  | .setRpcHost value => .ok (server.changeSetting session .rpcHost (some value))
  | .getRpcTlsPort => .ok (server.reportSetting session .iRpcTlsPort (settings.text .rpcTlsPort))
  | .setRpcTlsPort value => .ok (server.changeSetting session .rpcTlsPort value)
  | .getPandoraDevice => .ok (server.reportSetting session .iPandoraDevice (settings.text .device))
  | .setPandoraDevice value => .ok (server.changeSetting session .device (some value))
  | .getEncryptPassword =>
      .ok (server.reportSetting session .iEncryptionPassword (settings.text .outkey))
  | .setEncryptPassword value => .ok (server.changeSetting session .outkey (some value))
  | .getDecryptPassword =>
      .ok (server.reportSetting session .iDecryptionPassword (settings.text .inkey))
  | .setDecryptPassword value => .ok (server.changeSetting session .inkey (some value))
  | .getPartner =>
      .ok (server.send (.connection session) [.sData, .iPartnerUser, .iPartnerPassword, .sDataEnd])
  | .setPartner user password =>
      .ok ((server.changeSetting session .partnerPassword (some password)).setText .partnerUser
        (some user))
  | .getTlsFingerprint => .ok (server.reportValue session .iTlsFingerprint)
  | .setTlsFingerprint value => .ok (server.changeFingerprint session value)
  | .getOutputDriver =>
      .ok (server.reportSetting session .iOutputDriver (settings.text .outputDriver))
  | .setOutputDriver value =>
      .ok (if value.isSome && !world.audioDriver value then server.reply session .eNotFound
        else server.changeSetting session .outputDriver value)
  | .getOutputDevice =>
      .ok (server.reportSetting session .iOutputDevice (settings.text .outputDevice))
  | .setOutputDevice value => .ok (server.changeSetting session .outputDevice value)
  | .getOutputId => .ok (server.reportSetting session .iOutputId (settings.text .outputId))
  | .setOutputId value => .ok (server.changeSetting session .outputId value)
  | .getOutputServer =>
      .ok (server.reportSetting session .iOutputServer (settings.text .outputServer))
  | .setOutputServer value => .ok (server.changeSetting session .outputServer value)
  | .testAudioOutput =>
      .ok (if server.app.currentSong.isSome then server.reply session .eWrongState
        else server.generateTestTone world session)
  | .setLoggingFlags => .ok server
  | .showUserActions on =>
      .ok ((server.withSettings { settings with broadcastUserActions := on }).reply session .sOk)
  | .shutdown => .ok ((server.withApp { server.app with quitRequested := true }).reply session .sOk)
  | .getVisitorRank => .ok ((server.sendPrivileges session).reply session .sOk)
  | .setVisitorRank rank =>
      .ok (((server.withUsers (server.app.users.setVisitorRank rank)).announcePrivileges
        none).reply session .sOk)
  | .getPandoraUser =>
      .ok (if settings.pandora.username.isNone then server.reply session .sDataEnd
        else if server.app.havePrivilege session .manager then
          server.send (.connection session) [.sData, .iPandoraUser, .iPandoraPassword, .sDataEnd]
        else server.reply session .eUnauthorized)
  | .userCreate rank name _ => server.createUser world session rank name
  | .userSetPassword name _ =>
      match server.getUserByName session name with
      | (server, none) => .ok server
      | (server, some user) =>
          .ok ((server.withUsers (server.app.users.setUserPassword (.listed user.serial)
            world.encryptedPassword)).reply session .sOk)
  | .userSetRank name rank => server.setUserRank session name rank
  | .userGrant privilege names => server.setPrivileges world session privilege true names
  | .userRevoke privilege names => server.setPrivileges world session privilege false names
  | .userListByPrivilege privilege =>
      .ok (server.sendSelectUsers session (.privilege privilege) true)
  | .userKickVisitors => .ok ((server.userLogoff none).reply session .sOk)
  | .userKick name => .ok (server.kickUser session name)
  | .userDelete name => server.deleteUser session name
  | .userList name => .ok (server.sendUserList session name)
  | _ => .ok (server.reply session .eNotImplemented)

/-- Execute a command given on a connection. -/
def executePlain (server : Server) (session : Nat) (command : Command) : Except Fault Server :=
  match server.executeUnprivileged world crypt session command with
  | some result => result
  | none =>
      if !server.app.haveRank session .listener then .ok (server.reply session .eUnauthorized)
      else if command.inOwnerRange then
        if server.app.havePrivilege session .manager then server.executeOwner world session command
        else .ok (server.reply session .eUnauthorized)
      else
        match server.executeListener world crypt session command with
        | some result => result
        | none =>
            if !server.app.haveRank session .standard then
              .ok (server.reply session .eUnauthorized)
            else
              match server.executeStandard world session command with
              | some result => result
              | none =>
                  if !server.app.haveRank session .administrator then
                    .ok (server.reply session .eUnauthorized)
                  else server.executeAdministrator world session command

/-- The connection of a command on behalf of a user is closed beforehand. -/
def closing (server : Server) (session : Nat) : Server :=
  server.withApp (server.app.modifyContext session fun context => context.closeConnection)

/-- Log a user in on a connection, or out, without further ado. -/
def setContextUser (server : Server) (session : Nat) (user : Option UserRef) : Server :=
  server.withApp (server.app.modifyContext session fun context => { context with user := user })

/-- Execute a command line given on a connection. -/
def execute (server : Server) (session : Nat) : CommandLine → Except Fault Server
  | .plain command => server.executePlain world crypt session command
  | .asUser name password quits line =>
      let closing := server.closing session
      match closing.app.users.authenticateUser crypt name password with
      | .error fault => .error fault
      | .ok none => .ok ((closing.setContextUser session none).reply session .eCredentials)
      | .ok (some user) =>
          let entered := closing.setContextUser session (some (.listed user.serial))
          match if quits then .ok (entered.reply session .sOk)
            else execute entered session line with
          | .error fault => .error fault
          | .ok after => .ok (after.setContextUser session none)

end Server

end Pianod
