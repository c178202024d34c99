import Pianod.Football.Recognition

/-!
# The command table

Every command has a number and one pattern or more.  The patterns come in groups, one for each level
of authorisation, and all of them go into the same parser.
-/

namespace Pianod

open Foundation Football

/-- The options that the server can be built with. -/
structure Features where
  enableCapture : Bool
  enableShout : Bool
deriving DecidableEq, Repr

/-- The commands, and the markers around those for the owner of the account. -/
inductive MyCommand where
  | nop
  | timeStatus
  | help
  | queryStatus
  | queryHistory
  | queryQueue
  | nextSong
  | pausePlayback
  | stopPlayback
  | play
  | playPause
  | playStation
  | playQuickMix
  | quickMixIncluded
  | quickMixExcluded
  | quickMixSet
  | quickMixAdd
  | quickMixDrop
  | quickMixToggle
  | selectQuickMix
  | selectStation
  | stationList
  | stationRatings
  | stationRate
  | autotuneSetMode
  | autotuneGetMode
  | autotuneUsers
  | autotuneUsersList
  | autotuneAddRemove
  | ownerRangeStart
  | stationInfo
  | stationRename
  | stationDelete
  | stationCreateBySong
  | stationCreateBySongWName
  | stationCreate
  | stationCreateWName
  | stationCreateById
  | stationCreateByIdWName
  | getSuggestions
  | rateLove
  | rateHate
  | rateNeutral
  | rateOverplayed
  | seedAdd
  | seedAddWStation
  | seedDeleteBySong
  | seedDeleteById
  | seedAddBySong
  | seedAddBySongWStation
  | explainSongChoice
  | createBookmark
  | ownerRangeEnd
  | getVolume
  | setVolume
  | getProxy
  | setProxy
  | getControlProxy
  | setControlProxy
  | getHistorySize
  | setHistorySize
  | getAudioQuality
  | setAudioQuality
  | getCapturePath
  | setCapturePath
  | setShoutcast
  | getRpcHost
  | setRpcHost
  | getRpcTlsPort
  | setRpcTlsPort
  | getPartner
  | setPartner
  | getPandoraDevice
  | setPandoraDevice
  | getEncryptPassword
  | setEncryptPassword
  | getDecryptPassword
  | setDecryptPassword
  | getTlsFingerprint
  | setTlsFingerprint
  | getOutputDriver
  | setOutputDriver
  | getOutputDevice
  | setOutputDevice
  | getOutputId
  | setOutputId
  | getOutputServer
  | setOutputServer
  | testAudioOutput
  | setLoggingFlags
  | showUserActions
  | getVisitorRank
  | setVisitorRank
  | getPauseTimeout
  | setPauseTimeout
  | getPlaylistTimeout
  | setPlaylistTimeout
  | getPandoraRetry
  | setPandoraRetry
  | getUserRank
  | getPandoraUser
  | pandoraUser
  | pandoraUserSpecify
  | pandoraExisting
  | waitForAuthentication
  | waitForEndOfSong
  | waitForNextSong
  | authenticate
  | authAndExec
  | setMyPassword
  | userCreate
  | userSetPassword
  | userSetRank
  | userDelete
  | userGrant
  | userRevoke
  | userListByPrivilege
  | userList
  | userListPandora
  | userKick
  | userKickVisitors
  | usersOnline
  | yell
  | shutdown
  | quit
deriving DecidableEq, Repr

/-- The commands that are compiled in, in the order of their declaration. -/
def MyCommand.declared (features : Features) : List MyCommand :=
  List.flatten [
    [.nop, .timeStatus, .help, .queryStatus, .queryHistory, .queryQueue, .nextSong,
      .pausePlayback, .stopPlayback, .play, .playPause, .playStation, .playQuickMix,
      .quickMixIncluded, .quickMixExcluded, .quickMixSet, .quickMixAdd, .quickMixDrop,
      .quickMixToggle, .selectQuickMix, .selectStation, .stationList, .stationRatings,
      .stationRate, .autotuneSetMode, .autotuneGetMode, .autotuneUsers, .autotuneUsersList,
      .autotuneAddRemove, .ownerRangeStart, .stationInfo, .stationRename, .stationDelete,
      .stationCreateBySong, .stationCreateBySongWName, .stationCreate, .stationCreateWName,
      .stationCreateById, .stationCreateByIdWName, .getSuggestions, .rateLove, .rateHate,
      .rateNeutral, .rateOverplayed, .seedAdd, .seedAddWStation, .seedDeleteBySong,
      .seedDeleteById, .seedAddBySong, .seedAddBySongWStation, .explainSongChoice,
      .createBookmark, .ownerRangeEnd, .getVolume, .setVolume, .getProxy, .setProxy,
      .getControlProxy, .setControlProxy, .getHistorySize, .setHistorySize, .getAudioQuality,
      .setAudioQuality],
    if features.enableCapture then [.getCapturePath, .setCapturePath] else [],
    if features.enableShout then [.setShoutcast] else [],
    [.getRpcHost, .setRpcHost, .getRpcTlsPort, .setRpcTlsPort, .getPartner, .setPartner,
      .getPandoraDevice, .setPandoraDevice, .getEncryptPassword, .setEncryptPassword,
      .getDecryptPassword, .setDecryptPassword, .getTlsFingerprint, .setTlsFingerprint,
      .getOutputDriver, .setOutputDriver, .getOutputDevice, .setOutputDevice, .getOutputId,
      .setOutputId, .getOutputServer, .setOutputServer, .testAudioOutput, .setLoggingFlags,
      .showUserActions, .getVisitorRank, .setVisitorRank, .getPauseTimeout, .setPauseTimeout,
      .getPlaylistTimeout, .setPlaylistTimeout, .getPandoraRetry, .setPandoraRetry, .getUserRank,
      .getPandoraUser, .pandoraUser, .pandoraUserSpecify, .pandoraExisting,
      .waitForAuthentication, .waitForEndOfSong, .waitForNextSong, .authenticate, .authAndExec,
      .setMyPassword, .userCreate, .userSetPassword, .userSetRank, .userDelete, .userGrant,
      .userRevoke, .userListByPrivilege, .userList, .userListPandora, .userKick,
      .userKickVisitors, .usersOnline, .yell, .shutdown, .quit]]

/-- The number of a command; the first one has number one. -/
def MyCommand.number (features : Features) (command : MyCommand) : Int :=
  (declared features).idxOf command + 1

/-- The bytes of a literal. -/
def utf8 (literal : String) : Text := literal.toByteArray.data.toList

/-- A pattern of a command. -/
structure Statement where
  command : MyCommand
  pattern : Text
deriving DecidableEq

def Statement.definition (features : Features) (statement : Statement) : ParseDefinition :=
  ⟨statement.command.number features, statement.pattern⟩

def rankPattern : Text := utf8 "<disabled|listener|user|admin>"

def privPattern : Text := utf8 "<service|influence|tuner>"

def oldRankPattern : Text := utf8 "<disabled|guest|user|admin>"

def loginStatements : List Statement :=
  [⟨.help, utf8 "help [\x7bcommand\x7d]"⟩,
    ⟨.quit, utf8 "quit"⟩,
    ⟨.authenticate, utf8 "user \x7busername\x7d \x7bpassword\x7d"⟩,
    ⟨.authAndExec, utf8 "as user \x7busername\x7d \x7bpassword\x7d \x7bcommand\x7d ..."⟩,
    ⟨.getUserRank, utf8 "get privileges"⟩]

def listenerStatements : List Statement :=
  [⟨.timeStatus, utf8 ""⟩,
    ⟨.nop, utf8 "# ..."⟩,
    ⟨.help, utf8 "? [\x7bcommand\x7d]"⟩,
    ⟨.queryStatus, utf8 "status"⟩,
    ⟨.queryHistory, utf8 "history [\x7b#index\x7d]"⟩,
    ⟨.queryQueue, utf8 "queue [\x7b#index\x7d]"⟩,
    ⟨.yell, utf8 "yell \x7bannouncement\x7d"⟩,
    ⟨.getHistorySize, utf8 "get history length"⟩,
    ⟨.getAudioQuality, utf8 "get audio quality"⟩,
    ⟨.autotuneGetMode, utf8 "autotune mode"⟩,
    ⟨.getVolume, utf8 "volume"⟩,
    ⟨.setMyPassword, utf8 "set password \x7bold\x7d \x7bnew\x7d"⟩,
    ⟨.waitForEndOfSong, utf8 "wait for end of song"⟩,
    ⟨.waitForNextSong, utf8 "wait for next song"⟩]

def influenceStatements : List Statement :=
  [⟨.stationRate, utf8 "rate station <good|bad|neutral> [\x7bstation\x7d]"⟩,
    ⟨.stationRatings, utf8 "station ratings [\x7bstation\x7d]"⟩]

def userStatements : List Statement :=
  [⟨.nextSong, utf8 "skip"⟩,
    ⟨.pausePlayback, utf8 "pause"⟩,
    ⟨.stopPlayback, utf8 "stop [now]"⟩,
    ⟨.play, utf8 "play"⟩,
    ⟨.playPause, utf8 "playpause"⟩,
    ⟨.playQuickMix, utf8 "play <mix|auto>"⟩,
    ⟨.playStation, utf8 "play station \x7bstation\x7d"⟩,
    ⟨.selectQuickMix, utf8 "select <mix|auto>"⟩,
    ⟨.selectStation, utf8 "select station \x7bstation\x7d"⟩,
    ⟨.stationList, utf8 "stations [list]"⟩,
    ⟨.stationInfo, utf8 "station seeds [\x7bstation\x7d]"⟩,
    ⟨.quickMixIncluded, utf8 "mix"⟩,
    ⟨.quickMixIncluded, utf8 "mix list"⟩,
    ⟨.quickMixIncluded, utf8 "mix list included"⟩,
    ⟨.quickMixExcluded, utf8 "mix list excluded"⟩,
    ⟨.quickMixAdd, utf8 "mix add \x7bstation\x7d ..."⟩,
    ⟨.quickMixDrop, utf8 "mix remove \x7bstation\x7d ..."⟩,
    ⟨.quickMixSet, utf8 "mix set \x7bstation\x7d ..."⟩,
    ⟨.quickMixToggle, utf8 "mix toggle \x7bstation\x7d ..."⟩,
    ⟨.getSuggestions, utf8 "find <any|song|artist|genre> [\x7bspecifier\x7d]"⟩,
    ⟨.setVolume, utf8 "volume \x7blevel\x7d"⟩]

def adminStatements (features : Features) : List Statement :=
  List.flatten [
    [⟨.setAudioQuality, utf8 "set audio quality <high|medium|low>"⟩,
      ⟨.getPandoraUser, utf8 "get pandora user"⟩,
      ⟨.getRpcHost, utf8 "get rpc host"⟩,
      ⟨.setRpcHost, utf8 "set rpc host \x7bhostname\x7d"⟩,
      ⟨.getRpcTlsPort, utf8 "get rpc tls port"⟩,
      ⟨.setRpcTlsPort, utf8 "set rpc tls port [\x7bport\x7d]"⟩,
      ⟨.getPartner, utf8 "get partner"⟩,
      ⟨.setPartner, utf8 "set partner \x7buser\x7d \x7bpassword\x7d"⟩,
      ⟨.getPandoraDevice, utf8 "get pandora device"⟩,
      ⟨.setPandoraDevice, utf8 "set pandora device \x7bdevicetype\x7d"⟩,
      ⟨.getEncryptPassword, utf8 "get encryption password"⟩,
      ⟨.setEncryptPassword, utf8 "set encryption password \x7bpassword\x7d"⟩,
      ⟨.getDecryptPassword, utf8 "get decryption password"⟩,
      ⟨.setDecryptPassword, utf8 "set decryption password \x7bpassword\x7d"⟩,
      ⟨.getTlsFingerprint, utf8 "get tls fingerprint"⟩,
      ⟨.setTlsFingerprint, utf8 "set tls fingerprint \x7bfingerprint\x7d"⟩,
      ⟨.getOutputDriver, utf8 "get audio output driver"⟩,
      ⟨.setOutputDriver, utf8 "set audio output driver [\x7bdriver\x7d]"⟩,
      ⟨.getOutputDevice, utf8 "get audio output device"⟩,
      ⟨.setOutputDevice, utf8 "set audio output device [\x7bdevice\x7d]"⟩,
      ⟨.getOutputId, utf8 "get audio output id"⟩,
      ⟨.setOutputId, utf8 "set audio output id [\x7b#id\x7d]"⟩,
      ⟨.getOutputServer, utf8 "get audio output server"⟩,
      ⟨.setOutputServer, utf8 "set audio output server [\x7bserver\x7d]"⟩,
      ⟨.testAudioOutput, utf8 "test audio output"⟩],
    if features.enableCapture then
      [⟨.getCapturePath, utf8 "get capture"⟩,
        ⟨.setCapturePath, utf8 "set capture <path|off> [\x7bpath\x7d]"⟩]
    else [],
    if features.enableShout then
      [⟨.setShoutcast, utf8 "set shoutcast <server|on|off> [\x7bconnect-string\x7d]"⟩]
    else [],
    [⟨.setLoggingFlags, utf8 "set [football] logging flags \x7b#logging-flags:0x0-0xffff\x7d"⟩,
      ⟨.getProxy, utf8 "get proxy"⟩,
      ⟨.setProxy, utf8 "set proxy \x7burl\x7d"⟩,
      ⟨.getControlProxy, utf8 "get control proxy"⟩,
      ⟨.setControlProxy, utf8 "set control proxy \x7burl\x7d"⟩,
      ⟨.getPauseTimeout, utf8 "get pause timeout"⟩,
      ⟨.setPauseTimeout, utf8 "set pause timeout \x7b#duration:15-86400\x7d"⟩,
      ⟨.getPandoraRetry, utf8 "get pandora retry"⟩,
      ⟨.setPandoraRetry, utf8 "set pandora retry \x7b#duration:5-300\x7d"⟩,
      ⟨.getPlaylistTimeout, utf8 "get playlist timeout"⟩,
      ⟨.setPlaylistTimeout, utf8 "set playlist timeout \x7b#duration:1800-86400\x7d"⟩,
      ⟨.setHistorySize, utf8 "set history length \x7b#length:1-50\x7d"⟩,
      ⟨.setVisitorRank, (utf8 "set visitor rank " ++ rankPattern)⟩,
      ⟨.autotuneSetMode, utf8 "autotune mode <login|flag|all>"⟩,
      ⟨.showUserActions, utf8 "announce user actions <on|off>"⟩,
      ⟨.shutdown, utf8 "shutdown"⟩,
      ⟨.userCreate, utf8 "create <listener|user|admin> \x7buser\x7d \x7bpasswd\x7d"⟩,
      ⟨.userSetPassword, utf8 "set user password \x7buser\x7d \x7bpassword\x7d"⟩,
      ⟨.userSetRank, (utf8 "set user rank \x7buser\x7d " ++ rankPattern)⟩,
      ⟨.userDelete, utf8 "delete user \x7buser\x7d"⟩,
      ⟨.userGrant, (utf8 "grant " ++ privPattern ++ utf8 " to \x7buser\x7d ...")⟩,
      ⟨.userRevoke, (utf8 "revoke " ++ privPattern ++ utf8 " from \x7buser\x7d ...")⟩,
      ⟨.userListByPrivilege, utf8 "users with <owner|service|influence|tuner|present>"⟩,
      ⟨.userList, utf8 "users list [\x7buser\x7d]"⟩,
      ⟨.usersOnline, utf8 "users online"⟩,
      ⟨.userKick, utf8 "kick user \x7buser\x7d [\x7bmessage\x7d]"⟩,
      ⟨.userKickVisitors, utf8 "kick visitors [\x7bmessage\x7d]"⟩]]

def ownerStatements : List Statement :=
  [⟨.rateLove, utf8 "rate good [\x7bsongid\x7d]"⟩,
    ⟨.rateHate, utf8 "rate bad [\x7bsongid\x7d]"⟩,
    ⟨.rateNeutral, utf8 "rate neutral [\x7bsongid\x7d]"⟩,
    ⟨.rateOverplayed, utf8 "rate overplayed [\x7bsongid\x7d]"⟩,
    ⟨.stationCreateBySong, utf8 "create station from <song|artist> [\x7bsongid\x7d]"⟩,
    ⟨.stationCreateBySongWName,
      utf8 "create station named \x7bname\x7d from <song|artist> [\x7bsongid\x7d]"⟩,
    ⟨.stationCreate, utf8 "create station from suggestion \x7bsuggestionid\x7d"⟩,
    ⟨.stationCreateWName,
      utf8 "create station named \x7bname\x7d from suggestion \x7bsuggestionid\x7d"⟩,
    ⟨.stationCreateById, utf8 "create station from shared \x7bstationId\x7d"⟩,
    ⟨.stationCreateByIdWName,
      utf8 "create station named \x7bname\x7d from shared \x7bstationId\x7d"⟩,
    ⟨.stationRename, utf8 "rename station \x7bstation\x7d to \x7bnewname\x7d"⟩,
    ⟨.stationDelete, utf8 "delete station \x7bstation\x7d"⟩,
    ⟨.seedAdd, utf8 "add seed from suggestion \x7bsuggestionid\x7d"⟩,
    ⟨.seedAddWStation, utf8 "add seed from suggestion \x7bsuggestionid\x7d to \x7bstation\x7d"⟩,
    ⟨.seedAddBySong, utf8 "add <song|artist> seed from song [\x7bsongid\x7d]"⟩,
    ⟨.seedAddBySongWStation,
      utf8 "add <song|artist> seed to \x7bstation\x7d from song [\x7bsongid\x7d]"⟩,
    ⟨.seedDeleteBySong, utf8 "delete <song|artist> seed [\x7bsongid\x7d]"⟩,
    ⟨.seedDeleteById, utf8 "delete seed \x7bseedid\x7d"⟩,
    ⟨.explainSongChoice, utf8 "explain song [\x7bsongid\x7d]"⟩,
    ⟨.createBookmark, utf8 "bookmark \x7bsong|artist\x7d for song [\x7bsongid\x7d]"⟩]

def serviceStatements : List Statement :=
  [⟨.pandoraUser, utf8 "[remember] pandora user \x7buser\x7d \x7bpasswd\x7d [mine|unowned]"⟩,
    ⟨.pandoraUserSpecify, utf8 "pandora user \x7buser\x7d \x7bpasswd\x7d managed by \x7buser\x7d"⟩,
    ⟨.pandoraExisting, utf8 "pandora use \x7buser\x7d"⟩,
    ⟨.waitForAuthentication, utf8 "wait for authentication"⟩,
    ⟨.userListPandora, utf8 "pandora list users"⟩]

def tunerStatements : List Statement :=
  [⟨.autotuneUsers, utf8 "autotune for ..."⟩,
    ⟨.autotuneUsersList, utf8 "autotune list users"⟩,
    ⟨.autotuneAddRemove, utf8 "autotune <consider|disregard> \x7buser\x7d ..."⟩]

def deprecatedStatements : List Statement :=
  [⟨.setVisitorRank, (utf8 "set guest level " ++ oldRankPattern)⟩,
    ⟨.userSetRank, (utf8 "set user level \x7buser\x7d " ++ oldRankPattern)⟩,
    ⟨.setVisitorRank, utf8 "set visitor rank guest"⟩,
    ⟨.userCreate, utf8 "create guest \x7buser\x7d \x7bpasswd\x7d"⟩,
    ⟨.userSetRank, utf8 "set user rank \x7buser\x7d guest "⟩,
    ⟨.pandoraUserSpecify, utf8 "pandora user \x7buser\x7d \x7bpasswd\x7d owned by \x7buser\x7d"⟩]

/-- All statements, by level of authorisation. -/
def allStatements (features : Features) : List (List Statement) :=
  [loginStatements, listenerStatements, influenceStatements, userStatements,
    adminStatements features, ownerStatements, serviceStatements, tunerStatements,
    deprecatedStatements]

/-- The groups of definitions, as they are added to the parser. -/
def commandSets (features : Features) : List (List ParseDefinition) :=
  (allStatements features).map (·.map (Statement.definition features))

/-- Create a parser and add each group of definitions to it. -/
def initParser (doubles : Doubles) (features : Features) : Except Fault (Parser doubles) :=
  FallibleRun.run fbParserAddStatements (fbCreateParser doubles) (commandSets features)

end Pianod
